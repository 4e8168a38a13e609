import VirtualMocap.Proofs.Osc.Refusal

/-!
# Decoding within a room for calls

Under a bound on its calls (`Calls` with room `some n`), decoding gives what the unbounded
decoding gives, or refuses at a call step past the room (`UpToDepth`). So the facts proved
of unbounded decoding carry over to a decoding within any room.
-/

namespace VirtualMocap

namespace Osc

/-- The calls of a frame with the bound on them lifted. -/
def Calls.unbounded (c : Calls) : Calls := { c with room := none }

/-- A step taken within a room for calls against the same step without a bound: results
related by `R`, the same refusal, or a refusal of the bounded step at a call step past
its room. -/
inductive UpToDepth {α β : Type} (R : α → β → Prop) :
    Except DecodeError α → Except DecodeError β → Prop
  | ok {a : α} {b : β} : R a b → UpToDepth R (.ok a) (.ok b)
  | error (e : DecodeError) : UpToDepth R (.error e) (.error e)
  | tooDeep (step : CallStep) (offset : Int) (y : Except DecodeError β) :
      UpToDepth R (.error ⟨.callsTooDeep step, offset⟩) y

namespace UpToDepth

variable {α β γ δ : Type} {R : α → β → Prop} {S : γ → δ → Prop}

theorem bind {x : Except DecodeError α} {y : Except DecodeError β} {f : α → Except DecodeError γ}
    {g : β → Except DecodeError δ}
    (h : UpToDepth R x y) (hf : ∀ a b, R a b → UpToDepth S (f a) (g b)) :
    UpToDepth S (x >>= f) (y >>= g) := by
  cases h with
  | ok hab => exact hf _ _ hab
  | error e => exact .error e
  | tooDeep step offset y => exact .tooDeep step offset _

theorem refl_eq : ∀ x : Except DecodeError α, UpToDepth Eq x x
  | .ok _ => .ok rfl
  | .error e => .error e

theorem bind_eq {x y : Except DecodeError α} {f : α → Except DecodeError γ}
    {g : α → Except DecodeError δ} (h : UpToDepth Eq x y) (hf : ∀ a, UpToDepth S (f a) (g a)) :
    UpToDepth S (x >>= f) (y >>= g) :=
  h.bind fun a _ hab => hab ▸ hf a

end UpToDepth

section Steps

variable (c : Calls)

theorem Calls.reach_upToDepth : ∀ steps, UpToDepth Eq (c.reach steps) (c.unbounded.reach steps)
  | [] => .ok rfl
  | (h, step) :: rest => by
    rw [Calls.unbounded, Calls.reach_unbounded]
    unfold Calls.reach
    split
    · split
      · exact .tooDeep _ _ _
      · simpa [Calls.unbounded] using Calls.reach_upToDepth rest
    · exact .ok rfl

theorem Calls.enter_upToDepth :
    UpToDepth (fun c' d => d = c'.unbounded) c.enter c.unbounded.enter :=
  (c.reach_upToDepth _).bind fun _ _ _ => .ok rfl

theorem Calls.fail_upToDepth {γ δ : Type} {S : γ → δ → Prop} (message : List (Nat × CallStep))
    (e : DecodeError) : UpToDepth S (c.fail message e) (c.unbounded.fail message e) :=
  (c.reach_upToDepth _).bind fun _ _ _ => .error e

theorem Calls.enter_bind {γ δ : Type} {S : γ → δ → Prop} {f : Calls → Except DecodeError γ}
    {g : Calls → Except DecodeError δ} (hf : ∀ d, UpToDepth S (f d) (g d.unbounded)) :
    UpToDepth S (c.enter >>= f) (c.unbounded.enter >>= g) :=
  c.enter_upToDepth.bind fun d _ hd => hd ▸ hf d

theorem Calls.fail_bind {γ δ ε ζ : Type} {S : γ → δ → Prop} (message : List (Nat × CallStep))
    (e : DecodeError) (f : ε → Except DecodeError γ) (g : ζ → Except DecodeError δ) :
    UpToDepth S (c.fail message e >>= f) (c.unbounded.fail message e >>= g) := by
  unfold Calls.fail
  rw [bind_assoc, bind_assoc]
  exact (c.reach_upToDepth _).bind fun _ _ _ => .error e

end Steps

section Readers

variable (c : Calls) (data : List UInt8)

theorem require_upToDepth (off size : Nat) (what : Field) :
    UpToDepth Eq (require c data off size what) (require c.unbounded data off size what) := by
  unfold require
  split <;> split
  · exact (c.reach_upToDepth _).bind fun _ _ _ => c.fail_upToDepth _ _
  · exact c.fail_upToDepth _ _
  · exact (c.reach_upToDepth _).bind fun _ _ _ => .ok rfl
  · exact .ok rfl

theorem skipPadding_upToDepth (off stop : Nat) (what : Field) :
    UpToDepth Eq (skipPadding c data off stop what) (skipPadding c.unbounded data off stop what) := by
  unfold skipPadding
  split
  · exact c.fail_upToDepth _ _
  · refine (c.reach_upToDepth _).bind fun _ _ _ => ?_
    split
    · exact c.fail_upToDepth _ _
    · exact .ok rfl

theorem readPaddedString_upToDepth (off : Nat) (what : Field) :
    UpToDepth Eq (readPaddedString c data off what) (readPaddedString c.unbounded data off what) := by
  unfold readPaddedString
  refine (c.reach_upToDepth _).bind fun _ _ _ => ?_
  split
  · exact c.fail_upToDepth _ _
  · refine c.enter_bind fun d => (skipPadding_upToDepth d data _ _ what).bind_eq fun _ => ?_
    split
    · exact c.fail_upToDepth _ _
    · exact .ok rfl

theorem readArg_upToDepth (tag : Char) (off : Nat) :
    Option.Rel (UpToDepth Eq) (readArg c tag data off) (readArg c.unbounded tag data off) := by
  unfold readArg
  -- the tags the decoder knows read in a frame of their own; the others read nothing
  split_ifs
  all_goals
    first
    | exact .none
    | refine .some (c.enter_bind fun c => ?_)
  · -- an integer
    refine c.enter_bind fun d => (require_upToDepth d data _ _ _).bind_eq fun _ => ?_
    refine (UpToDepth.refl_eq _).bind_eq fun _ => ?_
    exact (c.reach_upToDepth _).bind_eq fun _ => .ok rfl
  · -- a float
    refine c.enter_bind fun d => (require_upToDepth d data _ _ _).bind_eq fun _ => ?_
    refine (UpToDepth.refl_eq _).bind_eq fun _ => ?_
    exact (c.reach_upToDepth _).bind_eq fun _ => .ok rfl
  · -- a text
    refine c.enter_bind fun d => (readPaddedString_upToDepth d data _ _).bind_eq fun _ => ?_
    exact (c.reach_upToDepth _).bind_eq fun _ => .ok rfl
  · -- a blob
    refine c.enter_bind fun d => (require_upToDepth d data _ _ _).bind_eq fun _ => ?_
    refine (UpToDepth.refl_eq _).bind_eq fun _ => ?_
    refine c.enter_bind fun d => (require_upToDepth d data _ _ _).bind_eq fun _ => ?_
    refine c.enter_bind fun d => (skipPadding_upToDepth d data _ _ _).bind_eq fun _ => ?_
    exact (c.reach_upToDepth _).bind_eq fun _ => .ok rfl
  · -- a time tag
    refine c.enter_bind fun d => (require_upToDepth d data _ _ _).bind_eq fun _ => ?_
    refine (UpToDepth.refl_eq _).bind_eq fun _ => ?_
    exact (c.reach_upToDepth _).bind_eq fun _ => .ok rfl
  · exact (c.reach_upToDepth _).bind_eq fun _ => .ok rfl
  · exact (c.reach_upToDepth _).bind_eq fun _ => .ok rfl

theorem readArgs_upToDepth : ∀ (tags : List Char) (tagAt off : Nat) (acc : List Arg),
    UpToDepth Eq (readArgs c data tags tagAt off acc) (readArgs c.unbounded data tags tagAt off acc)
  | [], _, _, _ => .ok rfl
  | tag :: tags, tagAt, off, acc => by
    have hrel := readArg_upToDepth c data tag off
    rw [readArgs, readArgs]
    revert hrel
    generalize readArg c tag data off = x
    generalize readArg c.unbounded tag data off = y
    rintro (⟨hxy⟩ | _)
    · cases hxy with
      | ok hab =>
        subst hab
        exact readArgs_upToDepth tags _ _ _
      | error e => exact .error e
      | tooDeep step offset => exact .tooDeep step offset _
    · exact c.fail_upToDepth _ _

theorem decodeMessage_upToDepth :
    UpToDepth Eq (decodeMessage c data) (decodeMessage c.unbounded data) := by
  unfold decodeMessage
  refine c.enter_bind fun d => (readPaddedString_upToDepth d data _ _).bind_eq fun ⟨address, off⟩ => ?_
  refine (c.reach_upToDepth _).bind_eq fun _ => ?_
  dsimp only
  split
  · exact c.fail_bind _ _ _ _
  split
  · exact (c.reach_upToDepth _).bind_eq fun _ => .ok rfl
  refine (c.reach_upToDepth _).bind_eq fun _ => ?_
  split
  · exact c.fail_bind _ _ _ _
  refine c.enter_bind fun d => (readPaddedString_upToDepth d data _ _).bind_eq fun _ => ?_
  refine (readArgs_upToDepth c data _ _ _ _).bind_eq fun _ => ?_
  split
  · exact c.fail_bind _ _ _ _
  · exact (c.reach_upToDepth _).bind_eq fun _ => .ok rfl

end Readers

section Packets

theorem decodeElements_upToDepth {fuel : Nat}
    (hwith : ∀ data depth limit c, UpToDepth Eq (decodeWith fuel data depth limit c)
      (decodeWith fuel data depth limit c.unbounded)) :
    ∀ (loop : Nat) (data : List UInt8) (off depth : Nat) (limit : DepthLimit) (c : Calls)
      (acc : List Packet),
      UpToDepth Eq (decodeElements fuel loop data off depth limit c acc)
        (decodeElements fuel loop data off depth limit c.unbounded acc) := by
  intro loop
  induction loop with
  | zero =>
    intro data off depth limit c acc
    rw [decodeElements, decodeElements]
    exact .ok rfl
  | succ loop ih =>
    intro data off depth limit c acc
    rw [decodeElements, decodeElements]
    split
    · refine c.enter_bind fun d => (require_upToDepth d data _ _ _).bind_eq fun _ => ?_
      refine (UpToDepth.refl_eq _).bind_eq fun w => ?_
      dsimp only
      split
      · exact c.fail_bind _ _ _ _
      refine c.enter_bind fun d => (require_upToDepth d data _ _ _).bind_eq fun _ => ?_
      refine c.enter_bind fun inner => ?_
      -- the element is decoded in a frame of its own; a refusal in it is moved by its start
      have helement := hwith ((data.drop (off + 4)).take (Bytes.readWord32 w)) depth limit inner
      revert helement
      generalize decodeWith fuel ((data.drop (off + 4)).take (Bytes.readWord32 w)) depth limit inner = x
      generalize decodeWith fuel ((data.drop (off + 4)).take (Bytes.readWord32 w)) depth limit
        inner.unbounded = y
      rintro (⟨rfl⟩ | e | ⟨step, offset⟩)
      · exact ih _ _ _ _ _ _
      · exact .error _
      · exact .tooDeep step _ _
    · exact .ok rfl

theorem decodeWith_upToDepth : ∀ (fuel : Nat) (data : List UInt8) (depth : Nat) (limit : DepthLimit)
    (c : Calls), UpToDepth Eq (decodeWith fuel data depth limit c)
      (decodeWith fuel data depth limit c.unbounded) := by
  intro fuel
  induction fuel with
  | zero =>
    intro data depth limit c
    rw [decodeWith, decodeWith]
    exact .error _
  | succ fuel ih =>
    intro data depth limit c
    rw [decodeWith, decodeWith]
    split
    · exact c.fail_upToDepth _ _
    refine (c.reach_upToDepth _).bind_eq fun _ => ?_
    split
    · -- a bundle, read in a frame of its own
      refine c.enter_bind fun b => ?_
      dsimp only
      -- a limit that is no integer is compared in the general way first
      have hcompare : ∀ {x y : Except DecodeError Packet}, UpToDepth Eq x y →
          UpToDepth Eq (if limit.comparedGenerally then b.reach [(1, .compare)] >>= fun _ => x else x)
            (if limit.comparedGenerally then b.unbounded.reach [(1, .compare)] >>= fun _ => y
              else y) := by
        intro x y h
        split
        · exact (b.reach_upToDepth _).bind_eq fun _ => h
        · exact h
      apply hcompare
      split
      · exact .error _
      · exact b.fail_upToDepth _ _
      · refine b.enter_bind fun t => t.enter_bind fun d => ?_
        refine (require_upToDepth d data _ _ _).bind_eq fun _ => ?_
        refine (UpToDepth.refl_eq _).bind_eq fun _ => ?_
        refine (t.reach_upToDepth _).bind_eq fun _ => ?_
        refine (decodeElements_upToDepth (fun _ _ _ _ => ih _ _ _ _) _ _ _ _ _ b []).bind_eq
          fun _ => ?_
        exact (b.reach_upToDepth _).bind_eq fun _ => .ok rfl
    · -- a message, after ruling out a cut marker and an unknown one
      refine (c.reach_upToDepth _).bind_eq fun _ => ?_
      split
      · exact c.fail_upToDepth _ _
      · refine (c.reach_upToDepth _).bind_eq fun _ => ?_
        split
        · exact c.fail_upToDepth _ _
        · exact c.enter_bind fun d => decodeMessage_upToDepth d data

end Packets
theorem decodeWithin_upToDepth (data : List UInt8) (limit : DepthLimit) (room : Option Nat) :
    UpToDepth Eq (decodeWithin data limit room) (decodeWithin data limit none) :=
  decodeWith_upToDepth _ data 0 limit { room }

theorem UpToDepth.eq_or_tooDeep {α : Type} {x y : Except DecodeError α} (h : UpToDepth Eq x y) :
    x = y ∨ ∃ step offset, x = .error ⟨.callsTooDeep step, offset⟩ := by
  cases h with
  | ok hab => exact .inl (congrArg _ hab)
  | error e => exact .inl rfl
  | tooDeep step offset => exact .inr ⟨step, offset, rfl⟩

theorem decodeWithin_error {data : List UInt8} {limit : Int} {room : Option Nat} {e : DecodeError}
    (h : decodeWithin data (.int limit) room = .error e) :
    e.Framed data ∨ ∃ step, e.fault = .callsTooDeep step := by
  rcases (decodeWithin_upToDepth data (.int limit) room).eq_or_tooDeep with heq | ⟨step, offset, hdeep⟩
  · rw [h] at heq
    exact .inl (decodeWith_error heq.symm)
  · rw [h] at hdeep
    cases hdeep
    exact .inr ⟨step, rfl⟩

end Osc

end VirtualMocap
