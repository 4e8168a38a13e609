import VirtualMocap.Proofs.Motion.Variants

/-!
# Re-encoding gives a normal form

A message the catalog recognises re-encodes to a normal form of the OSC message it was
read from (`Route.normalise`): its arguments cut to the longest variant that starts their
tags, the root's name written as `root` and every flag as `0` or `1`. Each entry's
arguments are stated once (`Route.args_decode`), against what a reader gives at the
variant's positions (`ArgReader.readAs`).
-/

namespace VirtualMocap

namespace Motion

open Osc

/-! ## The normal form -/

/-- The argument a reader gives at position `i`, at the kind the tag `c` names. -/
def ArgReader.readAs (r : ArgReader) (i : Nat) (c : Char) : Arg :=
  if c = 'i' then .int (r.int i) else if c = 'f' then .float (r.float i) else .str (r.str i)

namespace Route

def flagPositions : Route → List Nat
  | .controller => [2, 3, 4]
  | .midiNote => [0]
  | .midiButton => [1]
  | .receive => [0]
  | _ => []

/-- An argument at position `i` as re-encoding writes it: a flag as `1` when non-zero and
`0` otherwise, the name of the root pose as `root`, anything else as it is. -/
def normalArg (route : Route) (i : Nat) : Arg → Arg
  | .int v => if i ∈ route.flagPositions then flag (v.toInt != 0) else .int v
  | .str s => if route = .root ∧ i = 0 then .str "root" else .str s
  | a => a

/-- The normal form of the arguments of a message whose tags start with the variant of `k`
optional groups: the arguments of that variant, each as re-encoding writes it. -/
def normalise (route : Route) (k : Nat) (args : List Arg) : List Arg :=
  (args.take (route.signature.variant k).length).mapIdx route.normalArg

end Route

/-! ## Enumeration codes -/

/-- An enumeration whose codes read back as their members, and whose reading gives a
member only at its code, reads a word as a member exactly at that member's code. -/
theorem ofCode?_eq_some_iff_code {α : Type} {code : α → Nat} {ofCode? : Int → Option α}
    (hcode : ∀ x, ofCode? (Int32.ofInt (code x)).toInt = some x)
    (hof : ∀ n x, ofCode? n = some x → (code x : Int) = n) {v : Int32} {x : α} :
    ofCode? v.toInt = some x ↔ Int32.ofInt (code x) = v := by
  constructor
  · intro h
    rw [hof _ _ h, Int32.ofInt_toInt]
  · rintro rfl
    exact hcode x

@[simp] theorem ModelState.ofCode?_toInt_eq_some {v : Int32} {x : ModelState} :
    ofCode? v.toInt = some x ↔ Int32.ofInt x.code = v :=
  ofCode?_eq_some_iff_code ofCode?_code fun n x h => by
    unfold ofCode? at h
    split at h <;> cases h <;> rfl

@[simp] theorem CalibrationState.ofCode?_toInt_eq_some {v : Int32} {x : CalibrationState} :
    ofCode? v.toInt = some x ↔ Int32.ofInt x.code = v :=
  ofCode?_eq_some_iff_code ofCode?_code fun n x h => by
    unfold ofCode? at h
    split at h <;> cases h <;> rfl

@[simp] theorem CalibrationMode.ofCode?_toInt_eq_some {v : Int32} {x : CalibrationMode} :
    ofCode? v.toInt = some x ↔ Int32.ofInt x.code = v :=
  ofCode?_eq_some_iff_code ofCode?_code fun n x h => by
    unfold ofCode? at h
    split at h <;> cases h <;> rfl

@[simp] theorem TrackingState.ofCode?_toInt_eq_some {v : Int32} {x : TrackingState} :
    ofCode? v.toInt = some x ↔ Int32.ofInt x.code = v :=
  ofCode?_eq_some_iff_code ofCode?_code fun n x h => by
    unfold ofCode? at h
    split at h <;> cases h <;> rfl

@[simp] theorem InputAction.ofCode?_toInt_eq_some {v : Int32} {x : InputAction} :
    ofCode? v.toInt = some x ↔ Int32.ofInt x.code = v :=
  ofCode?_eq_some_iff_code ofCode?_code fun n x h => by
    unfold ofCode? at h
    split at h <;> cases h <;> rfl

theorem ArgReader.member_eq_ok {α : Type} {r : ArgReader} {route : Route} {field : String}
    {ofCode? : Int → Option α} {i : Nat} {a : α} :
    r.member route field ofCode? i = .ok a ↔ ofCode? (r.int i).toInt = some a := by
  cases h : ofCode? (r.int i).toInt <;> simp [ArgReader.member, h]

/-! ## Each entry -/

/-- Every signature with optional groups takes trailing arguments, so past its required
tags a variant fits the tags exactly when it starts them. -/
theorem Route.fits_iff_prefix (route : Route) {tags : List Char} {j : Nat} (hj : 0 < j)
    (hjle : j ≤ route.signature.optional.length) :
    route.signature.Fits tags j ↔ route.signature.variant j <+: tags := by
  have htr : route.signature.trailing = true := by
    cases route <;> simp [Route.signature] at hjle ⊢
    omega
  simp [Signature.Fits, htr]

/-- What an entry reads from the positions of its variant: a message of that entry
whose arguments are those the reader gives there, in normal form. -/
theorem Route.args_decode (route : Route) {k : Nat} (hk : k ≤ route.signature.optional.length)
    {r : ArgReader} {m : Message} (h : route.decode r k = .ok m) :
    m.route = route ∧
      m.args = (route.signature.variant k).mapIdx fun i c => route.normalArg i (r.readAs i c) := by
  have hk2 : k = 0 ∨ k = 1 ∨ k = 2 := by
    cases route <;> simp [Route.signature] at hk <;> omega
  rcases hk2 with rfl | rfl | rfl <;> cases route <;> simp [Route.signature] at hk
  all_goals
    simp only [Route.decode, except_bind_eq_ok, ArgReader.member_eq_ok, except_map_eq_ok,
      except_ok_bind, except_pure, Except.ok.injEq, exists_exists_and_eq_and,
      ModelState.ofCode?_toInt_eq_some, CalibrationState.ofCode?_toInt_eq_some,
      CalibrationMode.ofCode?_toInt_eq_some, TrackingState.ofCode?_toInt_eq_some,
      InputAction.ofCode?_toInt_eq_some, gt_iff_lt, lt_self_iff_false, one_ne_zero,
      OfNat.ofNat_ne_zero, Order.lt_one_iff, Order.lt_two_iff, Std.le_refl, ↓reduceIte] at h
  -- the entries that read enumeration codes: each member's code is the word it was read from
  case' inl.state | inl.controller | inl.key | inl.calibrationExec => obtain ⟨_, hx, h⟩ := h
  case' inr.inl.state => obtain ⟨_, hx, _, hy, _, hz, h⟩ := h
  case' inr.inr.state => obtain ⟨_, hx, _, hy, _, hz, _, ht, h⟩ := h
  all_goals
    subst h
    simp [*, Message.route, Message.args, floats, Vec3.toList, Quat.toList, Color.toList,
      Signature.variant, Route.signature, Route.pose, ArgReader.vec, ArgReader.quat, ArgReader.flag,
      flag, code, ArgReader.readAs, Route.normalArg, Route.flagPositions]

theorem Route.str_mem_normalForm {route : Route} {r : ArgReader} {cs : List Char} {s : String}
    (hs : Arg.str s ∈ cs.mapIdx fun i c => route.normalArg i (r.readAs i c)) :
    s = "root" ∨ ∃ i, s = r.str i := by
  obtain ⟨i, hi, heq⟩ := List.mem_mapIdx.1 hs
  simp only [ArgReader.readAs] at heq
  split_ifs at heq
  · -- an integer, a flag or not, is no text
    by_cases hflag : i ∈ route.flagPositions <;> simp [Route.normalArg, flag, hflag] at heq
  · simp [Route.normalArg] at heq
  · simp only [Route.normalArg] at heq
    by_cases hroot : route = .root ∧ i = 0
    · rw [if_pos hroot] at heq
      exact .inl (Arg.str.inj heq).symm
    · rw [if_neg hroot] at heq
      exact .inr ⟨i, (Arg.str.inj heq).symm⟩

/-- What an entry reads from the positions of its variant, re-encoded: the argument a
reader gives at each position, in normal form. -/
theorem Route.toOsc_decode (route : Route) {k : Nat} (hk : k ≤ route.signature.optional.length)
    {r : ArgReader} (hr : ∀ i, '\x00' ∉ (r.str i).toList) {m : Message}
    (h : route.decode r k = .ok m) :
    m.toOsc = .ok (.message route.address
      ((route.signature.variant k).mapIdx fun i c => route.normalArg i (r.readAs i c))) := by
  obtain ⟨hroute, hargs⟩ := route.args_decode hk h
  have hplain : ∀ s, Arg.str s ∈ m.args → '\x00' ∉ s.toList := by
    intro s hs
    rw [hargs] at hs
    rcases Route.str_mem_normalForm hs with rfl | ⟨i, rfl⟩
    · decide
    · exact hr i
  rw [Message.toOsc_eq_ok hplain, hroute, hargs]

/-! ## Readers that give the arguments -/

/-- A reader that gives the arguments at the positions of some tags, each at the kind of
its tag, reads back the arguments themselves there. -/
theorem ArgReader.Reads.mapIdx_readAs {r : ArgReader} {args : List Arg} :
    ∀ {j : Nat} {cs : List Char} (f : Nat → Arg → Arg), r.Reads args j cs →
      (∀ c ∈ cs, c = 'i' ∨ c = 'f' ∨ c = 's') →
      (cs.mapIdx fun i c => f i (r.readAs (j + i) c)) = ((args.drop j).take cs.length).mapIdx f
  | _, [], _, _, _ => by simp
  | j, c :: cs, f, ⟨hi, hf, hs, h⟩, hkind => by
    have ha : args[j]? = some (r.readAs j c) := by
      rcases hkind c (List.mem_cons_self ..) with rfl | rfl | rfl
      · simpa [ArgReader.readAs] using hi rfl
      · simpa [ArgReader.readAs] using hf rfl
      · simpa [ArgReader.readAs] using hs rfl
    obtain ⟨hj, hget⟩ := List.getElem?_eq_some_iff.1 ha
    have hrest := mapIdx_readAs (fun i => f (i + 1)) h fun c hc => hkind c (List.mem_cons_of_mem _ hc)
    rw [List.drop_eq_getElem_cons hj, hget, List.length_cons, List.take_succ_cons, List.mapIdx_cons,
      List.mapIdx_cons, ← hrest]
    simp [Nat.add_assoc, Nat.add_comm 1]

/-! ## Recognised messages -/

theorem fromOsc_recognized {address : String} {args : List Arg} {m : Message}
    (h : fromOsc address args = .ok (.recognized m)) :
    ∃ route k, lookup address = some route ∧ route.signature.groups? (tagsOf args) = some k ∧
      route.decode (.ofArgs args) k = .ok m := by
  unfold fromOsc at h
  split at h
  · cases h
  · next route hroute =>
    dsimp only at h
    split at h
    · cases h
    · next k hk =>
      obtain ⟨m', hm', hrec⟩ := except_map_eq_ok.1 h
      cases hrec
      exact ⟨route, k, hroute, hk, hm'⟩

/-- A message recognised at a catalog address re-encodes to the OSC message it was read
from in normal form: at the same address, with the arguments of the longest variant of
the signature that starts their tags, the root's name written as `root` and each flag as
`0` or `1`. -/
theorem toOsc_fromOsc_normalise (address : String) (args : List Arg) (m : Message)
    (hargs : ∀ s, Arg.str s ∈ args → '\x00' ∉ s.toList)
    (h : fromOsc address args = .ok (.recognized m)) :
    ∃ route k, lookup address = some route ∧ k ≤ route.signature.optional.length ∧
      route.signature.variant k <+: args.map Arg.tag ∧
      (∀ j, k < j → j ≤ route.signature.optional.length →
        ¬ route.signature.variant j <+: args.map Arg.tag) ∧
      m.toOsc = .ok (.message address (route.normalise k args)) := by
  obtain ⟨route, k, hroute, hk, hm⟩ := fromOsc_recognized h
  obtain ⟨hle, hpre, hreads, -⟩ := fromOsc_matched hroute hk
  -- no longer variant starts the tags, or the signature would have counted its groups
  have hmax : ∀ j, k < j → j ≤ route.signature.optional.length →
      ¬ route.signature.variant j <+: args.map Arg.tag := by
    intro j hkj hj hpj
    apply (Signature.groups?_eq_some_iff.1 hk).2.2 j hkj hj
    rw [route.fits_iff_prefix (by omega) hj, tagsOf, String.toList_ofList]
    exact hpj
  have hnul : ∀ i, '\x00' ∉ ((ArgReader.ofArgs args).str i).toList := by
    intro i
    simp only [ArgReader.ofArgs, strAt]
    split
    · next s hs => exact hargs s (List.mem_of_getElem? hs)
    · simp
  have hform := hreads.mapIdx_readAs route.normalArg (route.variant_kinds k)
  simp only [Nat.zero_add, List.drop_zero] at hform
  refine ⟨route, k, hroute, hle, hpre, hmax, ?_⟩
  rw [route.toOsc_decode hle hnul hm, lookup_address_eq hroute, hform, Route.normalise]

theorem toOsc_fromOsc_button :
    (∀ s, Arg.str s ∈ [Arg.int 3, .int 7, .str "x"] → '\x00' ∉ s.toList) ∧
      fromOsc "/VMC/Ext/Midi/CC/Bit" [.int 3, .int 7, .str "x"] =
        .ok (.recognized (.midiControlButton 3 true)) ∧
      ∃ route k, lookup "/VMC/Ext/Midi/CC/Bit" = some route ∧ k ≤ route.signature.optional.length ∧
        route.signature.variant k <+: [Arg.int 3, .int 7, .str "x"].map Arg.tag ∧
        (∀ j, k < j → j ≤ route.signature.optional.length →
          ¬ route.signature.variant j <+: [Arg.int 3, .int 7, .str "x"].map Arg.tag) ∧
        (Message.midiControlButton 3 true).toOsc =
          .ok (.message "/VMC/Ext/Midi/CC/Bit" (route.normalise k [.int 3, .int 7, .str "x"])) := by
  have hargs : ∀ s, Arg.str s ∈ [Arg.int 3, .int 7, .str "x"] → '\x00' ∉ s.toList := by simp
  have h : fromOsc "/VMC/Ext/Midi/CC/Bit" [.int 3, .int 7, .str "x"] =
      .ok (.recognized (.midiControlButton 3 true)) := rfl
  exact ⟨hargs, h, toOsc_fromOsc_normalise _ _ _ hargs h⟩

/-- The button's flag `7` is written back as `1`, and the trailing text is dropped. -/
example : Route.midiButton.normalise 0 [.int 3, .int 7, .str "x"] = [.int 3, .int 1] := by decide

end Motion

end VirtualMocap
