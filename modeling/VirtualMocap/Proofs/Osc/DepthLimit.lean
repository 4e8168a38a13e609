import VirtualMocap.Proofs.Osc.RoundTrip

/-!
# The depth limit only filters

The depth limit is read in one place: where a bundle begins, its depth is compared with
it. So a packet read under one limit is read the same under any limit it lies within
(`decodeWith_limit`), a limit decides only whether a datagram is refused
(`depth_limit_filters`), and a bare message passes even a negative limit
(`message_passes_negative_limit`). Each step is inverted once (`decodeWith_succ_eq_ok`).
-/

namespace VirtualMocap

namespace Osc

section Failures

variable {α β : Type}

theorem Calls.fail_ne_ok (c : Calls) (message : List (Nat × CallStep)) (e : DecodeError) (a : α) :
    c.fail message e ≠ .ok a := by
  unfold Calls.fail
  cases c.reach (message ++ [(1, .call), (2, .enter), (3, .call)]) <;>
    simp [throw, throwThe, MonadExceptOf.throw]

theorem Calls.fail_bind_ne_ok (c : Calls) (message : List (Nat × CallStep)) (e : DecodeError)
    (f : α → Except DecodeError β) (b : β) : (c.fail message e >>= f) ≠ .ok b := by
  intro h
  obtain ⟨a, ha, -⟩ := except_bind_eq_ok.1 h
  exact c.fail_ne_ok message e a ha

end Failures

section Steps

variable {ε α : Type} {p : Prop} [Decidable p] {x : Except ε Unit} {y : Except ε α} {a : α}

theorem ok_of_ite_bind (h : (if p then x >>= fun _ => y else y) = .ok a) : y = .ok a := by
  split at h
  · obtain ⟨_, -, h⟩ := except_bind_eq_ok.1 h
    exact h
  · exact h

theorem ite_bind_of_ok (hx : x = .ok ()) (hy : y = .ok a) :
    (if p then x >>= fun _ => y else y) = .ok a := by
  split <;> simp [hx, hy]

end Steps

theorem Calls.reach_of_enter {c d : Calls} (h : c.enter = .ok d) (step : CallStep) :
    c.reach [(1, step)] = .ok () := by
  unfold Calls.enter at h
  obtain ⟨_, hreach, -⟩ := except_bind_eq_ok.1 h
  revert hreach
  unfold Calls.reach
  split
  · split
    · intro h; cases h
    · intro; rfl
  · intro; rfl

theorem decodeMessage_nesting {c : Calls} {data : List UInt8} {q : Packet}
    (h : decodeMessage c data = .ok q) : q.nesting = 0 := by
  unfold decodeMessage at h
  obtain ⟨_, -, h⟩ := except_bind_eq_ok.1 h
  obtain ⟨⟨address, off⟩, -, h⟩ := except_bind_eq_ok.1 h
  obtain ⟨_, -, h⟩ := except_bind_eq_ok.1 h
  dsimp only at h
  split at h
  · exact (Calls.fail_bind_ne_ok _ _ _ _ _ h).elim
  split at h
  · -- a message without type tags
    obtain ⟨_, -, h⟩ := except_bind_eq_ok.1 h
    cases h
    rfl
  obtain ⟨_, -, h⟩ := except_bind_eq_ok.1 h
  split at h
  · exact (Calls.fail_bind_ne_ok _ _ _ _ _ h).elim
  obtain ⟨_, -, h⟩ := except_bind_eq_ok.1 h
  obtain ⟨_, -, h⟩ := except_bind_eq_ok.1 h
  obtain ⟨_, -, h⟩ := except_bind_eq_ok.1 h
  split at h
  · exact (Calls.fail_bind_ne_ok _ _ _ _ _ h).elim
  obtain ⟨_, -, h⟩ := except_bind_eq_ok.1 h
  cases h
  rfl

theorem decodeElements_succ_eq_ok {fuel loop : Nat} {data : List UInt8} {off depth : Nat}
    {lim : DepthLimit} {c : Calls} {acc qs : List Packet}
    (h : decodeElements fuel (loop + 1) data off depth lim c acc = .ok qs) :
    (qs = acc.reverse ∧ ∀ lim', decodeElements fuel (loop + 1) data off depth lim' c acc = .ok qs) ∨
    ∃ element next inner p, decodeWith fuel element depth lim inner = .ok p ∧
      decodeElements fuel loop data next depth lim c (p :: acc) = .ok qs ∧
      ∀ lim', decodeWith fuel element depth lim' inner = .ok p →
        decodeElements fuel loop data next depth lim' c (p :: acc) = .ok qs →
        decodeElements fuel (loop + 1) data off depth lim' c acc = .ok qs := by
  rw [decodeElements] at h
  split at h
  · next hoff =>
    right
    obtain ⟨d, hd, h⟩ := except_bind_eq_ok.1 h
    obtain ⟨_, hsize, h⟩ := except_bind_eq_ok.1 h
    obtain ⟨w, hw, h⟩ := except_bind_eq_ok.1 h
    dsimp only at h
    split at h
    · exact (Calls.fail_bind_ne_ok _ _ _ _ _ h).elim
    next hmod =>
    -- every frame entered from the loop's frame is the same
    obtain ⟨_, hd', h⟩ := except_bind_eq_ok.1 h
    rw [hd] at hd'
    cases hd'
    obtain ⟨_, helement, h⟩ := except_bind_eq_ok.1 h
    obtain ⟨_, hinner, h⟩ := except_bind_eq_ok.1 h
    rw [hd] at hinner
    cases hinner
    split at h
    · cases h
    · next p hp =>
      refine ⟨_, _, d, p, hp, h, fun lim' hp' hrest => ?_⟩
      rw [decodeElements, if_pos hoff]
      simp only [hd, hsize, hw, helement, except_ok_bind, if_neg hmod, hp', hrest]
  · next hoff =>
    left
    cases h
    exact ⟨rfl, fun lim' => by rw [decodeElements, if_neg hoff]⟩


theorem decodeWith_succ_eq_ok {fuel : Nat} {data : List UInt8} {depth : Nat} {c : Calls}
    {p : Packet} {l : Int} (h : decodeWith (fuel + 1) data depth (.int l) c = .ok p) :
    (p.nesting = 0 ∧ ∀ l' : Int, decodeWith (fuel + 1) data depth (.int l') c = .ok p) ∨
    ∃ b time es, p = .bundle time es ∧ ((depth + 1 : Nat) : Int) ≤ l ∧
      decodeElements fuel data.length data 16 (depth + 1) (.int l) b [] = .ok es ∧
      ∀ l' : Int, ((depth + 1 : Nat) : Int) ≤ l' →
        decodeElements fuel data.length data 16 (depth + 1) (.int l') b [] = .ok es →
        decodeWith (fuel + 1) data depth (.int l') c = .ok p := by
  rw [decodeWith] at h
  split at h
  · exact (Calls.fail_ne_ok _ _ _ _ h).elim
  next hne =>
  obtain ⟨_, hcall, h⟩ := except_bind_eq_ok.1 h
  split at h
  · next hbundle =>
    right
    obtain ⟨b, hb, h⟩ := except_bind_eq_ok.1 h
    have h := ok_of_ite_bind h
    split at h
    · cases h
    · exact (Calls.fail_ne_ok _ _ _ _ h).elim
    next hex =>
    obtain ⟨t, ht, h⟩ := except_bind_eq_ok.1 h
    obtain ⟨d, hd, h⟩ := except_bind_eq_ok.1 h
    obtain ⟨_, htime, h⟩ := except_bind_eq_ok.1 h
    obtain ⟨w, hw, h⟩ := except_bind_eq_ok.1 h
    obtain ⟨_, hchecked, h⟩ := except_bind_eq_ok.1 h
    obtain ⟨es, hes, h⟩ := except_bind_eq_ok.1 h
    obtain ⟨_, hdone, h⟩ := except_bind_eq_ok.1 h
    cases h
    have hdeep : ((depth + 1 : Nat) : Int) ≤ l := by
      simpa [DepthLimit.exceededBy] using hex
    refine ⟨b, _, es, rfl, hdeep, hes, fun l' hl' hes' => ?_⟩
    have hex' : (DepthLimit.int l').exceededBy (depth + 1) = some false := by
      simp only [DepthLimit.exceededBy, gt_iff_lt, Option.some.injEq, decide_eq_false_iff_not, not_lt]
      exact hl'
    rw [decodeWith, if_neg hne, hcall, except_ok_bind, if_pos hbundle, hb, except_ok_bind]
    refine ite_bind_of_ok (Calls.reach_of_enter ht _) ?_
    rw [hex']
    simp only [ht, hd, htime, hw, hchecked, hes', hdone, except_ok_bind]
    rfl
  · next hbundle =>
    -- a message: the limit is never read
    left
    refine ⟨?_, fun l' => ?_⟩
    · obtain ⟨_, -, h⟩ := except_bind_eq_ok.1 h
      split at h
      · exact (Calls.fail_ne_ok _ _ _ _ h).elim
      obtain ⟨_, -, h⟩ := except_bind_eq_ok.1 h
      split at h
      · exact (Calls.fail_ne_ok _ _ _ _ h).elim
      obtain ⟨_, -, h⟩ := except_bind_eq_ok.1 h
      exact decodeMessage_nesting h
    · rw [decodeWith, if_neg hne, hcall, except_ok_bind, if_neg hbundle]
      rwa [hcall] at h

/-! ## How deep a packet nests -/

theorem nesting_le_elementsNesting {ps : List Packet} {q : Packet} (hq : q ∈ ps) :
    q.nesting ≤ elementsNesting ps := by
  induction ps with
  | nil => cases hq
  | cons p ps ih =>
    rw [elementsNesting]
    rcases List.mem_cons.1 hq with rfl | hq
    · exact Nat.le_max_left _ _
    · exact (ih hq).trans (Nat.le_max_right _ _)

theorem elementsNesting_le {ps : List Packet} {n : Nat} (h : ∀ q ∈ ps, q.nesting ≤ n) :
    elementsNesting ps ≤ n := by
  induction ps with
  | nil => exact Nat.zero_le n
  | cons p ps ih =>
    rw [elementsNesting]
    exact Nat.max_le.2 ⟨h p (List.mem_cons_self ..), ih fun q hq => h q (List.mem_cons_of_mem _ hq)⟩

/-- A packet read inside `depth` bundles has no bundle deeper than `limit`: it is a
message, or its deepest bundle lies at most `limit` bundles deep. -/
def Packet.WithinLimit (p : Packet) (depth : Nat) (limit : Int) : Prop :=
  p.nesting = 0 ∨ ((depth + p.nesting : Nat) : Int) ≤ limit

theorem Packet.WithinLimit.mono {p : Packet} {depth : Nat} {l l' : Int} (h : p.WithinLimit depth l)
    (hl : l ≤ l') : p.WithinLimit depth l' :=
  h.imp_right fun h => h.trans hl

theorem Packet.withinLimit_bundle {time : TimeTag} {es : List Packet} {depth : Nat} {limit : Int} :
    (Packet.bundle time es).WithinLimit depth limit ↔
      ((depth + 1 : Nat) : Int) ≤ limit ∧ ∀ q ∈ es, q.WithinLimit (depth + 1) limit := by
  simp only [Packet.WithinLimit, Packet.nesting, Nat.add_one_ne_zero, false_or]
  constructor
  · intro h
    refine ⟨by omega, fun q hq => ?_⟩
    have hq := nesting_le_elementsNesting hq
    rcases Nat.eq_zero_or_pos q.nesting with h0 | _
    · exact .inl h0
    · exact .inr (by omega)
  · rintro ⟨hd, hes⟩
    -- the deepest element is within the room the limit leaves below the bundle
    have hle : elementsNesting es ≤ (limit - (depth + 1)).toNat := elementsNesting_le fun q hq => by
      rcases hes q hq with h0 | h
      · omega
      · omega
    omega

/-! ## Runs under two limits -/

theorem decodeElements_limit {fuel : Nat} {l : Int}
    (hwith : ∀ {data depth c q}, decodeWith fuel data depth (.int l) c = .ok q →
      q.WithinLimit depth l ∧ ∀ l', q.WithinLimit depth l' → decodeWith fuel data depth (.int l') c = .ok q) :
    ∀ {loop : Nat} {data : List UInt8} {off depth : Nat} {c : Calls} {acc qs : List Packet},
      decodeElements fuel loop data off depth (.int l) c acc = .ok qs →
      ∃ new, qs = acc.reverse ++ new ∧ (∀ q ∈ new, q.WithinLimit depth l) ∧
        ∀ l', (∀ q ∈ new, q.WithinLimit depth l') →
          decodeElements fuel loop data off depth (.int l') c acc = .ok qs := by
  intro loop
  induction loop with
  | zero =>
    intro data off depth c acc qs h
    rw [decodeElements] at h
    cases h
    exact ⟨[], by simp, by simp, fun l' _ => by rw [decodeElements]⟩
  | succ loop ih =>
    intro data off depth c acc qs h
    rcases decodeElements_succ_eq_ok h with ⟨rfl, hall⟩ | ⟨element, next, inner, p, hp, hrest, hback⟩
    · exact ⟨[], by simp, by simp, fun l' _ => hall (.int l')⟩
    · -- the element read here, then those the rest of the loop reads
      obtain ⟨hpl, hpback⟩ := hwith hp
      obtain ⟨new, rfl, hnew, hnewback⟩ := ih hrest
      refine ⟨p :: new, by simp, ?_, fun l' hfit => ?_⟩
      · rintro q (_ | ⟨_, hq⟩)
        · exact hpl
        · exact hnew q hq
      · exact hback (.int l') (hpback l' (hfit p (List.mem_cons_self ..)))
          (hnewback l' fun q hq => hfit q (List.mem_cons_of_mem _ hq))

/-- A packet read under one limit lies within it, and is read the same under any limit
it lies within. The induction is on the fuel, one bundle level per step. -/
theorem decodeWith_limit {l : Int} : ∀ {fuel : Nat} {data : List UInt8} {depth : Nat} {c : Calls}
    {p : Packet}, decodeWith fuel data depth (.int l) c = .ok p →
      p.WithinLimit depth l ∧ ∀ l', p.WithinLimit depth l' → decodeWith fuel data depth (.int l') c = .ok p := by
  intro fuel
  induction fuel with
  | zero =>
    intro data depth c p h
    rw [decodeWith] at h
    cases h
  | succ fuel ih =>
    intro data depth c p h
    rcases decodeWith_succ_eq_ok h with ⟨h0, hall⟩ | ⟨b, time, es, rfl, hdeep, hes, hback⟩
    · exact ⟨.inl h0, fun l' _ => hall l'⟩
    · obtain ⟨new, hnew, hfit, hesback⟩ := decodeElements_limit ih hes
      simp only [List.reverse_nil, List.nil_append] at hnew
      subst hnew
      refine ⟨Packet.withinLimit_bundle.2 ⟨hdeep, hfit⟩, fun l' hl' => ?_⟩
      obtain ⟨hdeep', hfit'⟩ := Packet.withinLimit_bundle.1 hl'
      exact hback l' hdeep' (hesback l' hfit')

/-- The limit on bundle nesting decides whether a datagram is refused, never what it
decodes to, with or without a bound on the nesting of calls: a packet read under a limit
is read the same under every larger one, and a datagram is read under a limit exactly
when a larger limit reads it as a message or as a packet nested no deeper than the
smaller limit. -/
theorem depth_limit_filters (data : List UInt8) (room : Option Nat) {k k' : Int} (hk : k ≤ k')
    (p : Packet) :
    (decodeWithin data (.int k) room = .ok p → decodeWithin data (.int k') room = .ok p) ∧
    (decodeWithin data (.int k) room = .ok p ↔
      decodeWithin data (.int k') room = .ok p ∧ (p.nesting = 0 ∨ (p.nesting : Int) ≤ k)) := by
  have hwithin : ∀ l : Int, p.WithinLimit 0 l ↔ p.nesting = 0 ∨ (p.nesting : Int) ≤ l := by
    simp [Packet.WithinLimit]
  have hup : decodeWithin data (.int k) room = .ok p →
      decodeWithin data (.int k') room = .ok p ∧ p.WithinLimit 0 k := by
    intro h
    obtain ⟨hfit, hback⟩ := decodeWith_limit h
    exact ⟨hback k' (hfit.mono hk), hfit⟩
  refine ⟨fun h => (hup h).1, fun h => ⟨(hup h).1, (hwithin k).1 (hup h).2⟩, ?_⟩
  rintro ⟨h, hfit⟩
  exact (decodeWith_limit h).2 k ((hwithin k).2 hfit)

/-- A bundle holding one message, nested one level, is read under a limit of one level
and so under the default limit of sixteen. -/
theorem depth_limit_filters_bundle :
    (1 : Int) ≤ 16 ∧
      decode [35, 98, 117, 110, 100, 108, 101, 0, 0, 0, 0, 0, 0, 0, 0, 1, 0, 0, 0, 8,
          47, 97, 0, 0, 44, 0, 0, 0] 16 = .ok (.bundle ⟨0, 1⟩ [.message "/a" []]) := by
  have he : (Packet.bundle ⟨0, 1⟩ [.message "/a" []]).encode =
      .ok [35, 98, 117, 110, 100, 108, 101, 0, 0, 0, 0, 0, 0, 0, 0, 1, 0, 0, 0, 8,
        47, 97, 0, 0, 44, 0, 0, 0] := by
    decide +kernel
  have h1 : decode [35, 98, 117, 110, 100, 108, 101, 0, 0, 0, 0, 0, 0, 0, 0, 1, 0, 0, 0, 8,
      47, 97, 0, 0, 44, 0, 0, 0] 1 = .ok (.bundle ⟨0, 1⟩ [.message "/a" []]) := by
    rw [decode_of_encode (by decide +kernel) (by decide +kernel) he]
    rfl
  exact ⟨by decide, (depth_limit_filters _ none (by decide) _).1 h1⟩

/-- A bare message is read under a limit of `-1`, though no packet read under a larger
limit nests no deeper than `-1`. -/
theorem message_passes_negative_limit :
    decode [47, 97, 0, 0, 44, 0, 0, 0] (-1) = .ok (.message "/a" []) ∧
      ¬ ((∃ p, decode [47, 97, 0, 0, 44, 0, 0, 0] (-1) = .ok p) ↔
        ∃ p, decode [47, 97, 0, 0, 44, 0, 0, 0] 0 = .ok p ∧ (p.nesting : Int) ≤ -1) := by
  have he : (Packet.message "/a" []).encode = .ok [47, 97, 0, 0, 44, 0, 0, 0] := by
    decide +kernel
  have hread : ∀ l : Int, decode [47, 97, 0, 0, 44, 0, 0, 0] l = .ok (.message "/a" []) := by
    intro l
    rw [decode_of_encode (by decide +kernel) (by decide +kernel) he]
    rfl
  refine ⟨hread (-1), fun hiff => ?_⟩
  obtain ⟨p, hp, hdeep⟩ := hiff.1 ⟨_, hread (-1)⟩
  rw [hread 0] at hp
  cases hp
  simp [Packet.nesting] at hdeep

end Osc

end VirtualMocap
