import VirtualMocap.Proofs.Osc.ReadBack

/-!
# What decoding gives

Every packet `decode` gives is valid (`Packet.Valid`) and its addresses hold no NUL
(`Packet.PlainAddresses`). Neither of the decoder's bounds is ever used up: it gives the
same at every fuel beyond the datagram's length (`decodeWith_fuel_eq`), and one more round
of the element loop changes nothing once its bound covers the data
(`decodeElements_loop_succ`).
-/

namespace VirtualMocap

theorem Binary32.quiet_quiet (x : Binary32) : x.quiet.quiet = x.quiet := by
  unfold Binary32.quiet
  by_cases hx : x.isNaN
  · simp only [hx, if_true]
    split
    · simp [UInt32.or_assoc]
    · rfl
  · simp [hx]

namespace Osc

/-! ## Successful reads -/

section Reads

variable {height : Nat} {data : List UInt8} {off size : Nat} {what : Field}

theorem require_eq_ok :
    require { room := none, height } data off size what = .ok () ↔ off + size ≤ data.length := by
  by_cases h : data.length < off + size
  · simp [require, h]
  · simp [require, h]
    omega

theorem unpackFrom_eq_ok {w : List UInt8} :
    unpackFrom data off size = .ok w ↔ off + size ≤ data.length ∧ w = (data.drop off).take size := by
  unfold unpackFrom
  split
  · next h => simp [h, eq_comm]
  · next h =>
    simp only [reduceCtorEq, false_iff, not_and]
    intro h'
    omega

theorem skipPadding_eq_ok {stop r : Nat} (h : skipPadding { room := none, height } data off stop what = .ok r) :
    r = stop ∧ stop ≤ data.length := by
  rw [skipPadding_none] at h
  split at h
  · cases h
  · split at h
    · cases h
    · cases h
      exact ⟨rfl, by omega⟩

theorem zero_not_mem_take_of_findIdx? {rest : List UInt8} {i : Nat}
    (h : rest.findIdx? (· == 0) = some i) : 0 ∉ rest.take i := by
  rw [List.findIdx?_eq_some_iff_getElem] at h
  obtain ⟨hi, -, hbefore⟩ := h
  intro hmem
  rw [List.mem_take_iff_getElem] at hmem
  obtain ⟨j, hj, hget⟩ := hmem
  have := hbefore j (by omega)
  simp_all

theorem readPaddedString_ok {s : String} {stop : Nat}
    (h : readPaddedString { room := none, height } data off what = .ok (s, stop)) :
    Text.Held s ∧ '\x00' ∉ s.toList ∧ stop ≤ data.length := by
  simp only [readPaddedString, Calls.reach_unbounded, except_ok_bind] at h
  split at h
  · simp at h
  · next i hfind =>
    simp only [Calls.enter_none, except_ok_bind] at h
    obtain ⟨r, hpad, h⟩ := except_bind_eq_ok.1 h
    obtain ⟨rfl, hstop⟩ := skipPadding_eq_ok hpad
    split at h
    · simp at h
    · next t hdec =>
      simp only [except_pure, Except.ok.injEq, Prod.mk.injEq] at h
      obtain ⟨rfl, rfl⟩ := h
      exact ⟨Text.held_of_decodeUtf8 hdec,
        Text.nul_not_mem_of_decodeUtf8 hdec (zero_not_mem_take_of_findIdx? hfind), hstop⟩

theorem readArg_ok {tag : Char} {a : Arg} {stop : Nat}
    (h : readArg { room := none, height } tag data off = some (.ok (a, stop))) :
    a.Valid ∧ (off ≤ data.length → stop ≤ data.length) := by
  simp only [readArg, Calls.enter_none, except_ok_bind] at h
  split_ifs at h
  · -- a 32-bit integer
    obtain ⟨_, hreq, h⟩ := except_bind_eq_ok.1 (Option.some.inj h)
    obtain ⟨w, -, h⟩ := except_bind_eq_ok.1 h
    simp only [Calls.reach_unbounded, except_ok_bind, except_pure, Except.ok.injEq,
      Prod.mk.injEq] at h
    obtain ⟨rfl, rfl⟩ := h
    exact ⟨trivial, fun _ => require_eq_ok.1 hreq⟩
  · -- a single, made quiet
    obtain ⟨_, hreq, h⟩ := except_bind_eq_ok.1 (Option.some.inj h)
    obtain ⟨w, -, h⟩ := except_bind_eq_ok.1 h
    simp only [Calls.reach_unbounded, except_ok_bind, except_pure, Except.ok.injEq,
      Prod.mk.injEq] at h
    obtain ⟨rfl, rfl⟩ := h
    exact ⟨Binary32.quiet_quiet _, fun _ => require_eq_ok.1 hreq⟩
  · -- a text
    obtain ⟨⟨s, r⟩, hs, h⟩ := except_bind_eq_ok.1 (Option.some.inj h)
    simp only [Calls.reach_unbounded, except_ok_bind, except_pure, Except.ok.injEq,
      Prod.mk.injEq] at h
    obtain ⟨rfl, rfl⟩ := h
    obtain ⟨hheld, hnul, hstop⟩ := readPaddedString_ok hs
    exact ⟨⟨hheld, hnul⟩, fun _ => hstop⟩
  · -- a blob: its size, its bytes, its padding
    obtain ⟨_, -, h⟩ := except_bind_eq_ok.1 (Option.some.inj h)
    obtain ⟨w, -, h⟩ := except_bind_eq_ok.1 h
    obtain ⟨_, -, h⟩ := except_bind_eq_ok.1 h
    obtain ⟨r, hpad, h⟩ := except_bind_eq_ok.1 h
    simp only [Calls.reach_unbounded, except_ok_bind, except_pure, Except.ok.injEq,
      Prod.mk.injEq] at h
    obtain ⟨rfl, rfl⟩ := h
    exact ⟨trivial, fun _ => (skipPadding_eq_ok hpad).1 ▸ (skipPadding_eq_ok hpad).2⟩
  · -- a time tag
    obtain ⟨_, hreq, h⟩ := except_bind_eq_ok.1 (Option.some.inj h)
    obtain ⟨w, -, h⟩ := except_bind_eq_ok.1 h
    simp only [Calls.reach_unbounded, except_ok_bind, except_pure, Except.ok.injEq,
      Prod.mk.injEq] at h
    obtain ⟨rfl, rfl⟩ := h
    exact ⟨trivial, fun _ => require_eq_ok.1 hreq⟩
  · -- truth values read nothing
    simp only [Option.some.injEq, Calls.reach_unbounded, except_ok_bind, except_pure,
      Except.ok.injEq, Prod.mk.injEq] at h
    obtain ⟨rfl, rfl⟩ := h
    exact ⟨trivial, id⟩
  · simp only [Option.some.injEq, Calls.reach_unbounded, except_ok_bind, except_pure,
      Except.ok.injEq, Prod.mk.injEq] at h
    obtain ⟨rfl, rfl⟩ := h
    exact ⟨trivial, id⟩

theorem readArgs_ok {tags : List Char} {tagAt : Nat} {acc args : List Arg} {stop : Nat}
    (h : readArgs { room := none, height } data tags tagAt off acc = .ok (args, stop))
    (hacc : ∀ a ∈ acc, a.Valid) (hoff : off ≤ data.length) :
    (∀ a ∈ args, a.Valid) ∧ stop ≤ data.length := by
  induction tags generalizing tagAt off acc with
  | nil =>
    simp only [readArgs, Except.ok.injEq, Prod.mk.injEq] at h
    obtain ⟨rfl, rfl⟩ := h
    exact ⟨fun a ha => hacc a (List.mem_reverse.1 ha), hoff⟩
  | cons tag tags ih =>
    rw [readArgs] at h
    split at h
    · simp at h
    · cases h
    · next a off' hread =>
      obtain ⟨ha, hstop⟩ := readArg_ok hread
      refine ih h ?_ (hstop hoff)
      rintro b (_ | ⟨_, hb⟩)
      · exact ha
      · exact hacc b hb

theorem decodeMessage_ok {q : Packet} (h : decodeMessage { room := none, height } data = .ok q) :
    q.Valid ∧ q.PlainAddresses := by
  simp only [decodeMessage, Calls.enter_none, except_ok_bind] at h
  obtain ⟨⟨address, off⟩, haddr, h⟩ := except_bind_eq_ok.1 h
  obtain ⟨hheld, hnul, hoff⟩ := readPaddedString_ok haddr
  simp only [Calls.reach_unbounded, except_ok_bind] at h
  split at h
  · simp at h
  split at h
  · -- a message without type tags
    simp only [except_pure, Except.ok.injEq] at h
    subst h
    exact ⟨Packet.valid_message.2 ⟨hheld, by simp⟩, Packet.plainAddresses_message.2 hnul⟩
  split at h
  · simp at h
  obtain ⟨⟨tags, stop⟩, htags, h⟩ := except_bind_eq_ok.1 h
  obtain ⟨-, -, hstop⟩ := readPaddedString_ok htags
  obtain ⟨⟨args, stop'⟩, hargs, h⟩ := except_bind_eq_ok.1 h
  obtain ⟨hvalid, -⟩ := readArgs_ok hargs (by simp) hstop
  split at h
  · simp at h
  · simp only [except_pure, Except.ok.injEq] at h
    subst h
    exact ⟨Packet.valid_message.2 ⟨hheld, hvalid⟩, Packet.plainAddresses_message.2 hnul⟩

end Reads

/-! ## Packets -/

section Packets

variable {limit : DepthLimit}

theorem decodeElements_ok {fuel : Nat}
    (hwith : ∀ data depth height q, decodeWith fuel data depth limit { room := none, height } =
      .ok q → q.Valid ∧ q.PlainAddresses) :
    ∀ {loop : Nat} {data : List UInt8} {off depth height : Nat} {acc qs : List Packet},
      decodeElements fuel loop data off depth limit { room := none, height } acc = .ok qs →
      (∀ q ∈ acc, q.Valid ∧ q.PlainAddresses) → ∀ q ∈ qs, q.Valid ∧ q.PlainAddresses := by
  intro loop
  induction loop with
  | zero =>
    intro data off depth height acc qs h hacc
    simp only [decodeElements, Except.ok.injEq] at h
    subst h
    exact fun q hq => hacc q (List.mem_reverse.1 hq)
  | succ loop ih =>
    intro data off depth height acc qs h hacc
    rw [decodeElements] at h
    split at h
    · simp only [Calls.enter_none, except_ok_bind] at h
      obtain ⟨_, -, h⟩ := except_bind_eq_ok.1 h
      obtain ⟨w, -, h⟩ := except_bind_eq_ok.1 h
      split at h
      · simp at h
      obtain ⟨_, -, h⟩ := except_bind_eq_ok.1 h
      split at h
      · cases h
      · next p hp =>
        refine ih h ?_
        rintro q (_ | ⟨_, hq⟩)
        · exact hwith _ _ _ _ hp
        · exact hacc q hq
    · simp only [Except.ok.injEq] at h
      subst h
      exact fun q hq => hacc q (List.mem_reverse.1 hq)

theorem decodeWith_ok : ∀ {fuel : Nat} {data : List UInt8} {depth height : Nat} {q : Packet},
    decodeWith fuel data depth limit { room := none, height } = .ok q →
      q.Valid ∧ q.PlainAddresses := by
  intro fuel
  induction fuel with
  | zero =>
    intro data depth height q h
    simp [decodeWith] at h
  | succ fuel ih =>
    intro data depth height q h
    rw [decodeWith] at h
    split at h
    · simp at h
    simp only [Calls.reach_unbounded, except_ok_bind, Calls.enter_none] at h
    split at h
    · simp only [ite_self] at h
      split at h
      · cases h
      · simp at h
      · obtain ⟨_, -, h⟩ := except_bind_eq_ok.1 h
        obtain ⟨w, -, h⟩ := except_bind_eq_ok.1 h
        obtain ⟨elements, helements, h⟩ := except_bind_eq_ok.1 h
        simp only [except_pure, Except.ok.injEq] at h
        subst h
        have hall := decodeElements_ok (fun _ _ _ _ hq => ih hq) helements (by simp)
        exact ⟨Packet.valid_bundle.2 fun p hp => (hall p hp).1,
          Packet.plainAddresses_bundle.2 fun p hp => (hall p hp).2⟩
    · split at h
      · simp at h
      · split at h
        · simp at h
        · exact decodeMessage_ok h

end Packets

/-! ## The fuel and the element loop are never used up -/

section Fuel

variable {fuel fuel' : Nat} {data : List UInt8}

theorem decodeElements_fuel
    (hwith : ∀ {element : List UInt8}, element.length < data.length →
      ∀ depth limit c, decodeWith fuel element depth limit c = decodeWith fuel' element depth limit c) :
    ∀ (loop off depth : Nat) (limit : DepthLimit) (c : Calls) (acc : List Packet),
      decodeElements fuel loop data off depth limit c acc =
        decodeElements fuel' loop data off depth limit c acc := by
  intro loop
  induction loop with
  | zero =>
    intro off depth limit c acc
    rw [decodeElements, decodeElements]
  | succ loop ih =>
    intro off depth limit c acc
    rw [decodeElements, decodeElements]
    by_cases hoff : off < data.length
    · -- an element is cut from the data past its size word, so it is shorter
      have helement : ∀ n depth limit c, decodeWith fuel ((data.drop (off + 4)).take n) depth limit c =
          decodeWith fuel' ((data.drop (off + 4)).take n) depth limit c :=
        fun n => hwith (by simp; omega)
      simp only [helement, ih]
    · simp only [if_neg hoff]

/-- Decoding gives the same at every fuel beyond the datagram's length: the fuel never
runs out, and the branch that answers for a spent fuel is never taken. -/
theorem decodeWith_fuel_eq : ∀ {fuel fuel' : Nat} {data : List UInt8}, data.length < fuel →
    data.length < fuel' → ∀ (depth : Nat) (limit : DepthLimit) (c : Calls),
      decodeWith fuel data depth limit c = decodeWith fuel' data depth limit c := by
  intro fuel
  induction fuel with
  | zero => exact fun h => absurd h (Nat.not_lt_zero _)
  | succ fuel ih =>
    intro fuel' data hfuel hfuel' depth limit c
    cases fuel' with
    | zero => exact absurd hfuel' (Nat.not_lt_zero _)
    | succ fuel' =>
      have helements := @decodeElements_fuel fuel fuel' data fun helement => ih (by omega) (by omega)
      rw [decodeWith, decodeWith]
      simp only [helements]

theorem decodeWithin_eq_decodeWith (hfuel : data.length < fuel) (limit : DepthLimit)
    (room : Option Nat) : decodeWithin data limit room = decodeWith fuel data 0 limit { room } :=
  decodeWith_fuel_eq (Nat.lt_succ_self _) hfuel 0 limit { room }

/-- Once the bound covers the data, one more round of the element loop changes nothing:
each element takes four bytes or more, so the offset reaches the end of the data before
the bound runs out. -/
theorem decodeElements_loop_succ : ∀ {loop off : Nat}, data.length ≤ off + 4 * loop →
    ∀ (depth : Nat) (limit : DepthLimit) (c : Calls) (acc : List Packet),
      decodeElements fuel (loop + 1) data off depth limit c acc =
        decodeElements fuel loop data off depth limit c acc := by
  intro loop
  induction loop with
  | zero =>
    intro off hoff depth limit c acc
    rw [decodeElements, decodeElements, if_neg (show ¬off < data.length by omega)]
  | succ loop ih =>
    intro off hoff depth limit c acc
    have hnext : ∀ n acc, decodeElements fuel (loop + 1) data (off + 4 + n) depth limit c acc =
        decodeElements fuel loop data (off + 4 + n) depth limit c acc :=
      fun n => ih (by omega) depth limit c
    rw [decodeElements, decodeElements]
    simp only [hnext]

end Fuel

theorem decode_ok {data : List UInt8} {maxDepth : Int} {q : Packet}
    (h : decode data maxDepth = .ok q) : q.Valid ∧ q.PlainAddresses :=
  decodeWith_ok h

end Osc

end VirtualMocap
