import VirtualMocap.Proofs.Osc.RoundTrip
import VirtualMocap.Proofs.Osc.Refusal

/-!
# Reading a packet cut short

Every proper prefix of a written packet is refused as running out of data, except where
the format lets a packet end early: right after a message's address, and at an element
boundary of a bundle (`Packet.CutsTo`); there it reads as the message without arguments
or the bundle of the whole elements (`decode_truncated`). Each reader checks that its
bytes are there before it looks at them (`readArg_runsOut`).
-/

namespace VirtualMocap.Osc

def RunsOut {α : Type} (r : Except DecodeError α) : Prop :=
  ∃ e, r = .error e ∧ e.kind = .eof

theorem RunsOut.bind {α β : Type} {x : Except DecodeError α} (h : RunsOut x)
    (f : α → Except DecodeError β) : RunsOut (x >>= f) := by
  obtain ⟨e, rfl, he⟩ := h
  exact ⟨e, rfl, he⟩

theorem RunsOut.map {α β : Type} {x : Except DecodeError α} (h : RunsOut x) (f : α → β) :
    RunsOut (x.map f) := by
  obtain ⟨e, rfl, he⟩ := h
  exact ⟨e, rfl, he⟩

theorem runsOut_error {α : Type} {f : DecodeFault} (o : Int) (h : f.kind = .eof) :
    RunsOut (.error ⟨f, o⟩ : Except DecodeError α) :=
  ⟨_, rfl, h⟩

/-! ## Fields cut short -/

section Fields

variable {height : Nat} {data x : List UInt8} {off : Nat} {what : Field}

theorem length_le_of_drop (hx : data.drop off = x) : data.length ≤ off + x.length := by
  have := congrArg List.length hx
  simp only [List.length_drop] at this
  omega

theorem require_runsOut {size : Nat} (hx : data.drop off = x) (h : x.length < size) :
    RunsOut (require { room := none, height } data off size what) := by
  rw [require_short (by have := length_le_of_drop hx; omega)]
  exact runsOut_error _ rfl

theorem prefix_append_of_length_le {k z : List UInt8} (hpre : x <+: k ++ z)
    (hlen : k.length ≤ x.length) : ∃ y, x = k ++ y ∧ y <+: z := by
  obtain ⟨y, rfl⟩ := List.prefix_of_prefix_length_le (List.prefix_append k z) hpre hlen
  exact ⟨y, rfl, (List.prefix_append_right_inj k).1 hpre⟩

theorem drop_prefix_of_prefix_append {k z : List UInt8} (hpre : x <+: k ++ z)
    (hlen : k.length ≤ x.length) : x.drop k.length <+: z := by
  obtain ⟨y, rfl, hy⟩ := prefix_append_of_length_le hpre hlen
  rwa [List.drop_left]

theorem readPaddedString_runsOut {raw : List UInt8} (h0 : 0 ∉ raw) (hx : data.drop off = x)
    (hpre : x <+: raw ++ Bytes.zeros ((raw.length / 4 + 1) * 4 - raw.length))
    (hlt : x.length < (raw.length / 4 + 1) * 4) :
    RunsOut (readPaddedString { room := none, height } data off what) := by
  simp only [readPaddedString, Calls.reach_unbounded, except_ok_bind, hx]
  by_cases hshort : x.length ≤ raw.length
  · -- the cut falls inside the text, so no NUL is left to end it
    have hraw : x <+: raw :=
      List.prefix_of_prefix_length_le hpre (List.prefix_append _ _) hshort
    have hnone : x.findIdx? (· == 0) = none := by
      rw [List.findIdx?_eq_none_iff]
      intro b hb
      simpa using ne_of_mem_of_not_mem (hraw.subset hb) h0
    rw [hnone, Calls.fail_none]
    exact runsOut_error _ rfl
  · -- the NUL is there, and the padding after it runs past the end
    obtain ⟨y, rfl, hy⟩ := prefix_append_of_length_le hpre (by omega)
    obtain ⟨m, hm⟩ : ∃ m, (raw.length / 4 + 1) * 4 - raw.length = m + 1 :=
      ⟨(raw.length / 4 + 1) * 4 - raw.length - 1, by omega⟩
    rw [hm, Bytes.zeros, List.replicate_succ] at hy
    obtain ⟨rest, rfl⟩ : ∃ rest, y = 0 :: rest := by
      cases y with
      | nil => simp at hshort
      | cons c rest =>
        rw [List.cons_prefix_cons] at hy
        exact ⟨rest, by rw [hy.1]⟩
    have hdata := length_le_of_drop hx
    simp only [List.length_append, List.length_cons] at hdata hlt
    rw [findIdx_zero h0]
    simp only [Calls.enter_none, except_ok_bind]
    rw [skipPadding_none, if_pos (by omega)]
    exact runsOut_error _ rfl

theorem readPaddedString_textField_runsOut {s : String} {bytes : List UInt8} (hs : Text.Held s)
    (hnul : '\x00' ∉ s.toList) (h : textField s = .ok bytes) (hx : data.drop off = x)
    (hpre : x <+: bytes) (hlt : x.length < bytes.length) :
    RunsOut (readPaddedString { room := none, height } data off what) := by
  have hlen := length_of_textField h
  obtain ⟨raw, hraw, rfl⟩ := textField_eq_ok.1 h
  rw [textSize, ← eq_utf8_of_encodeUtf8 hraw] at hlen
  exact readPaddedString_runsOut (Text.zero_not_mem_of_encodeUtf8 hs hnul hraw) hx hpre (by omega)

end Fields

/-! ## Arguments cut short -/

section Arguments

variable {height : Nat} {data x bytes : List UInt8} {off : Nat}

/-- An argument whose bytes are cut short runs out, whatever its type. -/
theorem readArg_runsOut {a : Arg} (ha : a.Valid) (h : a.encode = .ok bytes)
    (hx : data.drop off = x) (hpre : x <+: bytes) (hlt : x.length < bytes.length) :
    ∃ r, readArg { room := none, height } a.tag data off = some r ∧ RunsOut r := by
  cases a with
  | int v =>
    cases h
    refine ⟨_, rfl, ?_⟩
    simp only [Calls.enter_none, except_ok_bind]
    exact (require_runsOut hx (by simpa [Bytes.length_word32] using hlt)).bind _
  | float v =>
    cases h
    refine ⟨_, rfl, ?_⟩
    simp only [Calls.enter_none, except_ok_bind]
    exact (require_runsOut hx (by simpa [Bytes.length_word32] using hlt)).bind _
  | str s =>
    refine ⟨_, rfl, ?_⟩
    simp only [Calls.enter_none, except_ok_bind]
    exact (readPaddedString_textField_runsOut ha.1 ha.2 h hx hpre hlt).bind _
  | blob b =>
    obtain ⟨w, hw, rfl⟩ := except_map_eq_ok.1 h
    obtain ⟨hb, rfl⟩ := lengthWord_eq_ok.1 hw
    refine ⟨_, rfl, ?_⟩
    simp only [Calls.enter_none, except_ok_bind]
    have hpad : (pad4 b.length).toNat - b.length = (b.length + 3) / 4 * 4 - b.length := by
      simp only [pad4]
      omega
    simp only [List.length_append, Bytes.length_word32, Bytes.zeros, List.length_replicate, hpad]
      at hlt
    by_cases hsize : x.length < 4
    · exact (require_runsOut hx hsize).bind _
    obtain ⟨y, rfl, hy⟩ := prefix_append_of_length_le (List.append_assoc _ _ _ ▸ hpre)
      (by rw [Bytes.length_word32]; omega)
    have hdlen : data.length = off + 4 + y.length := by
      have := congrArg List.length hx
      simp only [List.length_drop, List.length_append, Bytes.length_word32] at this
      omega
    rw [require_of_le (by omega), except_ok_bind,
      unpackFrom_at hx (by omega) (Bytes.length_word32 _), except_ok_bind,
      Bytes.readWord32_word32 hb]
    have hy' := drop_add_of_drop hx
    rw [Bytes.length_word32] at hy'
    simp only [List.length_append, Bytes.length_word32] at hlt
    by_cases hdata : y.length < b.length
    · exact (require_runsOut hy' hdata).bind _
    · -- the bytes are there, and their padding runs past the end
      rw [require_of_le (by omega), except_ok_bind, skipPadding_none, if_pos (by omega)]
      exact runsOut_error _ rfl
  | bool v => cases h; simp at hlt
  | time t =>
    cases h
    refine ⟨_, rfl, ?_⟩
    simp only [Calls.enter_none, except_ok_bind]
    exact (require_runsOut hx (by simpa [length_encodeTime] using hlt)).bind _

theorem readArgs_runsOut {args : List Arg} (hargs : ∀ a ∈ args, a.Valid)
    (h : encodeArgs args = .ok bytes) (hx : data.drop off = x) (hpre : x <+: bytes)
    (hlt : x.length < bytes.length) (tagAt : Nat) (acc : List Arg) :
    RunsOut (readArgs { room := none, height } data (args.map Arg.tag) tagAt off acc) := by
  induction args generalizing bytes x off tagAt acc with
  | nil =>
    cases h
    simp at hlt
  | cons a args ih =>
    obtain ⟨head, tail, ha, htail, rfl⟩ := encodeArgs_cons_eq_ok.1 h
    have hvalid := hargs a (List.mem_cons_self ..)
    rw [List.map_cons, readArgs]
    by_cases hcut : x.length < head.length
    · -- the cut falls inside this argument
      obtain ⟨r, hr, hout⟩ := readArg_runsOut hvalid ha hx
        (List.prefix_of_prefix_length_le hpre (List.prefix_append _ _) (by omega)) hcut
      obtain ⟨e, rfl, he⟩ := hout
      rw [hr]
      exact ⟨e, rfl, he⟩
    · -- this argument is whole and reads back; the cut lies further on
      obtain ⟨y, rfl, hy⟩ := prefix_append_of_length_le hpre (by omega)
      rw [readArg_encode hvalid ha hx]
      simp only
      exact ih (fun b hb => hargs b (List.mem_cons_of_mem _ hb)) htail (drop_add_of_drop hx) hy
        (by simpa using hlt) _ _

end Arguments

/-! ## Messages cut short -/

section Messages

variable {height : Nat} {address : String} {args : List Arg} {bytes b : List UInt8}

theorem decodeMessage_address (hp : (Packet.message address args).Valid)
    (hnul : '\x00' ∉ address.toList) (h : (Packet.message address args).encode = .ok bytes)
    (hb : b <+: bytes) (hlen : b.length = textSize address) :
    decodeMessage { room := none, height } b = .ok (.message address []) := by
  obtain ⟨hs, -⟩ := Packet.valid_message.1 hp
  obtain ⟨hslash, a, t, body, ha, -, -, rfl⟩ := Packet.encode_message_eq_ok.1 h
  obtain rfl : a = b := by
    have hal := length_of_textField ha
    rw [List.append_assoc] at hb
    exact (List.prefix_of_prefix_length_le (List.prefix_append a (t ++ body)) hb
      (by omega)).eq_of_length (by omega)
  have haddress : readPaddedString { room := none, height := height + 1 } a 0 .address =
      .ok (address, a.length) := by
    simpa using readPaddedString_textField hs hnul ha (by simp : a.drop 0 = a ++ [])
  simp only [decodeMessage, Calls.enter_none, except_ok_bind, haddress, Calls.reach_unbounded,
    hslash, Bool.not_true, Bool.false_eq_true, if_false]
  simp

theorem decodeMessage_runsOut (hp : (Packet.message address args).Valid)
    (hnul : '\x00' ∉ address.toList) (h : (Packet.message address args).encode = .ok bytes)
    (hb : b <+: bytes) (hlt : b.length < bytes.length) (hne : b.length ≠ textSize address) :
    RunsOut (decodeMessage { room := none, height } b) := by
  obtain ⟨hs, hargs⟩ := Packet.valid_message.1 hp
  obtain ⟨hslash, a, t, body, ha, ht, hbody, rfl⟩ := Packet.encode_message_eq_ok.1 h
  have hal := length_of_textField ha
  rw [List.append_assoc] at hb
  simp only [decodeMessage, Calls.enter_none, except_ok_bind]
  by_cases hcut : b.length < a.length
  · -- the cut falls inside the address
    exact (readPaddedString_textField_runsOut hs hnul ha (by simp : b.drop 0 = b)
      (List.prefix_of_prefix_length_le hb (List.prefix_append _ _) (by omega)) hcut).bind _
  obtain ⟨y, rfl, hy⟩ := prefix_append_of_length_le hb (by omega)
  have hy0 : y ≠ [] := by
    rintro rfl
    simp only [List.append_nil] at hne
    exact hne hal
  have haddress : readPaddedString { room := none, height := height + 1 } (a ++ y) 0 .address =
      .ok (address, a.length) := by
    simpa using readPaddedString_textField hs hnul ha (by simp : (a ++ y).drop 0 = a ++ y)
  have hcomma : ((a ++ y).drop a.length).head? = some 0x2C := by
    obtain ⟨c, cs, rfl⟩ := List.exists_cons_of_ne_nil hy0
    rw [List.drop_left]
    have := head_of_textField_tagString ht body
    obtain ⟨rest, hrest⟩ := hy
    rw [← hrest] at this
    simpa using this
  have hheld : Text.Held ("," ++ tagsOf args) := by
    rw [tagString_eq]
    exact Text.held_ofScalars _
  have hoff : a.length ≠ (a ++ y).length := by
    simp only [List.length_append]
    have := List.length_pos_iff.2 hy0
    omega
  simp only [haddress, except_ok_bind, Calls.reach_unbounded, hslash, Bool.not_true,
    Bool.false_eq_true, if_false, hoff, hcomma, bne_self_eq_false]
  by_cases hcut : y.length < t.length
  · -- the cut falls inside the type tags
    exact (readPaddedString_textField_runsOut hheld (nul_not_mem_tagString args) ht
      (List.drop_left ..) (List.prefix_of_prefix_length_le hy (List.prefix_append _ _)
        (by omega)) hcut).bind _
  obtain ⟨z, rfl, hz⟩ := prefix_append_of_length_le hy (by omega)
  have htags : readPaddedString { room := none, height := height + 1 } (a ++ (t ++ z)) a.length
      .typeTags = .ok ("," ++ tagsOf args, a.length + t.length) :=
    readPaddedString_textField hheld (nul_not_mem_tagString args) ht (List.drop_left ..)
  have hrelease : (Text.release ("," ++ tagsOf args)).toList.drop 1 = args.map Arg.tag := by
    rw [tagString_eq, release_ofScalars, String.toList_ofList]
    rfl
  have hrest : (a ++ (t ++ z)).drop (a.length + t.length) = z := by
    rw [← List.drop_drop, List.drop_left, List.drop_left]
  rw [htags, except_ok_bind, hrelease]
  exact (readArgs_runsOut hargs hbody hrest hz (by simp at hlt; omega) _ _).bind _

theorem decodeWith_message_prefix (h : (Packet.message address args).encode = .ok bytes)
    (hb : b <+: bytes) (hne : b ≠ []) (fuel depth : Nat) (limit : DepthLimit) :
    decodeWith (fuel + 1) b depth limit { room := none, height } =
      decodeMessage { room := none, height := height + 1 } b := by
  obtain ⟨hslash, a, t, body, ha, -, -, rfl⟩ := Packet.encode_message_eq_ok.1 h
  -- it starts with the address, hence with a slash: no bundle, and no part of a marker
  obtain ⟨rest, hrest⟩ : ∃ rest, b = 0x2F :: rest := by
    obtain ⟨c, cs, rfl⟩ := List.exists_cons_of_ne_nil hne
    have := head_of_textField_slash hslash ha (t ++ body)
    rw [← List.append_assoc] at this
    obtain ⟨post, hpost⟩ := hb
    rw [← hpost] at this
    simp only [List.cons_append, List.head?_cons, Option.some.injEq] at this
    exact ⟨cs, by rw [this]⟩
  subst hrest
  have hnotBundle : bundleTag.isPrefixOf (0x2F :: rest) = false := by
    rw [bundleTag_eq]
    rfl
  have hnotTag : (0x2F :: rest).isPrefixOf bundleTag = false := by
    rw [bundleTag_eq]
    rfl
  rw [decodeWith]
  simp only [List.isEmpty_cons, hnotBundle, hnotTag, List.head?_cons, Bool.false_eq_true,
    if_false, Calls.reach_unbounded, except_ok_bind, Calls.enter_none]
  rfl

end Messages

/-! ## Bundles cut short -/

section Bundles

variable {height : Nat} {limit : Int}

theorem depthChecked_eq_ok {α : Type} {p : Packet} {start depth : Nat}
    (h : ((depth + p.nesting : Nat) : Int) ≤ limit) (x : α) :
    depthChecked (p.bundleSites start depth) limit x = .ok x := by
  have hnone : (p.bundleSites start depth).find? (fun b => limit < b.level) = none := by
    rw [List.find?_eq_none]
    intro b hb
    have := Packet.level_le_nesting p start depth b hb
    simp only [decide_eq_true_eq]
    omega
  simp [depthChecked, hnone]

theorem decodeElements_end {data : List UInt8} {off : Nat} (hx : data.drop off = [])
    (hoff : off ≤ data.length) (fuel loop depth : Nat) (maxDepth : DepthLimit)
    (acc : List Packet) :
    decodeElements fuel loop data off depth maxDepth { room := none, height } acc =
      .ok acc.reverse := by
  have hend : off = data.length := by
    have := length_le_of_drop hx
    simp only [List.length_nil] at this
    omega
  cases loop with
  | zero => rw [decodeElements]
  | succ loop => rw [decodeElements, if_neg (by omega)]

theorem decodeElements_whole {p : Packet} (hp : p.Valid) (hplain : p.PlainAddresses)
    {pb : List UInt8} (hpb : p.encode = .ok pb) (hsize : pb.length < twoPow 32)
    {data post : List UInt8} {off : Nat}
    (hx : data.drop off = Bytes.word32 pb.length ++ pb ++ post) {fuel : Nat}
    (hfuel : pb.length < fuel) {depth : Nat} (hdepth : ((depth + p.nesting : Nat) : Int) ≤ limit)
    (loop : Nat) (acc : List Packet) :
    decodeElements fuel (loop + 1) data off depth (.int limit) { room := none, height } acc =
      decodeElements fuel loop data (off + 4 + pb.length) depth (.int limit)
        { room := none, height } (p :: acc) := by
  have hdvd : pb.length % 4 = 0 := by
    rw [Packet.length_of_encode hpb]
    exact Nat.mod_eq_zero_of_dvd (Packet.four_dvd_size p)
  rw [List.append_assoc] at hx
  have hend : off + 4 + pb.length ≤ data.length := by
    have := congrArg List.length hx
    simp only [List.length_drop, List.length_append, Bytes.length_word32] at this
    omega
  have hel := drop_add_of_drop hx
  rw [Bytes.length_word32] at hel
  have helement : (data.drop (off + 4)).take pb.length = pb := by rw [hel, List.take_left]
  rw [decodeElements, if_pos (by omega)]
  simp only [Calls.enter_none, except_ok_bind]
  rw [require_at hx (by omega) (by simp [Bytes.length_word32]), except_ok_bind,
    unpackFrom_at hx (by omega) (Bytes.length_word32 _), except_ok_bind,
    Bytes.readWord32_word32 hsize, if_neg (by simp [hdvd]),
    require_at hel (by omega) le_rfl, except_ok_bind, helement,
    decodeWith_encode p hp hplain hpb hfuel depth (height + 1) limit, depthChecked_eq_ok hdepth]

theorem decodeElements_boundary {ps : List Packet} (hvalid : ∀ p ∈ ps, p.Valid)
    (hplain : ∀ p ∈ ps, p.PlainAddresses) {body : List UInt8} (h : encodeElements ps = .ok body)
    {data x : List UInt8} {off : Nat} (hx : data.drop off = x) (hoff : off ≤ data.length)
    (hpre : x <+: body) {fuel : Nat} (hfuel : x.length < fuel) {loop : Nat}
    (hloop : x.length ≤ loop) {depth : Nat}
    (hdepth : ((depth + elementsNesting ps : Nat) : Int) ≤ limit) {k : Nat}
    (hk : x.length = elementsSize (ps.take k)) (acc : List Packet) :
    decodeElements fuel loop data off depth (.int limit) { room := none, height } acc =
      .ok (acc.reverse ++ ps.take k) := by
  induction ps generalizing body x off loop k acc with
  | nil =>
    obtain rfl : x = [] := by simpa [elementsSize] using hk
    rw [decodeElements_end hx hoff]
    simp
  | cons p rest ih =>
    cases k with
    | zero =>
      obtain rfl : x = [] := by simpa [elementsSize] using hk
      rw [decodeElements_end hx hoff]
      simp
    | succ k =>
      obtain ⟨pb, tail, hpb, hsize, htail, rfl⟩ := encodeElements_cons_eq_ok.1 h
      have hplen := Packet.length_of_encode hpb
      simp only [List.take_succ_cons, elementsSize] at hk
      obtain ⟨loop, rfl⟩ : ∃ l, loop = l + 1 := ⟨loop - 1, by omega⟩
      obtain ⟨y, rfl, hy⟩ := prefix_append_of_length_le hpre
        (by simp only [List.length_append, Bytes.length_word32]; omega)
      simp only [List.length_append, Bytes.length_word32] at hk hloop hfuel
      have hnest : ((depth + p.nesting : Nat) : Int) ≤ limit := by
        have : p.nesting ≤ elementsNesting (p :: rest) := Nat.le_max_left _ _
        omega
      rw [decodeElements_whole (hvalid p (List.mem_cons_self ..)) (hplain p (List.mem_cons_self ..))
        hpb hsize hx (by omega) hnest]
      have hrest := drop_add_of_drop hx
      simp only [List.length_append, Bytes.length_word32] at hrest
      rw [ih (fun q hq => hvalid q (List.mem_cons_of_mem _ hq))
        (fun q hq => hplain q (List.mem_cons_of_mem _ hq)) htail (by rw [Nat.add_assoc]; exact hrest)
        (by have := congrArg List.length hx
            simp only [List.length_drop, List.length_append, Bytes.length_word32] at this
            omega)
        hy (by omega) (by omega)
        (by have : elementsNesting rest ≤ elementsNesting (p :: rest) := Nat.le_max_right _ _; omega)
        (k := k) (by omega)]
      simp

theorem decodeElements_runsOut {ps : List Packet} (hvalid : ∀ p ∈ ps, p.Valid)
    (hplain : ∀ p ∈ ps, p.PlainAddresses) {body : List UInt8} (h : encodeElements ps = .ok body)
    {data x : List UInt8} {off : Nat} (hx : data.drop off = x) (hpre : x <+: body) {fuel : Nat}
    (hfuel : x.length < fuel) {loop : Nat} (hloop : x.length ≤ loop) {depth : Nat}
    (hdepth : ((depth + elementsNesting ps : Nat) : Int) ≤ limit)
    (hk : ∀ k, x.length ≠ elementsSize (ps.take k)) (acc : List Packet) :
    RunsOut (decodeElements fuel loop data off depth (.int limit) { room := none, height } acc) := by
  induction ps generalizing body x off loop acc with
  | nil =>
    obtain rfl : body = [] := by simpa [encodeElements] using h.symm
    exact absurd (by simp [List.prefix_nil.1 hpre, elementsSize]) (hk 0)
  | cons p rest ih =>
    obtain ⟨pb, tail, hpb, hsize, htail, rfl⟩ := encodeElements_cons_eq_ok.1 h
    have hplen := Packet.length_of_encode hpb
    have hpos : x.length ≠ 0 := by simpa [elementsSize] using hk 0
    obtain ⟨loop, rfl⟩ : ∃ l, loop = l + 1 := ⟨loop - 1, by omega⟩
    have hlen := congrArg List.length hx
    simp only [List.length_drop] at hlen
    by_cases hwhole : 4 + pb.length ≤ x.length
    · -- the first element is whole: read it, and the cut lies further on
      obtain ⟨y, rfl, hy⟩ := prefix_append_of_length_le hpre
        (by simp only [List.length_append, Bytes.length_word32]; omega)
      simp only [List.length_append, Bytes.length_word32] at hlen hloop hfuel
      have hnest : ((depth + p.nesting : Nat) : Int) ≤ limit := by
        have : p.nesting ≤ elementsNesting (p :: rest) := Nat.le_max_left _ _
        omega
      rw [decodeElements_whole (hvalid p (List.mem_cons_self ..)) (hplain p (List.mem_cons_self ..))
        hpb hsize hx (by omega) hnest]
      have hrest := drop_add_of_drop hx
      simp only [List.length_append, Bytes.length_word32] at hrest
      refine ih (fun q hq => hvalid q (List.mem_cons_of_mem _ hq))
        (fun q hq => hplain q (List.mem_cons_of_mem _ hq)) htail
        (by rw [Nat.add_assoc]; exact hrest) hy (by omega) (by omega)
        (by have : elementsNesting rest ≤ elementsNesting (p :: rest) := Nat.le_max_right _ _; omega)
        (fun k hk' => hk (k + 1) ?_) _
      simp only [List.take_succ_cons, elementsSize, List.length_append, Bytes.length_word32]
      omega
    · -- the cut lies inside the first element's length word or bytes
      rw [decodeElements, if_pos (by omega)]
      simp only [Calls.enter_none, except_ok_bind]
      by_cases hword : x.length < 4
      · exact (require_runsOut hx hword).bind _
      · rw [List.append_assoc] at hpre
        obtain ⟨y, rfl, hy⟩ := prefix_append_of_length_le hpre
          (by simp only [Bytes.length_word32]; omega)
        have hoff : off ≤ data.length := by omega
        have hdvd : pb.length % 4 = 0 := by
          rw [hplen]
          exact Nat.mod_eq_zero_of_dvd (Packet.four_dvd_size p)
        simp only [List.length_append, Bytes.length_word32] at hwhole
        rw [require_at hx hoff (by simp [Bytes.length_word32]), except_ok_bind,
          unpackFrom_at hx hoff (Bytes.length_word32 _), except_ok_bind,
          Bytes.readWord32_word32 hsize, if_neg (by simp [hdvd])]
        have hel := drop_add_of_drop hx
        rw [Bytes.length_word32] at hel
        exact (require_runsOut hel (by omega)).bind _

theorem decodeWith_header_runsOut {time : TimeTag} {ps : List Packet} {bytes b : List UInt8}
    (h : (Packet.bundle time ps).encode = .ok bytes) (hb : b <+: bytes) (hlt : b.length < 16)
    {depth : Nat} (hdepth : ((depth + 1 : Nat) : Int) ≤ limit) (fuel : Nat) :
    RunsOut (decodeWith fuel b depth (.int limit) { room := none, height }) := by
  obtain ⟨body, _, rfl⟩ := Packet.encode_bundle_eq_ok.1 h
  cases fuel with
  | zero =>
    rw [decodeWith]
    exact runsOut_error 0 rfl
  | succ fuel =>
    rw [decodeWith]
    cases b with
    | nil => exact runsOut_error 0 rfl
    | cons c rest =>
      have hmarker : (bundleTag ++ encodeTime time).length = 16 := by
        simp [bundleTag_eq, length_encodeTime]
      by_cases hshort : (c :: rest).length < 8
      · -- the cut falls inside the marker
        have hin : c :: rest <+: bundleTag := by
          rw [List.append_assoc] at hb
          exact List.prefix_of_prefix_length_le hb (List.prefix_append _ _)
            (by rw [bundleTag_eq]; simp at hshort ⊢; omega)
        have hnot : bundleTag.isPrefixOf (c :: rest) = false := by
          rw [Bool.eq_false_iff]
          intro hpre
          have := (List.isPrefixOf_iff_prefix.1 hpre).length_le
          rw [bundleTag_eq] at this
          simp at this hshort
          omega
        simp only [List.isEmpty_cons, Bool.false_eq_true, if_false, Calls.reach_unbounded,
          except_ok_bind, hnot, List.isPrefixOf_iff_prefix.2 hin, if_true, Calls.fail_none]
        exact runsOut_error _ rfl
      · -- the marker is whole, and the cut falls inside the time tag
        have hwhole : bundleTag <+: c :: rest := by
          rw [List.append_assoc] at hb
          exact List.prefix_of_prefix_length_le (List.prefix_append _ _) hb
            (by rw [bundleTag_eq]; simp at hshort ⊢; omega)
        have hdeep : ¬((depth + 1 : Nat) : Int) > limit := by omega
        simp only [List.isEmpty_cons, Bool.false_eq_true, if_false, Calls.reach_unbounded,
          except_ok_bind, List.isPrefixOf_iff_prefix.2 hwhole, if_true, Calls.enter_none,
          ite_self, DepthLimit.exceededBy, hdeep, decide_false]
        rw [require_short (by omega)]
        exact runsOut_error _ rfl

theorem decodeWith_bundle_prefix {time : TimeTag} {ps : List Packet} {bytes b : List UInt8}
    (h : (Packet.bundle time ps).encode = .ok bytes) (hb : b <+: bytes) (h16 : 16 ≤ b.length)
    {depth : Nat} (hdepth : ((depth + 1 : Nat) : Int) ≤ limit) (fuel : Nat) :
    decodeWith (fuel + 1) b depth (.int limit) { room := none, height } =
      (decodeElements fuel b.length b 16 (depth + 1) (.int limit)
        { room := none, height := height + 1 } []).map (.bundle time) := by
  obtain ⟨body, _, rfl⟩ := Packet.encode_bundle_eq_ok.1 h
  have hk : (bundleTag ++ encodeTime time).length ≤ b.length := by
    simp only [List.length_append, bundleTag_eq, length_encodeTime, List.length_cons, List.length_nil]
    omega
  -- keep the cut abstract: putting the written header in its place makes elaboration
  -- unfold the marker's bytes everywhere
  obtain ⟨x, hx, _⟩ := prefix_append_of_length_le hb hk
  have hne : b.isEmpty = false := by
    cases b with
    | nil => simp at h16
    | cons => rfl
  have hbundle : bundleTag.isPrefixOf b = true := by
    rw [List.isPrefixOf_iff_prefix, hx, List.append_assoc]
    exact List.prefix_append _ _
  have htime : b.drop 8 = encodeTime time ++ x := by
    rw [hx, List.append_assoc]
    exact List.drop_left' (by rw [bundleTag_eq]; rfl)
  have hdeep : ¬((depth + 1 : Nat) : Int) > limit := by omega
  rw [decodeWith]
  simp only [hne, hbundle, Bool.false_eq_true, if_false, if_true, Calls.reach_unbounded,
    except_ok_bind, Calls.enter_none, ite_self, DepthLimit.exceededBy, hdeep, decide_false]
  rw [require_at htime (by omega) (by simp [length_encodeTime]), except_ok_bind,
    unpackFrom_at htime (by omega) (length_encodeTime time), except_ok_bind, readTime_encodeTime]
  cases decodeElements fuel b.length b 16 (depth + 1) (.int limit)
    { room := none, height := height + 1 } [] <;> rfl

end Bundles

/-! ## Every cut -/

/-- Where a written packet may be cut and still be read, and what it then reads as: a
message right after its address, as the message without arguments; a bundle after its
header and its first `k` elements, as the bundle of those. -/
inductive Packet.CutsTo : Packet → Nat → Packet → Prop
  | address (address : String) (args : List Arg) :
      CutsTo (.message address args) (textSize address) (.message address [])
  | elements (time : TimeTag) (ps : List Packet) (k : Nat) :
      CutsTo (.bundle time ps) (16 + elementsSize (ps.take k)) (.bundle time (ps.take k))

theorem Packet.cutsTo_message_iff {address : String} {args : List Arg} {n : Nat} {q : Packet} :
    (Packet.message address args).CutsTo n q ↔ n = textSize address ∧ q = .message address [] := by
  constructor
  · rintro ⟨⟩
    exact ⟨rfl, rfl⟩
  · rintro ⟨rfl, rfl⟩
    exact .address address args

theorem Packet.cutsTo_bundle_iff {time : TimeTag} {ps : List Packet} {n : Nat} {q : Packet} :
    (Packet.bundle time ps).CutsTo n q ↔
      ∃ k, n = 16 + elementsSize (ps.take k) ∧ q = .bundle time (ps.take k) := by
  constructor
  · rintro ⟨⟩
    exact ⟨_, rfl, rfl⟩
  · rintro ⟨k, rfl, rfl⟩
    exact .elements time ps k

theorem decode_nil_runsOut (limit : Int) : RunsOut (decode [] limit) := by
  simp only [decode, decodeWithin, List.length_nil, Nat.zero_add]
  rw [decodeWith]
  exact runsOut_error 0 rfl

section Cuts

variable {bytes b : List UInt8} {limit : Int}

theorem decode_message_cut {address : String} {args : List Arg}
    (hp : (Packet.message address args).Valid) (hplain : (Packet.message address args).PlainAddresses)
    (h : (Packet.message address args).encode = .ok bytes) (hb : b <+: bytes)
    (hlt : b.length < bytes.length) :
    (∀ q, (Packet.message address args).CutsTo b.length q → decode b limit = .ok q) ∧
      ((∀ q, ¬(Packet.message address args).CutsTo b.length q) → RunsOut (decode b limit)) := by
  have hnul := Packet.plainAddresses_message.1 hplain
  cases b with
  | nil =>
    refine ⟨fun q hq => ?_, fun _ => decode_nil_runsOut limit⟩
    -- an address takes at least four bytes, so the empty cut is not after it
    have := (Packet.cutsTo_message_iff.1 hq).1
    simp [textSize] at this
  | cons c rest =>
    have hread : decode (c :: rest) limit =
        decodeMessage { room := none, height := 1 } (c :: rest) :=
      decodeWith_message_prefix h hb (List.cons_ne_nil c rest) _ 0 _
    rw [hread]
    refine ⟨fun q hq => ?_, fun hno => ?_⟩
    · obtain ⟨hcut, rfl⟩ := Packet.cutsTo_message_iff.1 hq
      exact decodeMessage_address hp hnul h hb hcut
    · exact decodeMessage_runsOut hp hnul h hb hlt
        (fun hcut => hno _ (Packet.cutsTo_message_iff.2 ⟨hcut, rfl⟩))

/-- A written bundle cut short reads back at its element boundaries, as the bundle of the
elements before the cut, and runs out anywhere else. -/
theorem decode_bundle_cut {time : TimeTag} {ps : List Packet}
    (hp : (Packet.bundle time ps).Valid) (hplain : (Packet.bundle time ps).PlainAddresses)
    (h : (Packet.bundle time ps).encode = .ok bytes)
    (hdepth : ((Packet.bundle time ps).nesting : Int) ≤ limit) (hb : b <+: bytes) :
    (∀ q, (Packet.bundle time ps).CutsTo b.length q → decode b limit = .ok q) ∧
      ((∀ q, ¬(Packet.bundle time ps).CutsTo b.length q) → RunsOut (decode b limit)) := by
  obtain ⟨body, hps, hbytes⟩ := Packet.encode_bundle_eq_ok.1 h
  have hnest : ((0 + 1 : Nat) : Int) ≤ limit := by simp [Packet.nesting] at hdepth; omega
  have helems : ((1 + elementsNesting ps : Nat) : Int) ≤ limit := by
    simp [Packet.nesting] at hdepth; omega
  by_cases h16 : 16 ≤ b.length
  · -- past the header, the elements loop reads from byte 16 to the end of the cut
    have hread : decodeWith (b.length + 1) b 0 (.int limit) { room := none } =
        (decodeElements b.length b.length b 16 1 (.int limit) { room := none, height := 1 }
          []).map (.bundle time) :=
      decodeWith_bundle_prefix h hb h16 hnest b.length
    have hx : b.drop 16 = b.drop 16 := rfl
    have hheader : (bundleTag ++ encodeTime time).length = 16 := by
      simp only [List.length_append, bundleTag_eq, length_encodeTime, List.length_cons,
        List.length_nil]
    have hpre := drop_prefix_of_prefix_append (x := b) (k := bundleTag ++ encodeTime time)
      (z := body) (hbytes ▸ hb) (by rw [hheader]; exact h16)
    rw [hheader] at hpre
    have hlen : (b.drop 16).length = b.length - 16 := List.length_drop
    simp only [decode, decodeWithin]
    rw [hread]
    refine ⟨fun q hq => ?_, fun hno => ?_⟩
    · obtain ⟨k, hcut, rfl⟩ := Packet.cutsTo_bundle_iff.1 hq
      rw [decodeElements_boundary (Packet.valid_bundle.1 hp) (Packet.plainAddresses_bundle.1 hplain)
        hps hx (by omega) hpre (by omega) (by omega) helems (k := k) (by omega) []]
      rfl
    · refine RunsOut.map (decodeElements_runsOut (Packet.valid_bundle.1 hp)
        (Packet.plainAddresses_bundle.1 hplain) hps hx hpre (by omega) (by omega) helems
        (fun k hk => hno _ (Packet.cutsTo_bundle_iff.2 ⟨k, by omega, rfl⟩)) []) _
  · -- inside the header: the marker or the time tag runs out
    refine ⟨fun q hq => ?_, fun _ => decodeWith_header_runsOut h hb (by omega) hnest _⟩
    obtain ⟨k, hcut, -⟩ := Packet.cutsTo_bundle_iff.1 hq
    omega

end Cuts

/-- Every proper prefix of a written packet whose addresses hold no NUL, under a depth
limit that admits the packet, reads back exactly where the packet may be cut, as what it
cuts to (`Packet.CutsTo`), and runs out of data anywhere else. -/
theorem decode_truncated {p : Packet} {bytes : List UInt8} (hp : p.Valid)
    (hplain : p.PlainAddresses) (h : p.encode = .ok bytes) {limit : Int}
    (hdepth : (p.nesting : Int) ≤ limit) {b : List UInt8} (hb : b <+: bytes)
    (hlt : b.length < bytes.length) :
    (∀ q, decode b limit = .ok q ↔ p.CutsTo b.length q) ∧
      ∀ e, decode b limit = .error e → e.kind = .eof := by
  have hcut : (∀ q, p.CutsTo b.length q → decode b limit = .ok q) ∧
      ((∀ q, ¬p.CutsTo b.length q) → RunsOut (decode b limit)) := by
    cases p with
    | message address args => exact decode_message_cut hp hplain h hb hlt
    | bundle time ps => exact decode_bundle_cut hp hplain h hdepth hb
  obtain ⟨hok, hout⟩ := hcut
  by_cases hsome : ∃ q, p.CutsTo b.length q
  · obtain ⟨q, hq⟩ := hsome
    have hread := hok q hq
    refine ⟨fun q' => ⟨fun h' => ?_, hok q'⟩, fun e he => ?_⟩
    · rw [hread] at h'
      cases h'
      exact hq
    · rw [hread] at he
      cases he
  · obtain ⟨e, hread, hkind⟩ := hout (fun q hq => hsome ⟨q, hq⟩)
    refine ⟨fun q => ⟨fun h' => ?_, fun hq => absurd ⟨q, hq⟩ hsome⟩, fun e' he' => ?_⟩
    · rw [hread] at h'
      cases h'
    · rw [hread] at he'
      cases he'
      exact hkind

/-- A bundle holding one message, cut right after its header, reads as the bundle with no
elements; cut inside the message, it runs out. -/
theorem decode_truncated_bundle :
    decode [35, 98, 117, 110, 100, 108, 101, 0, 0, 0, 0, 0, 0, 0, 0, 1] 1 =
        .ok (.bundle ⟨0, 1⟩ []) ∧
      ∀ e, decode [35, 98, 117, 110, 100, 108, 101, 0, 0, 0, 0, 0, 0, 0, 0, 1,
        0, 0, 0, 12, 47, 97] 1 = .error e → e.kind = .eof := by
  have hv : (Packet.bundle ⟨0, 1⟩ [.message "/a" [.int 1]]).Valid := by decide +kernel
  have hplain : (Packet.bundle ⟨0, 1⟩ [.message "/a" [.int 1]]).PlainAddresses := by
    decide +kernel
  have he : (Packet.bundle ⟨0, 1⟩ [.message "/a" [.int 1]]).encode =
      .ok [35, 98, 117, 110, 100, 108, 101, 0, 0, 0, 0, 0, 0, 0, 0, 1,
        0, 0, 0, 12, 47, 97, 0, 0, 44, 105, 0, 0, 0, 0, 0, 1] := by
    decide +kernel
  have hdepth : ((Packet.bundle ⟨0, 1⟩ [.message "/a" [.int 1]]).nesting : Int) ≤ 1 := by
    decide
  exact ⟨((decode_truncated hv hplain he hdepth (by decide) (by decide)).1 _).2
      (Packet.cutsTo_bundle_iff.2 ⟨0, rfl, rfl⟩),
    (decode_truncated hv hplain he hdepth (by decide) (by decide)).2⟩

end VirtualMocap.Osc
