import VirtualMocap.Proofs.Osc.Refusal
import VirtualMocap.Proofs.Osc.RoundTrip

/-!
# One written form per packet

A datagram that `decode` reads is, field for field, what `Packet.encode` writes for the
packet it gives, but for two exceptions: a message may end right after its address
(`endsAtAddress`), and a single is read in its quiet form. `messageBytes` marks out each
message's bytes and `Packet.floatSites` each single's word. Main statement:
`decoded_reencodes_iff`.
-/

namespace VirtualMocap

namespace Bytes

theorem readWord32_lt (w : List UInt8) : readWord32 w < twoPow 32 := by
  unfold readWord32
  split
  · next a b c d _ =>
    have ha : a.toNat < 256 := a.toNat_lt
    have hb : b.toNat < 256 := b.toNat_lt
    have hc : c.toNat < 256 := c.toNat_lt
    have hd : d.toNat < 256 := d.toNat_lt
    simp only [twoPow_eq]
    omega
  · simp [twoPow_eq]

theorem word32_readWord32 {w : List UInt8} (hw : w.length = 4) : word32 (readWord32 w) = w := by
  match w, hw with
  | [a, b, c, d], _ =>
    have ha : a.toNat < 256 := a.toNat_lt
    have hb : b.toNat < 256 := b.toNat_lt
    have hc : c.toNat < 256 := c.toNat_lt
    have hd : d.toNat < 256 := d.toNat_lt
    simp only [word32, readWord32, twoPow_eq, List.cons.injEq, and_true]
    refine ⟨?_, ?_, ?_, ?_⟩ <;> rw [← UInt8.toNat_inj] <;> simp [Nat.toUInt8] <;> omega

theorem unsigned32_signed32 {n : Nat} (h : n < twoPow 32) : unsigned32 (signed32 n) = n := by
  simp only [signed32, unsigned32, twoPow_eq] at *
  by_cases hn : n < 2 ^ 31
  · simp only [hn, if_true]
    split_ifs <;> omega
  · simp only [hn, if_false]
    split_ifs <;> omega

theorem signed32_range {n : Nat} (h : n < twoPow 32) :
    -(twoPow 31 : Int) ≤ signed32 n ∧ signed32 n < twoPow 31 := by
  simp only [signed32, twoPow_eq] at *
  split_ifs <;> omega

theorem readWord32_take (w : List UInt8) : readWord32 (w.take 4) = readWord32 w := by
  match w with
  | a :: b :: c :: d :: _ => rfl
  | [] | [_] | [_, _] | [_, _, _] => rfl

end Bytes

namespace Osc

/-! ## The messages of a datagram -/

mutual

/-- The bytes of each message a datagram holds, depth-first: a datagram that starts
with the bundle marker holds the messages of its elements, any other is one message.
`fuel` and `loop` bound the recursion as in `decodeWith`. -/
def messageBytesWith : Nat → List UInt8 → List (List UInt8)
  | 0, _ => []
  | fuel + 1, data =>
    if bundleTag.isPrefixOf data then elementMessageBytes fuel data.length data 16 else [data]
termination_by fuel => (fuel, 0)

def elementMessageBytes (fuel : Nat) : Nat → List UInt8 → Nat → List (List UInt8)
  | 0, _, _ => []
  | loop + 1, data, off =>
    if off < data.length then
      let size := Bytes.readWord32 ((data.drop off).take 4)
      messageBytesWith fuel ((data.drop (off + 4)).take size) ++
        elementMessageBytes fuel loop data (off + 4 + size)
    else []
termination_by loop => (fuel, loop + 1)

end

/-- The bytes of each message a datagram holds. -/
def messageBytes (data : List UInt8) : List (List UInt8) :=
  messageBytesWith (data.length + 1) data

/-- Whether a message's bytes end right after its address: the address's first NUL and
the padding after it fill them. -/
def endsAtAddress (m : List UInt8) : Bool :=
  match m.findIdx? (· == 0) with
  | some i => (i / 4 + 1) * 4 == m.length
  | none => false

/-! ## Where singles are written -/

def Arg.floatSite : Arg → Nat → List (Nat × Binary32)
  | .float x, start => [(start, x)]
  | .int _, _ | .str _, _ | .blob _, _ | .bool _, _ | .time _, _ => []

def argFloatSites : List Arg → Nat → List (Nat × Binary32)
  | [], _ => []
  | a :: rest, start => a.floatSite start ++ argFloatSites rest (start + a.size)

mutual

/-- Where each single of a packet written at `start` begins, with its value. -/
def Packet.floatSites : Packet → Nat → List (Nat × Binary32)
  | .message address args, start =>
    argFloatSites args (start + textSize address + textSize ("," ++ tagsOf args))
  | .bundle _ elements, start => elementFloatSites elements (start + 16)

def elementFloatSites : List Packet → Nat → List (Nat × Binary32)
  | [], _ => []
  | p :: rest, start => p.floatSites (start + 4) ++ elementFloatSites rest (start + 4 + p.size)

end

def WordsAt (data : List UInt8) (sites : List (Nat × Binary32)) : Prop :=
  ∀ s ∈ sites, (data.drop s.1).take 4 = Bytes.word32 s.2.bits.toNat

instance (data : List UInt8) (sites : List (Nat × Binary32)) : Decidable (WordsAt data sites) :=
  inferInstanceAs (Decidable (∀ s ∈ sites, _))

def shiftSite (k : Nat) (s : Nat × Binary32) : Nat × Binary32 := (k + s.1, s.2)

section Sites

variable {data : List UInt8} {sites sites' : List (Nat × Binary32)}

theorem wordsAt_append : WordsAt data (sites ++ sites') ↔ WordsAt data sites ∧ WordsAt data sites' := by
  simp only [WordsAt, List.mem_append]
  constructor
  · intro h
    exact ⟨fun s hs => h s (.inl hs), fun s hs => h s (.inr hs)⟩
  · rintro ⟨h, h'⟩ s (hs | hs)
    · exact h s hs
    · exact h' s hs

theorem wordsAt_map_shift (k : Nat) :
    WordsAt data (sites.map (shiftSite k)) ↔ WordsAt (data.drop k) sites := by
  constructor
  · intro h s hs
    simpa [shiftSite, List.drop_drop] using h _ (List.mem_map_of_mem hs)
  · intro h s hs
    obtain ⟨t, ht, rfl⟩ := List.mem_map.1 hs
    simpa [shiftSite, List.drop_drop] using h t ht

theorem wordsAt_take {n : Nat} (hn : ∀ s ∈ sites, s.1 + 4 ≤ n) (h : WordsAt data sites) :
    WordsAt (data.take n) sites := by
  intro s hs
  have hle := hn s hs
  rw [List.drop_take, List.take_take, Nat.min_eq_left (by omega)]
  exact h s hs

theorem argFloatSites_add (args : List Arg) (k start : Nat) :
    argFloatSites args (k + start) = (argFloatSites args start).map (shiftSite k) := by
  induction args generalizing start with
  | nil => rfl
  | cons a rest ih =>
    rw [argFloatSites, argFloatSites, List.map_append, Nat.add_assoc, ih]
    cases a <;> rfl

mutual

theorem Packet.floatSites_add : (p : Packet) → (k start : Nat) →
    p.floatSites (k + start) = (p.floatSites start).map (shiftSite k)
  | .message address args, k, start => by
    rw [Packet.floatSites, Packet.floatSites, ← argFloatSites_add]
    congr 1
    omega
  | .bundle _ elements, k, start => by
    rw [Packet.floatSites, Packet.floatSites, Nat.add_assoc, elementFloatSites_add]

theorem elementFloatSites_add : (ps : List Packet) → (k start : Nat) →
    elementFloatSites ps (k + start) = (elementFloatSites ps start).map (shiftSite k)
  | [], _, _ => rfl
  | p :: rest, k, start => by
    rw [elementFloatSites, elementFloatSites, List.map_append, Nat.add_assoc,
      Packet.floatSites_add p k (start + 4), Nat.add_assoc k (start + 4),
      elementFloatSites_add rest k (start + 4 + p.size)]

end

theorem argFloatSites_le {args : List Arg} {start : Nat} :
    ∀ s ∈ argFloatSites args start, s.1 + 4 ≤ start + (args.map Arg.size).sum := by
  induction args generalizing start with
  | nil => simp [argFloatSites]
  | cons a rest ih =>
    intro s hs
    rw [argFloatSites, List.mem_append] at hs
    rw [List.map_cons, List.sum_cons]
    rcases hs with hs | hs
    · -- the single itself, four bytes at the start
      cases a <;> simp [Arg.floatSite] at hs
      subst hs
      simp only [Arg.size]
      omega
    · have := ih s hs
      omega

mutual

theorem Packet.floatSites_le : (p : Packet) → (start : Nat) →
    ∀ s ∈ p.floatSites start, s.1 + 4 ≤ start + p.size
  | .message address args, start, s, hs => by
    have := argFloatSites_le s hs
    simp only [Packet.size]
    omega
  | .bundle _ elements, start, s, hs => by
    have := elementFloatSites_le elements (start + 16) s hs
    simp only [Packet.size]
    omega

theorem elementFloatSites_le : (ps : List Packet) → (start : Nat) →
    ∀ s ∈ elementFloatSites ps start, s.1 + 4 ≤ start + elementsSize ps
  | [], _, s, hs => by simp [elementFloatSites] at hs
  | p :: rest, start, s, hs => by
    rw [elementFloatSites, List.mem_append] at hs
    simp only [elementsSize]
    rcases hs with hs | hs
    · have := Packet.floatSites_le p (start + 4) s hs
      omega
    · have := elementFloatSites_le rest (start + 4 + p.size) s hs
      omega

end

end Sites

/-! ## Singles as the encoder writes them -/

section Written

variable {data post : List UInt8} {off : Nat}

theorem wordsAt_of_encodeArgs {args : List Arg} {bytes : List UInt8}
    (h : encodeArgs args = .ok bytes) (hx : data.drop off = bytes ++ post) :
    WordsAt data (argFloatSites args off) := by
  induction args generalizing bytes off with
  | nil => simp [argFloatSites, WordsAt]
  | cons a rest ih =>
    obtain ⟨head, tail, ha, hrest, rfl⟩ := encodeArgs_cons_eq_ok.1 h
    rw [List.append_assoc] at hx
    rw [argFloatSites, wordsAt_append]
    refine ⟨?_, ?_⟩
    · cases a with
      | float x =>
        cases ha
        intro s hs
        simp only [Arg.floatSite, List.mem_singleton] at hs
        subst hs
        rw [hx, List.take_left' (Bytes.length_word32 _)]
      | int | str | blob | bool | time => simp [Arg.floatSite, WordsAt]
    · rw [← Arg.length_of_encode ha]
      exact ih hrest (drop_add_of_drop hx)

mutual

theorem Packet.wordsAt_of_encode : {p : Packet} → {bytes : List UInt8} → p.encode = .ok bytes →
    ∀ {data post : List UInt8} {off : Nat}, data.drop off = bytes ++ post →
      WordsAt data (p.floatSites off)
  | .message address args, bytes, h, data, post, off, hx => by
    obtain ⟨-, a, t, body, ha, ht, hbody, rfl⟩ := Packet.encode_message_eq_ok.1 h
    rw [List.append_assoc, List.append_assoc] at hx
    have hargs := drop_add_of_drop (drop_add_of_drop hx)
    rw [Packet.floatSites, ← length_of_textField ha, ← length_of_textField ht]
    exact wordsAt_of_encodeArgs hbody hargs
  | .bundle time ps, bytes, h, data, post, off, hx => by
    obtain ⟨body, hps, rfl⟩ := Packet.encode_bundle_eq_ok.1 h
    rw [List.append_assoc, List.append_assoc] at hx
    have helements := drop_add_of_drop (drop_add_of_drop hx)
    rw [bundleTag_eq, length_encodeTime] at helements
    exact wordsAt_of_encodeElements hps helements

theorem wordsAt_of_encodeElements : {ps : List Packet} → {bytes : List UInt8} →
    encodeElements ps = .ok bytes → ∀ {data post : List UInt8} {off : Nat},
      data.drop off = bytes ++ post → WordsAt data (elementFloatSites ps off)
  | [], _, _, _, _, _, _ => by simp [elementFloatSites, WordsAt]
  | p :: rest, bytes, h, data, post, off, hx => by
    obtain ⟨body, tail, hp, -, hrest, rfl⟩ := encodeElements_cons_eq_ok.1 h
    rw [List.append_assoc, List.append_assoc] at hx
    have hbody := drop_add_of_drop hx
    rw [Bytes.length_word32] at hbody
    have htail := drop_add_of_drop hbody
    rw [Packet.length_of_encode hp] at htail
    rw [elementFloatSites, wordsAt_append]
    exact ⟨Packet.wordsAt_of_encode hp hbody, wordsAt_of_encodeElements hrest htail⟩

end

end Written

/-! ## What the readers take -/

theorem encodeTime_read {w : List UInt8} (hw : w.length = 8) :
    encodeTime ⟨(Bytes.readWord32 w).toUInt32, (Bytes.readWord32 (w.drop 4)).toUInt32⟩ = w := by
  have hlt (v : List UInt8) : (Bytes.readWord32 v).toUInt32.toNat = Bytes.readWord32 v := by
    have := Bytes.readWord32_lt v
    simp only [Bytes.twoPow_eq] at this
    simp [Nat.toUInt32]
    omega
  rw [encodeTime, hlt, hlt, ← Bytes.readWord32_take w,
    Bytes.word32_readWord32 (by simp; omega), Bytes.word32_readWord32 (by simp; omega),
    List.take_append_drop]

theorem drop_eq_take_append (data : List UInt8) (off n : Nat) :
    data.drop off = (data.drop off).take n ++ data.drop (off + n) := by
  rw [← List.drop_drop, List.take_append_drop]

section Readers

variable {height : Nat} {data : List UInt8} {off : Nat} {what : Field}

theorem skipPadding_zeros {a b r : Nat}
    (h : skipPadding { room := none, height } data a b what = .ok r) :
    r = b ∧ b ≤ data.length ∧ (data.drop a).take (b - a) = Bytes.zeros (b - a) := by
  rw [skipPadding_none] at h
  split at h
  · cases h
  · split at h
    · cases h
    · next hlen hpad =>
      cases h
      refine ⟨rfl, by omega, ?_⟩
      have hall : ∀ x ∈ (data.drop a).take (b - a), x = 0 := by simpa using hpad
      rw [Bytes.zeros, List.eq_replicate_iff]
      exact ⟨by simp; omega, hall⟩

theorem readPaddedString_eq_ok {s : String} {stop : Nat}
    (h : readPaddedString { room := none, height } data off what = .ok (s, stop)) :
    ∃ i, (data.drop off).findIdx? (· == 0) = some i ∧ stop = off + (i / 4 + 1) * 4 ∧
      stop ≤ data.length ∧
      (data.drop (off + i + 1)).take (stop - (off + i + 1)) = Bytes.zeros (stop - (off + i + 1)) ∧
      Text.decodeUtf8 ((data.drop off).take i) = .ok s := by
  simp only [readPaddedString, Calls.reach_unbounded, except_ok_bind] at h
  split at h
  · simp at h
  · next i hfind =>
    simp only [Calls.enter_none, except_ok_bind] at h
    obtain ⟨r, hpad, h⟩ := except_bind_eq_ok.1 h
    obtain ⟨rfl, hstop, hzeros⟩ := skipPadding_zeros hpad
    split at h
    · simp at h
    · next t hdec =>
      simp only [except_pure, Except.ok.injEq, Prod.mk.injEq] at h
      obtain ⟨rfl, rfl⟩ := h
      exact ⟨i, hfind, rfl, hstop, hzeros, hdec⟩

theorem readPaddedString_written {s : String} {stop : Nat}
    (h : readPaddedString { room := none, height } data off what = .ok (s, stop)) :
    ∃ bytes, textField s = .ok bytes ∧ data.drop off = bytes ++ data.drop stop ∧
      stop = off + bytes.length := by
  obtain ⟨i, hfind, rfl, hstop, hzeros, hdec⟩ := readPaddedString_eq_ok h
  obtain ⟨hi, hnul, -⟩ := List.findIdx?_eq_some_iff_getElem.1 hfind
  have hraw : ((data.drop off).take i).length = i := by
    simp only [List.length_take, List.length_drop] at hi ⊢
    omega
  obtain ⟨m, hm⟩ : ∃ m, (i / 4 + 1) * 4 - i = m + 1 := ⟨(i / 4 + 1) * 4 - i - 1, by omega⟩
  have hafter : ((data.drop off).drop (i + 1)).take m = Bytes.zeros m := by
    rw [List.drop_drop, ← Nat.add_assoc]
    rwa [show off + (i / 4 + 1) * 4 - (off + i + 1) = m by omega] at hzeros
  have hpad : ((data.drop off).drop i).take ((i / 4 + 1) * 4 - i) =
      Bytes.zeros ((i / 4 + 1) * 4 - i) := by
    rw [hm, List.drop_eq_getElem_cons hi, List.take_succ_cons, hafter]
    simp only [Bytes.zeros, List.replicate_succ]
    simpa using hnul
  refine ⟨(data.drop off).take i ++ Bytes.zeros ((i / 4 + 1) * 4 - i), ?_, ?_, ?_⟩
  · rw [textField_eq_ok]
    exact ⟨_, Text.encodeUtf8_of_decodeUtf8 hdec, by rw [hraw]⟩
  · calc data.drop off
        = (data.drop off).take (i + ((i / 4 + 1) * 4 - i)) ++
            (data.drop off).drop (i + ((i / 4 + 1) * 4 - i)) := (List.take_append_drop _ _).symm
      _ = _ := by
        rw [List.take_add, hpad, List.drop_drop, show i + ((i / 4 + 1) * 4 - i) = (i / 4 + 1) * 4 by omega]
  · simp only [List.length_append, hraw, Bytes.zeros, List.length_replicate]
    omega

theorem endsAtAddress_of_readPaddedString {s : String} {stop : Nat}
    (h : readPaddedString { room := none, height } data 0 what = .ok (s, stop)) :
    endsAtAddress data = (stop == data.length) := by
  obtain ⟨i, hfind, rfl, -⟩ := readPaddedString_eq_ok h
  rw [List.drop_zero] at hfind
  simp [endsAtAddress, hfind]

/-- What a reader takes for an argument: the bytes up to `stop`, as many as the
argument takes, which are its written form unless it is a single read from a word that
is not its own. -/
theorem readArg_written {tag : Char} {a : Arg} {stop : Nat}
    (h : readArg { room := none, height } tag data off = some (.ok (a, stop))) :
    a.tag = tag ∧ ∃ bytes, data.drop off = bytes ++ data.drop stop ∧
      stop = off + bytes.length ∧ bytes.length = a.size ∧
      (WordsAt data (a.floatSite off) → a.encode = .ok bytes) := by
  simp only [readArg, Calls.enter_none, except_ok_bind] at h
  split_ifs at h with hi hf hs hb ht hT hF
  · -- a 32-bit integer, in two's complement
    obtain ⟨_, -, h⟩ := except_bind_eq_ok.1 (Option.some.inj h)
    obtain ⟨w, hw, h⟩ := except_bind_eq_ok.1 h
    simp only [Calls.reach_unbounded, except_ok_bind, except_pure, Except.ok.injEq,
      Prod.mk.injEq] at h
    obtain ⟨rfl, rfl⟩ := h
    obtain ⟨hfit, rfl⟩ := unpackFrom_eq_ok.1 hw
    have hlen : ((data.drop off).take 4).length = 4 := by simp; omega
    have hn := Bytes.readWord32_lt ((data.drop off).take 4)
    obtain ⟨h1, h2⟩ := Bytes.signed32_range hn
    simp only [Bytes.twoPow_eq] at h1 h2
    refine ⟨by rw [beq_iff_eq] at hi; rw [hi]; rfl, _, drop_eq_take_append data off 4, by rw [hlen],
      hlen, fun _ => ?_⟩
    rw [Arg.encode, Int32.toInt_ofInt, Int.bmod_eq_of_le (by simp [Int32.size]; omega)
      (by simp [Int32.size]; omega), Bytes.unsigned32_signed32 hn, Bytes.word32_readWord32 hlen]
  · -- a single, made quiet: its own word only if it was quiet already
    obtain ⟨_, -, h⟩ := except_bind_eq_ok.1 (Option.some.inj h)
    obtain ⟨w, hw, h⟩ := except_bind_eq_ok.1 h
    simp only [Calls.reach_unbounded, except_ok_bind, except_pure, Except.ok.injEq,
      Prod.mk.injEq] at h
    obtain ⟨rfl, rfl⟩ := h
    obtain ⟨hfit, rfl⟩ := unpackFrom_eq_ok.1 hw
    have hlen : ((data.drop off).take 4).length = 4 := by simp; omega
    refine ⟨by rw [beq_iff_eq] at hf; rw [hf]; rfl, _, drop_eq_take_append data off 4, by rw [hlen],
      hlen, fun hword => ?_⟩
    have hkept : (data.drop off).take 4 = _ := hword _ (List.mem_singleton_self _)
    rw [Arg.encode]
    exact congrArg Except.ok hkept.symm
  · -- a text
    obtain ⟨⟨t, r⟩, hstr, h⟩ := except_bind_eq_ok.1 (Option.some.inj h)
    simp only [Calls.reach_unbounded, except_ok_bind, except_pure, Except.ok.injEq,
      Prod.mk.injEq] at h
    obtain ⟨rfl, rfl⟩ := h
    obtain ⟨bytes, hfield, hx, hstop⟩ := readPaddedString_written hstr
    exact ⟨by rw [beq_iff_eq] at hs; rw [hs]; rfl, bytes, hx, hstop, length_of_textField hfield,
      fun _ => hfield⟩
  · -- a blob: its length word, its bytes, then NULs up to the next word
    obtain ⟨_, -, h⟩ := except_bind_eq_ok.1 (Option.some.inj h)
    obtain ⟨w, hw, h⟩ := except_bind_eq_ok.1 h
    obtain ⟨_, hreq, h⟩ := except_bind_eq_ok.1 h
    obtain ⟨r, hpad, h⟩ := except_bind_eq_ok.1 h
    simp only [Calls.reach_unbounded, except_ok_bind, except_pure, Except.ok.injEq,
      Prod.mk.injEq] at h
    obtain ⟨rfl, rfl⟩ := h
    obtain ⟨hfit, rfl⟩ := unpackFrom_eq_ok.1 hw
    set size := Bytes.readWord32 ((data.drop off).take 4)
    have hbytes := require_eq_ok.1 hreq
    obtain ⟨rfl, hstop, hzeros⟩ := skipPadding_zeros hpad
    have hlen : ((data.drop off).take 4).length = 4 := by simp; omega
    have hblob : ((data.drop (off + 4)).take size).length = size := by simp; omega
    have hsize : size < twoPow 32 := Bytes.readWord32_lt _
    refine ⟨by rw [beq_iff_eq] at hb; rw [hb]; rfl, (data.drop off).take 4 ++ (data.drop (off + 4)).take size ++
      Bytes.zeros ((size + 3) / 4 * 4 - size), ?_, ?_, ?_, fun _ => ?_⟩
    · rw [show off + 4 + (size + 3) / 4 * 4 - (off + 4 + size) = (size + 3) / 4 * 4 - size
        by omega] at hzeros
      rw [← hzeros, show off + 4 + (size + 3) / 4 * 4 =
          off + 4 + size + ((size + 3) / 4 * 4 - size) by omega]
      simp only [List.append_assoc]
      rw [← drop_eq_take_append data (off + 4 + size), ← drop_eq_take_append data (off + 4) size,
        ← drop_eq_take_append data off 4]
    · simp only [List.length_append, hlen, hblob, Bytes.zeros, List.length_replicate]
      omega
    · simp only [List.length_append, hlen, hblob, Bytes.zeros, List.length_replicate, Arg.size]
      omega
    · have hpad4 : (pad4 (size : Int)).toNat - size = (size + 3) / 4 * 4 - size := by
        rw [pad4]
        omega
      have hword : Bytes.word32 size = (data.drop off).take 4 := Bytes.word32_readWord32 hlen
      rw [Arg.encode, lengthWord, if_pos (by rw [hblob]; exact hsize)]
      simp only [Except.map, hblob, hword, List.append_assoc]
      rw [hpad4]
  · -- a time tag: two words
    obtain ⟨_, -, h⟩ := except_bind_eq_ok.1 (Option.some.inj h)
    obtain ⟨w, hw, h⟩ := except_bind_eq_ok.1 h
    simp only [Calls.reach_unbounded, except_ok_bind, except_pure, Except.ok.injEq,
      Prod.mk.injEq] at h
    obtain ⟨rfl, rfl⟩ := h
    obtain ⟨hfit, rfl⟩ := unpackFrom_eq_ok.1 hw
    have hlen : ((data.drop off).take 8).length = 8 := by simp; omega
    refine ⟨by rw [beq_iff_eq] at ht; rw [ht]; rfl, _, drop_eq_take_append data off 8, by rw [hlen],
      hlen, fun _ => ?_⟩
    rw [Arg.encode, encodeTime_read hlen]
  · -- truth values take no bytes
    simp only [Option.some.injEq, Calls.reach_unbounded, except_ok_bind, except_pure,
      Except.ok.injEq, Prod.mk.injEq] at h
    obtain ⟨rfl, rfl⟩ := h
    exact ⟨by rw [beq_iff_eq] at hT; rw [hT]; rfl, [], by simp, by simp, rfl, fun _ => rfl⟩
  · simp only [Option.some.injEq, Calls.reach_unbounded, except_ok_bind, except_pure,
      Except.ok.injEq, Prod.mk.injEq] at h
    obtain ⟨rfl, rfl⟩ := h
    exact ⟨by rw [beq_iff_eq] at hF; rw [hF]; rfl, [], by simp, by simp, rfl, fun _ => rfl⟩

theorem readArgs_written {tags : List Char} {tagAt : Nat} {acc args : List Arg} {stop : Nat}
    (h : readArgs { room := none, height } data tags tagAt off acc = .ok (args, stop)) :
    ∃ new bytes, args = acc.reverse ++ new ∧ new.map Arg.tag = tags ∧
      data.drop off = bytes ++ data.drop stop ∧ stop = off + bytes.length ∧
      bytes.length = (new.map Arg.size).sum ∧
      (WordsAt data (argFloatSites new off) → encodeArgs new = .ok bytes) := by
  induction tags generalizing tagAt off acc with
  | nil =>
    simp only [readArgs, Except.ok.injEq, Prod.mk.injEq] at h
    obtain ⟨rfl, rfl⟩ := h
    exact ⟨[], [], by simp, rfl, by simp, by simp, rfl, fun _ => rfl⟩
  | cons tag tags ih =>
    rw [readArgs] at h
    split at h
    · rw [Calls.fail_none] at h
      cases h
    · cases h
    · next a off' hread =>
      obtain ⟨htag, bytes, hx, hstop, hsize, hencode⟩ := readArg_written hread
      obtain ⟨new, rest, rfl, hnew, hx', hstop', hsize', hencode'⟩ := ih h
      refine ⟨a :: new, bytes ++ rest, by simp, by simp [htag, hnew], ?_, ?_, ?_, ?_⟩
      · rw [hx, hx', List.append_assoc]
      · rw [hstop', hstop, List.length_append, Nat.add_assoc]
      · simp [hsize, hsize']
      · intro hwords
        rw [argFloatSites, wordsAt_append] at hwords
        rw [← hsize, ← hstop] at hwords
        exact encodeArgs_cons_eq_ok.2 ⟨bytes, rest, hencode hwords.1, hencode' hwords.2, rfl⟩

theorem eq_comma_of_utf8EncodeChar {c : Char} (h : String.utf8EncodeChar c = [0x2C]) :
    c = ',' := by
  by_cases hc : c.toNat < 0x80
  · rw [Text.utf8EncodeChar_one hc, List.cons.injEq] at h
    have h44 : c.toNat = 44 := by
      have := congrArg UInt8.toNat h.1
      rwa [Text.toNat_byte (by omega)] at this
    rw [← Char.ofNat_toNat c, h44]
  · have := Text.le_toNat_of_mem_utf8EncodeChar (h ▸ List.mem_singleton_self _) (by omega)
    simp at this

theorem tagString_of_readPaddedString {tags : String} {stop : Nat} {args : List Arg}
    (h : readPaddedString { room := none, height } data off what = .ok (tags, stop))
    (hcomma : (data.drop off).head? = some 0x2C)
    (hargs : args.map Arg.tag = (Text.release tags).toList.drop 1) :
    "," ++ tagsOf args = tags := by
  obtain ⟨i, hfind, -, -, -, hdec⟩ := readPaddedString_eq_ok h
  obtain ⟨cs, rfl, hcs⟩ := Text.decodeUtf8_eq_ok hdec
  rw [release_ofScalars, String.toList_ofList] at hargs
  -- the comma is no NUL, so the text has a first character, and it is the comma
  obtain ⟨rest, hrest⟩ := List.head?_eq_some_iff.1 hcomma
  have hi : i ≠ 0 := by
    rintro rfl
    rw [hrest] at hfind
    simp [List.findIdx?_cons] at hfind
  obtain ⟨c, cs', rfl⟩ : ∃ c cs', cs = c :: cs' := by
    cases cs with
    | nil =>
      rw [List.flatMap_nil, hrest] at hcs
      cases i with
      | zero => exact absurd rfl hi
      | succ i => simp at hcs
    | cons c cs' => exact ⟨c, cs', rfl⟩
  have hhead : (String.utf8EncodeChar c).head? = some 0x2C := by
    obtain ⟨i', rfl⟩ : ∃ i', i = i' + 1 := ⟨i - 1, by omega⟩
    rw [hrest, List.take_succ_cons, List.flatMap_cons] at hcs
    cases hu : String.utf8EncodeChar c with
    | nil => exact absurd hu String.utf8EncodeChar_ne_nil
    | cons b bs =>
      rw [hu, List.cons_append, List.cons.injEq] at hcs
      rw [hcs.1]
      rfl
  have hc := eq_comma_of_utf8EncodeChar (utf8EncodeChar_of_head (by decide) hhead)
  subst hc
  simp only [List.drop_succ_cons, List.drop_zero] at hargs
  rw [tagString_eq, tagChars, hargs]

/-- A message read from `data` takes all of it: the bytes it takes to write, less the
four of the type tag string when the message ends at its address; and unless it ends
there, or a single was read from a word not its own, it is written as `data`. -/
theorem decodeMessage_written {q : Packet}
    (h : decodeMessage { room := none, height } data = .ok q) :
    data.length + 4 * (if endsAtAddress data then 1 else 0) = q.size ∧
      (endsAtAddress data = false → WordsAt data (q.floatSites 0) → q.encode = .ok data) := by
  simp only [decodeMessage, Calls.enter_none, except_ok_bind] at h
  obtain ⟨⟨address, off⟩, haddr, h⟩ := except_bind_eq_ok.1 h
  obtain ⟨a, ha, hxa, hoff⟩ := readPaddedString_written haddr
  have hends := endsAtAddress_of_readPaddedString haddr
  rw [List.drop_zero, Nat.zero_add] at *
  have hsizeA := length_of_textField ha
  simp only [Calls.reach_unbounded, except_ok_bind] at h
  split at h
  · simp at h
  next hslash =>
  have hslash : address.startsWith "/" = true := by simpa using hslash
  split at h
  · -- the address fills the data: the message without arguments
    next hend =>
    simp only [except_pure, Except.ok.injEq] at h
    subst h
    have hdata : data = a := by
      rw [hend, List.drop_length, List.append_nil] at hxa
      exact hxa
    have hbare : endsAtAddress data = true := by simp [hends, hend]
    have htags : textSize ("," ++ tagsOf []) = 4 := by decide
    refine ⟨?_, fun h => absurd hbare (by simp [h])⟩
    rw [if_pos hbare]
    simp only [Packet.size, List.map_nil, List.sum_nil, htags, hdata, hsizeA]
    omega
  split at h
  · simp at h
  next hcomma =>
  have hcomma : (data.drop off).head? = some 0x2C := by simpa using hcomma
  obtain ⟨⟨tags, stop⟩, htags, h⟩ := except_bind_eq_ok.1 h
  obtain ⟨t, ht, hxt, hstop⟩ := readPaddedString_written htags
  obtain ⟨⟨args, stop'⟩, hargs, h⟩ := except_bind_eq_ok.1 h
  obtain ⟨new, body, hnew, htagsNew, hxb, hstop', hbody, hencode⟩ := readArgs_written hargs
  simp only [List.reverse_nil, List.nil_append] at hnew
  subst hnew
  split at h
  · simp at h
  next hend =>
  simp only [Decidable.not_not] at hend
  simp only [except_pure, Except.ok.injEq] at h
  subst h
  have htagString := tagString_of_readPaddedString htags hcomma htagsNew
  rw [← htagString] at ht
  have hsizeT := length_of_textField ht
  have hdata : data = a ++ t ++ body := by
    rw [hxt, hxb, hend, List.drop_length, List.append_nil] at hxa
    rw [hxa, List.append_assoc]
  have hlen : data.length = a.length + t.length + body.length := by
    rw [hdata]
    simp only [List.length_append]
  have hnotBare : endsAtAddress data = false := by
    have := four_dvd_textSize ("," ++ tagsOf args)
    have : 0 < t.length := by
      rw [hsizeT, textSize]
      omega
    simp [hends]
    omega
  refine ⟨?_, fun _ hwords => ?_⟩
  · simp only [hnotBare, Bool.false_eq_true, if_false, Packet.size]
    omega
  · rw [Packet.floatSites, Nat.zero_add, ← hsizeA, ← hsizeT, ← hoff, ← hstop] at hwords
    exact Packet.encode_message_eq_ok.2 ⟨hslash, a, t, body, ha, ht, hencode hwords, hdata⟩

end Readers

/-! ## Packets -/

section Packets

variable {limit : DepthLimit}

theorem elementMessageBytes_succ {fuel loop : Nat} {data : List UInt8} {off : Nat}
    (h : off < data.length) :
    elementMessageBytes fuel (loop + 1) data off =
      messageBytesWith fuel ((data.drop (off + 4)).take (Bytes.readWord32 ((data.drop off).take 4))) ++
        elementMessageBytes fuel loop data (off + 4 + Bytes.readWord32 ((data.drop off).take 4)) := by
  rw [elementMessageBytes, if_pos h]

/-- The elements of a bundle read from `off` on take the rest of the data, each as long
as its length word says; the bytes they take are as many as they take to write, less
four for each message that ends at its address, and without such a message or a single
read from a word not its own they are the elements' written form. -/
theorem decodeElements_written {fuel : Nat}
    (hwith : ∀ data depth height q,
      decodeWith fuel data depth limit { room := none, height } = .ok q →
        data.length + 4 * (messageBytesWith fuel data).countP endsAtAddress = q.size ∧
        ((messageBytesWith fuel data).countP endsAtAddress = 0 →
          WordsAt data (q.floatSites 0) → q.encode = .ok data)) :
    ∀ {loop : Nat} {data : List UInt8} {off depth height : Nat} {acc qs : List Packet},
      decodeElements fuel loop data off depth limit { room := none, height } acc = .ok qs →
      off ≤ data.length → data.length ≤ off + 4 * loop →
      ∃ new, qs = acc.reverse ++ new ∧
        data.length - off + 4 * (elementMessageBytes fuel loop data off).countP endsAtAddress =
          elementsSize new ∧
        ((elementMessageBytes fuel loop data off).countP endsAtAddress = 0 →
          WordsAt data (elementFloatSites new off) → encodeElements new = .ok (data.drop off)) := by
  intro loop
  induction loop with
  | zero =>
    intro data off depth height acc qs h hoff hloop
    simp only [decodeElements, Except.ok.injEq] at h
    subst h
    have hend : off = data.length := by omega
    refine ⟨[], by simp, ?_, fun _ _ => ?_⟩
    · simp only [elementMessageBytes, List.countP_nil, elementsSize]
      omega
    · simp [encodeElements, hend]
  | succ loop ih =>
    intro data off depth height acc qs h hoff hloop
    rw [decodeElements] at h
    split at h
    · next hlt =>
      rw [elementMessageBytes_succ hlt]
      simp only [Calls.enter_none, except_ok_bind] at h
      obtain ⟨_, -, h⟩ := except_bind_eq_ok.1 h
      obtain ⟨w, hw, h⟩ := except_bind_eq_ok.1 h
      obtain ⟨hfit, rfl⟩ := unpackFrom_eq_ok.1 hw
      set size := Bytes.readWord32 ((data.drop off).take 4)
      split at h
      · simp at h
      obtain ⟨_, hreq, h⟩ := except_bind_eq_ok.1 h
      have hin := require_eq_ok.1 hreq
      split at h
      · cases h
      next p hp =>
      have hlen : ((data.drop (off + 4)).take size).length = size := by
        simp only [List.length_take, List.length_drop]
        omega
      obtain ⟨hsize, hencodeP⟩ := hwith _ _ _ _ hp
      rw [hlen] at hsize
      obtain ⟨new, rfl, hrest, hencodeRest⟩ := ih h (by omega) (by omega)
      refine ⟨p :: new, by simp, ?_, fun hbare hwords => ?_⟩
      · rw [List.countP_append, elementsSize]
        omega
      · rw [List.countP_append, Nat.add_eq_zero_iff] at hbare
        have hp_size : p.size = size := by omega
        rw [elementFloatSites, wordsAt_append] at hwords
        obtain ⟨hwordsP, hwordsRest⟩ := hwords
        -- the element's singles are its own, moved to where it begins
        rw [show off + 4 = off + 4 + 0 from rfl, Packet.floatSites_add p (off + 4) 0,
          wordsAt_map_shift] at hwordsP
        have hbody := hencodeP hbare.1 (wordsAt_take (fun s hs => by
          have := Packet.floatSites_le p 0 s hs
          omega) hwordsP)
        rw [hp_size] at hwordsRest
        have hword : Bytes.word32 size = (data.drop off).take 4 :=
          Bytes.word32_readWord32 (by simp; omega)
        refine encodeElements_cons_eq_ok.2 ⟨_, _, hbody, ?_, hencodeRest hbare.2 hwordsRest, ?_⟩
        · rw [hlen]
          exact Bytes.readWord32_lt _
        · rw [hlen, hword, List.append_assoc, ← drop_eq_take_append data (off + 4) size,
            ← drop_eq_take_append data off 4]
    · next hge =>
      simp only [Except.ok.injEq] at h
      subst h
      have hend : off = data.length := by omega
      refine ⟨[], by simp, ?_, fun _ _ => ?_⟩
      · simp only [elementMessageBytes, hge, if_false, List.countP_nil, elementsSize]
        omega
      · simp [encodeElements, hend]

/-- A packet read from `data` takes all of it: the bytes it takes to write, less four for
each message that ends at its address; and without such a message or a single read
from a word not its own, it is written as `data`. -/
theorem decodeWith_written : ∀ {fuel : Nat} {data : List UInt8} {depth height : Nat} {q : Packet},
    decodeWith fuel data depth limit { room := none, height } = .ok q →
      data.length + 4 * (messageBytesWith fuel data).countP endsAtAddress = q.size ∧
      ((messageBytesWith fuel data).countP endsAtAddress = 0 →
        WordsAt data (q.floatSites 0) → q.encode = .ok data) := by
  intro fuel
  induction fuel with
  | zero =>
    intro data depth height q h
    simp [decodeWith] at h
  | succ fuel ih =>
    intro data depth height q h
    rw [decodeWith] at h
    split at h
    · simp at h
    simp only [Calls.reach_unbounded, except_ok_bind, Calls.enter_none] at h
    split at h
    · next hbundle =>
      rw [messageBytesWith, if_pos hbundle]
      simp only [ite_self] at h
      split at h
      · cases h
      · simp at h
      obtain ⟨_, -, h⟩ := except_bind_eq_ok.1 h
      obtain ⟨w, hw, h⟩ := except_bind_eq_ok.1 h
      obtain ⟨elements, helements, h⟩ := except_bind_eq_ok.1 h
      simp only [except_pure, Except.ok.injEq] at h
      subst h
      obtain ⟨h16, rfl⟩ := unpackFrom_eq_ok.1 hw
      obtain ⟨new, hnew, hsize, hencode⟩ :=
        decodeElements_written (fun _ _ _ _ hq => ih hq) helements (by omega) (by omega)
      simp only [List.reverse_nil, List.nil_append] at hnew
      subst hnew
      refine ⟨?_, fun hbare hwords => ?_⟩
      · simp only [Packet.size]
        omega
      · rw [Packet.floatSites, Nat.zero_add] at hwords
        obtain ⟨rest, hrest⟩ := List.isPrefixOf_iff_prefix.1 hbundle
        have hmarker : data.take 8 = bundleTag := by
          rw [← hrest, List.take_left' (by rw [bundleTag_eq]; rfl)]
        have htime : ((data.drop 8).take 8).length = 8 := by
          simp only [List.length_take, List.length_drop]
          omega
        refine Packet.encode_bundle_eq_ok.2 ⟨_, hencode hbare hwords, ?_⟩
        rw [encodeTime_read htime, ← hmarker, List.append_assoc,
          ← drop_eq_take_append data 8 8, List.take_append_drop]
    · split at h
      · simp at h
      split at h
      · simp at h
      next hbundle _ _ =>
      rw [messageBytesWith, if_neg hbundle]
      obtain ⟨hsize, hencode⟩ := decodeMessage_written h
      simp only [List.countP_cons, List.countP_nil, Nat.zero_add]
      refine ⟨hsize, fun hbare => hencode ?_⟩
      simpa using hbare

end Packets

/-- The decoder accepts one written form per packet, but for two slack points: a
datagram that decodes is the encoding of the packet it gives exactly when no message in
it ends right after its address, leaving out its type tags, and each single in it was
read from its own word (a signalling NaN is read as the quiet NaN, whose word differs). -/
theorem decoded_reencodes_iff {data : List UInt8} {maxDepth : Int} {p : Packet}
    (h : decode data maxDepth = .ok p) :
    p.encode = .ok data ↔
      (∀ m ∈ messageBytes data, endsAtAddress m = false) ∧ WordsAt data (p.floatSites 0) := by
  obtain ⟨hsize, hencode⟩ := decodeWith_written h
  constructor
  · intro he
    -- written in full, the data is as long as the packet takes: no message is short
    have hlen := Packet.length_of_encode he
    have hnone : (messageBytes data).countP endsAtAddress = 0 := by
      unfold messageBytes
      omega
    refine ⟨fun m hm => ?_, Packet.wordsAt_of_encode he (by simp : data.drop 0 = data ++ [])⟩
    simpa using List.countP_eq_zero.1 hnone m hm
  · rintro ⟨hnone, hwords⟩
    exact hencode (List.countP_eq_zero.2 fun m hm => by simp [hnone m hm]) hwords

/-- A bundle nested in a bundle, holding a message with a text and a single: the datagram
its encoder writes decodes back to it, and is its only written form. -/
theorem decoded_reencodes_nested :
    decode [35, 98, 117, 110, 100, 108, 101, 0, 0, 0, 0, 0, 0, 0, 0, 1, 0, 0, 0, 36,
        35, 98, 117, 110, 100, 108, 101, 0, 0, 0, 0, 2, 0, 0, 0, 3, 0, 0, 0, 16,
        47, 97, 0, 0, 44, 115, 102, 0, 120, 0, 0, 0, 63, 128, 0, 0] 16 =
      .ok (.bundle ⟨0, 1⟩ [.bundle ⟨2, 3⟩ [.message "/a" [.str "x", .float ⟨0x3F800000⟩]]]) ∧
    ((Packet.bundle ⟨0, 1⟩ [.bundle ⟨2, 3⟩ [.message "/a" [.str "x", .float ⟨0x3F800000⟩]]]).encode =
        .ok [35, 98, 117, 110, 100, 108, 101, 0, 0, 0, 0, 0, 0, 0, 0, 1, 0, 0, 0, 36,
          35, 98, 117, 110, 100, 108, 101, 0, 0, 0, 0, 2, 0, 0, 0, 3, 0, 0, 0, 16,
          47, 97, 0, 0, 44, 115, 102, 0, 120, 0, 0, 0, 63, 128, 0, 0] ↔
      (∀ m ∈ messageBytes [35, 98, 117, 110, 100, 108, 101, 0, 0, 0, 0, 0, 0, 0, 0, 1, 0, 0, 0, 36,
          35, 98, 117, 110, 100, 108, 101, 0, 0, 0, 0, 2, 0, 0, 0, 3, 0, 0, 0, 16,
          47, 97, 0, 0, 44, 115, 102, 0, 120, 0, 0, 0, 63, 128, 0, 0], endsAtAddress m = false) ∧
        WordsAt [35, 98, 117, 110, 100, 108, 101, 0, 0, 0, 0, 0, 0, 0, 0, 1, 0, 0, 0, 36,
          35, 98, 117, 110, 100, 108, 101, 0, 0, 0, 0, 2, 0, 0, 0, 3, 0, 0, 0, 16,
          47, 97, 0, 0, 44, 115, 102, 0, 120, 0, 0, 0, 63, 128, 0, 0]
          ((Packet.bundle ⟨0, 1⟩ [.bundle ⟨2, 3⟩
            [.message "/a" [.str "x", .float ⟨0x3F800000⟩]]]).floatSites 0)) := by
  have hdecode : decode [35, 98, 117, 110, 100, 108, 101, 0, 0, 0, 0, 0, 0, 0, 0, 1, 0, 0, 0, 36,
        35, 98, 117, 110, 100, 108, 101, 0, 0, 0, 0, 2, 0, 0, 0, 3, 0, 0, 0, 16,
        47, 97, 0, 0, 44, 115, 102, 0, 120, 0, 0, 0, 63, 128, 0, 0] 16 =
      .ok (.bundle ⟨0, 1⟩ [.bundle ⟨2, 3⟩ [.message "/a" [.str "x", .float ⟨0x3F800000⟩]]]) := by
    have hencode : (Packet.bundle ⟨0, 1⟩ [.bundle ⟨2, 3⟩
        [.message "/a" [.str "x", .float ⟨0x3F800000⟩]]]).encode =
          .ok [35, 98, 117, 110, 100, 108, 101, 0, 0, 0, 0, 0, 0, 0, 0, 1, 0, 0, 0, 36,
            35, 98, 117, 110, 100, 108, 101, 0, 0, 0, 0, 2, 0, 0, 0, 3, 0, 0, 0, 16,
            47, 97, 0, 0, 44, 115, 102, 0, 120, 0, 0, 0, 63, 128, 0, 0] := by
      decide +kernel
    rw [decode_of_encode (by decide +kernel) (by decide +kernel) hencode 16]
    have hnone : ((Packet.bundle ⟨0, 1⟩ [.bundle ⟨2, 3⟩
        [.message "/a" [.str "x", .float ⟨0x3F800000⟩]]]).bundleSites 0 0).find?
          (fun b => (16 : Int) < b.level) = none := by
      decide +kernel
    simp only [depthChecked, hnone]
  exact ⟨hdecode, decoded_reencodes_iff hdecode⟩

end Osc

end VirtualMocap
