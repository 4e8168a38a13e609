import VirtualMocap.Proofs.Osc.ReadBack
import VirtualMocap.Osc.Value

/-!
# One value read back at any position

Whatever bytes stand around it, a writable argument (`Arg.Writable`) written by
`Arg.encode` reads back as itself at its position, stopping right after its padding
(`readValueAt_encode`). Writer and reader round lengths to a word in different ways,
which agree for every length (`pad4_text`, `pad4_blob`).
-/

namespace VirtualMocap

namespace Osc

/-! ## Rounding up to a word -/

/-- A text and its NUL end where the reader expects them. -/
theorem pad4_text (n : Nat) : pad4 ((n : Int) + 1) = ((n / 4 + 1) * 4 : Nat) := by
  simp only [pad4]
  omega

/-- A blob ends where the reader expects it. -/
theorem pad4_blob (n : Nat) : pad4 n = ((n + 3) / 4 * 4 : Nat) := by
  simp only [pad4]
  omega

/-! ## Positions inside the data

At a position that lies within the data, counted from its start, the reader's slices,
checks and unpacking take the bytes that follow the position. -/

section Positions

variable {data x post : List UInt8} {off : Nat} {what : Field}

theorem slicePoint_natCast {length i : Nat} (h : i ≤ length) : slicePoint length i = i := by
  simp [slicePoint, h]

theorem slice_natCast {i j : Nat} (hij : i ≤ j) (hj : j ≤ data.length) :
    slice data i j = (data.drop i).take (j - i) := by
  simp only [slice, slicePoint_natCast (hij.trans hj), slicePoint_natCast hj]

theorem requireAt_at (hx : data.drop off = x ++ post) (hoff : off ≤ data.length) {size : Nat}
    (h : size ≤ x.length) : requireAt data off size what = .ok () := by
  have hlen := length_of_drop hx hoff
  rw [requireAt, if_neg (by omega)]

theorem unpackAt_at (hx : data.drop off = x ++ post) (hoff : off ≤ data.length) {size : Nat}
    (h : x.length = size) : unpackAt data off size = .ok x := by
  have hlen := length_of_drop hx hoff
  simp only [unpackAt, Int.natCast_nonneg, not_lt.2, if_false, Int.toNat_natCast]
  rw [if_neg (by omega), hx, ← h, List.take_left]

theorem skipPaddingAt_at {k : Nat} (hx : data.drop off = Bytes.zeros k ++ post)
    (hoff : off ≤ data.length) :
    skipPaddingAt data off ((off + k : Nat) : Int) what = .ok ((off + k : Nat) : Int) := by
  have hlen := length_of_drop hx hoff
  simp only [Bytes.zeros, List.length_replicate] at hlen
  rw [skipPaddingAt, if_neg (by omega), slice_natCast (by omega) (by omega),
    Nat.add_sub_cancel_left, hx, Bytes.zeros, List.take_left' (List.length_replicate ..)]
  simp

theorem readValueAt_text {raw : List UInt8} {s : String} (h0 : 0 ∉ raw)
    (hs : Text.decodeUtf8 raw = .ok s)
    (hx : data.drop off = raw ++ (Bytes.zeros ((raw.length / 4 + 1) * 4 - raw.length) ++ post)) :
    readValueAt "s" data off = .ok (.str s, ((off + (raw.length / 4 + 1) * 4 : Nat) : Int)) := by
  -- the first padding byte is the terminating NUL; the others are checked as padding
  obtain ⟨m, hm⟩ : ∃ m, (raw.length / 4 + 1) * 4 - raw.length = m + 1 :=
    ⟨(raw.length / 4 + 1) * 4 - raw.length - 1, by omega⟩
  rw [hm, Bytes.zeros, List.replicate_succ, List.cons_append] at hx
  have hpad : data.drop (off + raw.length + 1) = Bytes.zeros m ++ post := by
    rw [Nat.add_assoc, ← List.drop_drop, hx, show raw.length + 1 = (raw ++ [0]).length by simp,
      show raw ++ 0 :: (List.replicate m 0 ++ post) = (raw ++ [0]) ++ (List.replicate m 0 ++ post)
        by simp, List.drop_left]
    rfl
  have hlen := congrArg List.length hx
  simp only [List.length_drop, List.length_append, List.length_cons] at hlen
  have hoff : off + raw.length + 1 ≤ data.length := by omega
  -- the reader's positions, computed on integers, are those of the written field
  have hnul : (off : Int) + raw.length + 1 = ((off + raw.length + 1 : Nat) : Int) := by omega
  have hstop : (off : Int) + (((off : Int) + raw.length - off) / 4 + 1) * 4 =
      ((off + raw.length + 1 + m : Nat) : Int) := by
    omega
  have hraw : slice data off ((off : Int) + raw.length) = raw := by
    rw [← Nat.cast_add, slice_natCast (by omega) (by omega), Nat.add_sub_cancel_left, hx,
      List.take_left]
  have hfind : (data.drop off).findIdx? (· == 0) = some raw.length := by
    rw [hx]
    exact findIdx_zero h0
  simp only [readValueAt, slicePoint_natCast (show off ≤ data.length by omega), hfind]
  rw [hnul, hstop, skipPaddingAt_at hpad hoff, except_ok_bind, hraw, hs]
  simp only [except_pure, Except.ok.injEq, Prod.mk.injEq, true_and]
  omega

end Positions

/-! ## Arguments -/

section Arguments

variable {data bytes post : List UInt8} {off : Nat}

theorem readValueAt_int (v : Int32)
    (hx : data.drop off = Bytes.word32 (Bytes.unsigned32 v.toInt) ++ post) :
    readValueAt "i" data off = .ok (.int v, off + 4) := by
  obtain ⟨h1, h2⟩ := Bytes.toInt_range_int32 v
  have hoff := le_length_of_drop hx (List.ne_nil_of_length_pos (by simp [Bytes.length_word32]))
  simp only [readValueAt]
  rw [requireAt_at hx hoff (by simp [Bytes.length_word32]), except_ok_bind,
    unpackAt_at hx hoff (Bytes.length_word32 _), except_ok_bind]
  simp [Bytes.readWord32_word32 (Bytes.unsigned32_lt h1 h2), Bytes.signed32_unsigned32 h1 h2]

theorem readValueAt_float (v : Binary32) (hv : v.quiet = v)
    (hx : data.drop off = Bytes.word32 v.bits.toNat ++ post) :
    readValueAt "f" data off = .ok (.float v, off + 4) := by
  have hoff := le_length_of_drop hx (List.ne_nil_of_length_pos (by simp [Bytes.length_word32]))
  simp only [readValueAt]
  rw [requireAt_at hx hoff (by simp [Bytes.length_word32]), except_ok_bind,
    unpackAt_at hx hoff (Bytes.length_word32 _), except_ok_bind]
  simp [Bytes.readWord32_word32 v.bits.toNat_lt, hv]

theorem readValueAt_str {s : String} (hs : Text.Held s) (hnul : '\x00' ∉ s.toList)
    (h : textField s = .ok bytes) (hx : data.drop off = bytes ++ post) :
    readValueAt "s" data off = .ok (.str s, off + bytes.length) := by
  obtain ⟨raw, hraw, rfl⟩ := textField_eq_ok.1 h
  rw [List.append_assoc] at hx
  rw [readValueAt_text (Text.zero_not_mem_of_encodeUtf8 hs hnul hraw)
    (Text.decodeUtf8_of_encodeUtf8 hs hraw) hx]
  simp only [List.length_append, Bytes.zeros, List.length_replicate]
  congr 2
  omega

theorem readValueAt_blob (b : List UInt8) (hb : b.length < twoPow 32)
    (hx : data.drop off =
      Bytes.word32 b.length ++ (b ++ (Bytes.zeros ((b.length + 3) / 4 * 4 - b.length) ++ post))) :
    readValueAt "b" data off = .ok (.blob b, ((off + 4 + (b.length + 3) / 4 * 4 : Nat) : Int)) := by
  have hoff := le_length_of_drop hx (List.ne_nil_of_length_pos (by simp [Bytes.length_word32]))
  have hdata := drop_add_of_drop hx
  rw [Bytes.length_word32] at hdata
  have hpad := drop_add_of_drop hdata
  have hoff' : off + 4 ≤ data.length := by
    have := length_of_drop hx hoff
    simp only [List.length_append, Bytes.length_word32] at this
    omega
  have hlen := length_of_drop hdata hoff'
  simp only [List.length_append, Bytes.zeros, List.length_replicate] at hlen
  have hstart : ((off : Int) + 4) = ((off + 4 : Nat) : Int) := by omega
  have hend : ((off + 4 : Nat) : Int) + ((b.length : Nat) : Int) = ((off + 4 + b.length : Nat) : Int) := by
    omega
  have hstop : ((off + 4 : Nat) : Int) + (((b.length + 3) / 4 * 4 : Nat) : Int) =
      ((off + 4 + b.length + ((b.length + 3) / 4 * 4 - b.length) : Nat) : Int) := by
    omega
  have hblob : slice data (off + 4 : Nat) (off + 4 + b.length : Nat) = b := by
    rw [slice_natCast (by omega) (by omega), Nat.add_sub_cancel_left, hdata, List.take_left]
  simp only [readValueAt]
  rw [requireAt_at hx hoff (by simp [Bytes.length_word32]), except_ok_bind,
    unpackAt_at hx hoff (Bytes.length_word32 _), except_ok_bind, Bytes.readWord32_word32 hb,
    hstart, requireAt_at hdata hoff' le_rfl, except_ok_bind, hend, hstop,
    skipPaddingAt_at hpad (by omega), except_ok_bind, hblob]
  simp only [except_pure, Except.ok.injEq, Prod.mk.injEq, true_and]
  omega

theorem readValueAt_time (t : TimeTag) (hx : data.drop off = encodeTime t ++ post) :
    readValueAt "t" data off = .ok (.time t, off + 8) := by
  have hoff := le_length_of_drop hx (List.ne_nil_of_length_pos (by simp [length_encodeTime]))
  simp only [readValueAt]
  rw [requireAt_at hx hoff (by simp [length_encodeTime]), except_ok_bind,
    unpackAt_at hx hoff (length_encodeTime t), except_ok_bind, readTime_encodeTime]
  rfl

/-- Every valid argument reads back from its bytes at any position of the data, and the
reading stops right after them. -/
theorem readValueAt_encode {a : Arg} (ha : a.Valid) (h : a.encode = .ok bytes)
    (hx : data.drop off = bytes ++ post) :
    readValueAt a.tag.toString data off = .ok (a, off + bytes.length) := by
  cases a with
  | int v =>
    cases h
    simpa [Arg.tag, Bytes.length_word32] using readValueAt_int v hx
  | float v =>
    cases h
    simpa [Arg.tag, Bytes.length_word32] using readValueAt_float v ha hx
  | str s => exact readValueAt_str ha.1 ha.2 h hx
  | blob b =>
    obtain ⟨w, hw, rfl⟩ := except_map_eq_ok.1 h
    obtain ⟨hb, rfl⟩ := lengthWord_eq_ok.1 hw
    have hpad : (pad4 b.length).toNat - b.length = (b.length + 3) / 4 * 4 - b.length := by
      rw [pad4_blob, Int.toNat_natCast]
    simp only [hpad, List.append_assoc] at hx
    rw [show (Arg.blob b).tag.toString = "b" from rfl, readValueAt_blob b hb hx]
    simp only [List.length_append, Bytes.length_word32, Bytes.zeros, List.length_replicate]
    congr 2
    omega
  | bool b =>
    cases h
    cases b <;> simp [readValueAt, Arg.tag]
  | time t =>
    cases h
    simpa [Arg.tag, length_encodeTime] using readValueAt_time t hx

end Arguments

/-! ## Arguments that can be written -/

/-- An argument the writer can write: a text without unpaired surrogates, and a blob
whose length fits its 32-bit length word. -/
def Arg.Writable : Arg → Prop
  | .str s => Text.hasSurrogate s = false
  | .blob b => b.length < twoPow 32
  | _ => True

instance Arg.decidableWritable : DecidablePred Arg.Writable
  | .str s => inferInstanceAs (Decidable (Text.hasSurrogate s = false))
  | .blob b => inferInstanceAs (Decidable (b.length < twoPow 32))
  | .int _ | .float _ | .bool _ | .time _ => isTrue trivial

theorem Arg.encode_ok_iff (a : Arg) : (∃ bytes, a.encode = .ok bytes) ↔ a.Writable := by
  cases a with
  | str s => exact textField_ok_iff
  | blob b =>
    constructor
    · rintro ⟨bytes, h⟩
      obtain ⟨w, hw, -⟩ := except_map_eq_ok.1 h
      exact (lengthWord_eq_ok.1 hw).1
    · intro hb
      exact ⟨_, except_map_eq_ok.2 ⟨_, lengthWord_eq_ok.2 ⟨hb, rfl⟩, rfl⟩⟩
  | int | float | bool | time => simp [Arg.encode, Arg.Writable]

/-- Every valid argument can be written unless it is a text holding an unpaired surrogate
or a blob of `2³²` bytes or more. Its bytes are a whole number of words, and whatever
bytes stand before and after them, read at the position where they begin they give the
argument itself, the reading stopping right after them. The writer's padding of texts
and blobs ends where the reader's does, for every length. -/
theorem value_roundtrip_in_context :
    (∀ n : Nat, pad4 ((n : Int) + 1) = ((n / 4 + 1) * 4 : Nat) ∧
      pad4 n = ((n + 3) / 4 * 4 : Nat)) ∧
    ∀ a : Arg, a.Valid → ((∃ bytes, a.encode = .ok bytes) ↔ a.Writable) ∧
      ∀ bytes, a.encode = .ok bytes → 4 ∣ bytes.length ∧
        ∀ pre post : List UInt8, readValueAt a.tag.toString (pre ++ bytes ++ post) pre.length =
          .ok (a, pre.length + bytes.length) := by
  refine ⟨fun n => ⟨pad4_text n, pad4_blob n⟩, fun a ha => ⟨a.encode_ok_iff, fun bytes h => ⟨?_, ?_⟩⟩⟩
  · rw [Arg.length_of_encode h]
    exact Arg.four_dvd_size a
  · intro pre post
    exact readValueAt_encode ha h (by simp : (pre ++ bytes ++ post).drop pre.length = bytes ++ post)

/-- An accented text, written as its two UTF-8 bytes and two NULs, reads back between
three bytes before it and one after. -/
theorem value_roundtrip_accent :
    (Arg.str "é").Valid ∧ (Arg.str "é").encode = .ok [0xC3, 0xA9, 0, 0] ∧
      readValueAt "s" [1, 2, 3, 0xC3, 0xA9, 0, 0, 0xFF] 3 = .ok (.str "é", 7) := by
  have hv : (Arg.str "é").Valid := by decide +kernel
  have he : (Arg.str "é").encode = .ok [0xC3, 0xA9, 0, 0] := by decide +kernel
  exact ⟨hv, he, by simpa [Arg.tag] using ((value_roundtrip_in_context.2 _ hv).2 _ he).2 [1, 2, 3] [0xFF]⟩

/-- A text holding an unpaired surrogate is a valid argument, free of NUL, that cannot be
written. -/
theorem surrogate_text_unwritable :
    (Arg.str (Text.ofCodePoints [.surrogate 0xD800])).Valid ∧
      (Arg.str (Text.ofCodePoints [.surrogate 0xD800])).encode = .error (.notUtf8 ⟨0, 1, 0xD800⟩) := by
  decide +kernel

end Osc

end VirtualMocap
