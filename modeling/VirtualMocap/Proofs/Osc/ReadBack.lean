import VirtualMocap.Proofs.Osc.Layout
import VirtualMocap.Osc.Decode

/-!
# Reading written fields back

Each reader of the decoder, given the bytes the encoder writes for a field, reads the
field back and stops right after it, whatever bytes stand before and after: a padded text
(`readPaddedString_textField`), an argument (`readArg_encode`), a message
(`decodeMessage_encode`).
-/

namespace VirtualMocap

@[simp] theorem except_pure {ε α : Type} (a : α) : (pure a : Except ε α) = .ok a := rfl

namespace Bytes

theorem twoPow_eq (k : Nat) : twoPow k = 2 ^ k := rfl

theorem readWord32_word32_append {n : Nat} (h : n < twoPow 32) (rest : List UInt8) :
    readWord32 (word32 n ++ rest) = n := by
  simp only [word32, readWord32, List.cons_append, List.nil_append, twoPow_eq, Nat.reducePow]
  simp only [twoPow_eq, Nat.reducePow] at h
  simp [Nat.toUInt8]
  omega

theorem readWord32_word32 {n : Nat} (h : n < twoPow 32) : readWord32 (word32 n) = n := by
  simpa using readWord32_word32_append h []

theorem signed32_unsigned32 {i : Int} (h1 : -(twoPow 31 : Int) ≤ i) (h2 : i < twoPow 31) :
    signed32 (unsigned32 i) = i := by
  simp only [signed32, unsigned32, twoPow_eq, Nat.reducePow] at *
  split <;> split <;> omega

theorem toInt_range_int32 (v : Int32) : -(twoPow 31 : Int) ≤ v.toInt ∧ v.toInt < twoPow 31 := by
  have h1 := Int32.le_toInt v
  have h2 := Int32.toInt_lt v
  simp only [twoPow_eq, Nat.reducePow]
  omega

theorem unsigned32_lt {i : Int} (h1 : -(twoPow 31 : Int) ≤ i) (h2 : i < twoPow 31) :
    unsigned32 i < twoPow 32 := by
  simp only [unsigned32, twoPow_eq, Nat.reducePow] at *
  split <;> omega

end Bytes

namespace Osc

/-! ## Steps without a bound on calls -/

section Unbounded

variable (height : Nat)

@[simp] theorem Calls.enter_none :
    ({ room := none, height } : Calls).enter = .ok { room := none, height := height + 1 } := rfl

@[simp] theorem Calls.fail_none {α : Type} (message : List (Nat × CallStep)) (e : DecodeError) :
    (({ room := none, height } : Calls).fail message e : Except DecodeError α) = .error e := by
  rw [Calls.fail, Calls.reach_unbounded]
  rfl

attribute [simp] Calls.reach_unbounded

end Unbounded

/-! ## Fields at a position -/

section Fields

variable {height : Nat} {data x post : List UInt8} {off size : Nat} {what : Field}

theorem drop_add_of_drop (hx : data.drop off = x ++ post) :
    data.drop (off + x.length) = post := by
  rw [← List.drop_drop, hx, List.drop_left]

theorem le_length_of_drop (hx : data.drop off = x ++ post) (hne : x ≠ []) :
    off ≤ data.length := by
  by_contra h
  rw [List.drop_of_length_le (by omega), eq_comm, List.append_eq_nil_iff] at hx
  exact hne hx.1

theorem require_of_le (h : off + size ≤ data.length) :
    require { room := none, height } data off size what = .ok () := by
  simp [require, Nat.not_lt.2 h]

theorem length_of_drop (hx : data.drop off = x ++ post) (hoff : off ≤ data.length) :
    data.length = off + x.length + post.length := by
  have hlen := congrArg List.length hx
  simp only [List.length_drop, List.length_append] at hlen
  omega

theorem require_at (hx : data.drop off = x ++ post) (hoff : off ≤ data.length)
    (h : size ≤ x.length) : require { room := none, height } data off size what = .ok () := by
  have := length_of_drop hx hoff
  exact require_of_le (by omega)

theorem unpackFrom_at (hx : data.drop off = x ++ post) (hoff : off ≤ data.length)
    (h : x.length = size) : unpackFrom data off size = .ok x := by
  have := length_of_drop hx hoff
  rw [unpackFrom, if_pos (by omega), hx, ← h, List.take_left]

theorem skipPadding_none :
    skipPadding { room := none, height } data off size what =
      if data.length < size then .error ⟨.paddingPastEnd what, off⟩
      else if ((data.drop off).take (size - off)).any (· != 0) then
        .error ⟨.nonzeroPadding what, off⟩
      else .ok size := by
  simp [skipPadding]

theorem skipPadding_at {k : Nat} (hx : data.drop off = Bytes.zeros k ++ post)
    (hoff : off ≤ data.length) :
    skipPadding { room := none, height } data off (off + k) what = .ok (off + k) := by
  have hlen := length_of_drop hx hoff
  simp only [Bytes.zeros, List.length_replicate] at hlen
  rw [skipPadding_none, if_neg (by omega), Nat.add_sub_cancel_left, hx, Bytes.zeros,
    List.take_left' (List.length_replicate ..)]
  simp

theorem findIdx_zero {raw rest : List UInt8} (h0 : 0 ∉ raw) :
    (raw ++ (0 :: rest)).findIdx? (· == 0) = some raw.length := by
  have hnone : raw.findIdx? (· == 0) = none := by
    rw [List.findIdx?_eq_none_iff]
    intro b hb
    simpa using ne_of_mem_of_not_mem hb h0
  simp [List.findIdx?_append, hnone, List.findIdx?_cons]

theorem readPaddedString_at {raw : List UInt8} {s : String} (h0 : 0 ∉ raw)
    (hs : Text.decodeUtf8 raw = .ok s)
    (hx : data.drop off = raw ++ (Bytes.zeros ((raw.length / 4 + 1) * 4 - raw.length) ++ post)) :
    readPaddedString { room := none, height } data off what =
      .ok (s, off + (raw.length / 4 + 1) * 4) := by
  -- the first padding byte is the terminating NUL; the others are checked as padding
  obtain ⟨m, hm⟩ : ∃ m, (raw.length / 4 + 1) * 4 - raw.length = m + 1 :=
    ⟨(raw.length / 4 + 1) * 4 - raw.length - 1, by omega⟩
  rw [hm, Bytes.zeros, List.replicate_succ, List.cons_append] at hx
  have hpad : data.drop (off + raw.length + 1) = Bytes.zeros m ++ post := by
    rw [Nat.add_assoc, ← List.drop_drop, hx, show raw.length + 1 = (raw ++ [0]).length by simp,
      show raw ++ 0 :: (List.replicate m 0 ++ post) = (raw ++ [0]) ++ (List.replicate m 0 ++ post)
        by simp, List.drop_left]
    rfl
  have hoff : off + raw.length + 1 ≤ data.length := by
    have hlen := congrArg List.length hx
    simp only [List.length_drop, List.length_append, List.length_cons] at hlen
    omega
  have hstop : off + (raw.length / 4 + 1) * 4 = off + raw.length + 1 + m := by omega
  simp only [readPaddedString, Calls.reach_unbounded, except_ok_bind, hx, findIdx_zero h0,
    Calls.enter_none, hstop, skipPadding_at hpad hoff, List.take_left, hs, except_pure]

theorem readPaddedString_textField {s : String} {bytes : List UInt8} (hs : Text.Held s)
    (hnul : '\x00' ∉ s.toList) (h : textField s = .ok bytes) (hx : data.drop off = bytes ++ post) :
    readPaddedString { room := none, height } data off what = .ok (s, off + bytes.length) := by
  obtain ⟨raw, hraw, rfl⟩ := textField_eq_ok.1 h
  rw [List.append_assoc] at hx
  rw [readPaddedString_at (Text.zero_not_mem_of_encodeUtf8 hs hnul hraw)
    (Text.decodeUtf8_of_encodeUtf8 hs hraw) hx]
  simp only [List.length_append, Bytes.zeros, List.length_replicate]
  congr 2
  omega

end Fields

/-! ## Type tags

The type tags of a message are plain ASCII: held as themselves, written one byte each,
and released unchanged.
-/

section Tags

theorem ofScalars_plain {cs : List Char} (h : ∀ c ∈ cs, Text.needsEscape c = false) :
    Text.ofCodePoints (cs.map .scalar) = String.ofList cs := by
  unfold Text.ofCodePoints
  congr 1
  induction cs with
  | nil => rfl
  | cons c cs ih =>
    rw [List.map_cons, List.flatMap_cons, ih fun d hd => h d (List.mem_cons_of_mem _ hd),
      Text.CodePoint.held, if_neg (by simp [h c (List.mem_cons_self ..)])]
    rfl

theorem release_ofScalars (cs : List Char) :
    Text.release (Text.ofCodePoints (cs.map .scalar)) = String.ofList cs := by
  rw [Text.release, Text.codePoints_ofCodePoints (cs.map .scalar) (by simp), List.map_map]
  exact congrArg String.ofList (List.map_id' cs)

theorem Arg.tag_plain (a : Arg) : Text.needsEscape a.tag = false ∧ a.tag ≠ '\x00' := by
  cases a with
  | bool b => cases b <;> decide
  | int | float | str | blob | time =>
    simp only [Arg.tag]
    decide

def tagChars (args : List Arg) : List Char := ',' :: args.map Arg.tag

theorem tagString_eq (args : List Arg) :
    "," ++ tagsOf args = Text.ofCodePoints ((tagChars args).map .scalar) := by
  rw [ofScalars_plain]
  · simp [tagsOf, tagChars]
  · intro c hc
    simp only [tagChars, List.mem_cons, List.mem_map] at hc
    rcases hc with rfl | ⟨a, -, rfl⟩
    · decide
    · exact (Arg.tag_plain a).1

theorem nul_not_mem_tagString (args : List Arg) : '\x00' ∉ ("," ++ tagsOf args).toList := by
  rw [tagString_eq, Text.nul_mem_ofScalars]
  simp only [tagChars, List.mem_cons, List.mem_map, not_or, not_exists, not_and]
  exact ⟨by decide, fun a _ h => (Arg.tag_plain a).2 h⟩

theorem head_of_textField_tagString {args : List Arg} {t : List UInt8}
    (h : textField ("," ++ tagsOf args) = .ok t) (rest : List UInt8) :
    (t ++ rest).head? = some 0x2C := by
  obtain ⟨raw, hraw, rfl⟩ := textField_eq_ok.1 h
  have hcp : Text.codePoints ("," ++ tagsOf args) = (tagChars args).map .scalar := by
    rw [tagString_eq, Text.codePoints_ofCodePoints _ (by simp)]
  rw [eq_utf8_of_encodeUtf8 hraw, Text.utf8_of_scalars hcp]
  rfl

end Tags

/-! ## Arguments -/

section Arguments

variable {height : Nat} {data bytes post : List UInt8} {off : Nat}

theorem readArg_int (v : Int32) (hx : data.drop off = Bytes.word32 (Bytes.unsigned32 v.toInt) ++ post) :
    readArg { room := none, height } 'i' data off = some (.ok (.int v, off + 4)) := by
  obtain ⟨h1, h2⟩ := Bytes.toInt_range_int32 v
  have hoff := le_length_of_drop hx (List.ne_nil_of_length_pos (by simp [Bytes.length_word32]))
  simp only [readArg, Char.reduceBEq, if_true, Calls.enter_none, except_ok_bind,
    Option.some.injEq]
  rw [require_at hx hoff (by simp [Bytes.length_word32]), except_ok_bind,
    unpackFrom_at hx hoff (Bytes.length_word32 _)]
  simp [Bytes.readWord32_word32 (Bytes.unsigned32_lt h1 h2), Bytes.signed32_unsigned32 h1 h2]

theorem readArg_float (v : Binary32) (hv : v.quiet = v)
    (hx : data.drop off = Bytes.word32 v.bits.toNat ++ post) :
    readArg { room := none, height } 'f' data off = some (.ok (.float v, off + 4)) := by
  have hoff := le_length_of_drop hx (List.ne_nil_of_length_pos (by simp [Bytes.length_word32]))
  simp only [readArg, Char.reduceBEq, Bool.false_eq_true, if_false, if_true, Calls.enter_none,
    except_ok_bind, Option.some.injEq]
  rw [require_at hx hoff (by simp [Bytes.length_word32]), except_ok_bind,
    unpackFrom_at hx hoff (Bytes.length_word32 _)]
  simp [Bytes.readWord32_word32 v.bits.toNat_lt, hv]

theorem readArg_str {s : String} (hs : Text.Held s) (hnul : '\x00' ∉ s.toList)
    (h : textField s = .ok bytes) (hx : data.drop off = bytes ++ post) :
    readArg { room := none, height } 's' data off = some (.ok (.str s, off + bytes.length)) := by
  simp only [readArg, Char.reduceBEq, Bool.false_eq_true, if_false, if_true, Calls.enter_none,
    except_ok_bind, Option.some.injEq]
  rw [readPaddedString_textField hs hnul h hx]
  simp

theorem readArg_blob (b : List UInt8) (hb : b.length < twoPow 32)
    (hx : data.drop off =
      Bytes.word32 b.length ++ (b ++ (Bytes.zeros ((b.length + 3) / 4 * 4 - b.length) ++ post))) :
    readArg { room := none, height } 'b' data off =
      some (.ok (.blob b, off + 4 + (b.length + 3) / 4 * 4)) := by
  have hoff := le_length_of_drop hx (List.ne_nil_of_length_pos (by simp [Bytes.length_word32]))
  have hdata := drop_add_of_drop hx
  rw [Bytes.length_word32] at hdata
  have hpad := drop_add_of_drop hdata
  have hoff' : off + 4 ≤ data.length := by
    have := length_of_drop hx hoff
    simp only [List.length_append, Bytes.length_word32] at this
    omega
  have hstop : off + 4 + (b.length + 3) / 4 * 4 =
      off + 4 + b.length + ((b.length + 3) / 4 * 4 - b.length) := by omega
  simp only [readArg, Char.reduceBEq, Bool.false_eq_true, if_false, if_true, Calls.enter_none,
    except_ok_bind, Option.some.injEq]
  rw [require_at hx hoff (by simp [Bytes.length_word32]), except_ok_bind,
    unpackFrom_at hx hoff (Bytes.length_word32 _), except_ok_bind, Bytes.readWord32_word32 hb,
    require_at hdata hoff' le_rfl, except_ok_bind, hstop,
    skipPadding_at hpad (by have := length_of_drop hdata hoff'; simp at this ⊢; omega)]
  simp [hdata]

theorem length_encodeTime (t : TimeTag) : (encodeTime t).length = 8 := rfl

theorem readTime_encodeTime (t : TimeTag) :
    (⟨(Bytes.readWord32 (encodeTime t)).toUInt32,
      (Bytes.readWord32 ((encodeTime t).drop 4)).toUInt32⟩ : TimeTag) = t := by
  rw [encodeTime, Bytes.readWord32_word32_append t.seconds.toNat_lt,
    List.drop_left' (Bytes.length_word32 _), Bytes.readWord32_word32 t.fraction.toNat_lt]
  simp

theorem readArg_time (t : TimeTag) (hx : data.drop off = encodeTime t ++ post) :
    readArg { room := none, height } 't' data off = some (.ok (.time t, off + 8)) := by
  have hoff := le_length_of_drop hx (List.ne_nil_of_length_pos (by simp [length_encodeTime]))
  simp only [readArg, Char.reduceBEq, Bool.false_eq_true, if_false, if_true, Calls.enter_none,
    except_ok_bind, Option.some.injEq]
  rw [require_at hx hoff (by simp [length_encodeTime]), except_ok_bind,
    unpackFrom_at hx hoff (length_encodeTime t), except_ok_bind, readTime_encodeTime]
  simp

theorem readArg_bool (b : Bool) :
    readArg { room := none, height } (Arg.bool b).tag data off = some (.ok (.bool b, off)) := by
  cases b <;> simp [readArg, Arg.tag]

/-- Every valid argument reads back from its bytes, and the reading stops right after
them. -/
theorem readArg_encode {a : Arg} (ha : a.Valid) (h : a.encode = .ok bytes)
    (hx : data.drop off = bytes ++ post) :
    readArg { room := none, height } a.tag data off = some (.ok (a, off + bytes.length)) := by
  cases a with
  | int v =>
    cases h
    simpa [Arg.tag, Bytes.length_word32] using readArg_int v hx
  | float v =>
    cases h
    simpa [Arg.tag, Bytes.length_word32] using readArg_float v ha hx
  | str s => exact readArg_str ha.1 ha.2 h hx
  | blob b =>
    obtain ⟨w, hw, rfl⟩ := except_map_eq_ok.1 h
    obtain ⟨hb, rfl⟩ := lengthWord_eq_ok.1 hw
    have hpad : (pad4 b.length).toNat - b.length = (b.length + 3) / 4 * 4 - b.length := by
      simp only [pad4]
      omega
    simp only [hpad, List.append_assoc] at hx
    rw [Arg.tag, readArg_blob b hb hx]
    simp only [List.length_append, Bytes.length_word32, Bytes.zeros, List.length_replicate]
    congr 3
    omega
  | bool b =>
    cases h
    simpa using readArg_bool b
  | time t =>
    cases h
    simpa [Arg.tag, length_encodeTime] using readArg_time t hx

/-- The arguments of a message read back from their bytes, one per type tag. -/
theorem readArgs_encode {args : List Arg} (hargs : ∀ a ∈ args, a.Valid)
    (h : encodeArgs args = .ok bytes) (hx : data.drop off = bytes ++ post) (tagAt : Nat)
    (acc : List Arg) :
    readArgs { room := none, height } data (args.map Arg.tag) tagAt off acc =
      .ok (acc.reverse ++ args, off + bytes.length) := by
  induction args generalizing bytes off tagAt acc with
  | nil =>
    cases h
    simp [readArgs]
  | cons a args ih =>
    obtain ⟨head, tail, ha, htail, rfl⟩ := encodeArgs_cons_eq_ok.1 h
    rw [List.append_assoc] at hx
    have hnext := drop_add_of_drop hx
    rw [List.map_cons, readArgs, readArg_encode (hargs a (List.mem_cons_self ..)) ha hx]
    simp only
    rw [ih (fun b hb => hargs b (List.mem_cons_of_mem _ hb)) htail hnext]
    simp [Nat.add_assoc]

end Arguments

/-! ## Messages -/

theorem head_of_textField_slash {address : String} {a : List UInt8}
    (hslash : address.startsWith "/" = true) (h : textField address = .ok a) (rest : List UInt8) :
    (a ++ rest).head? = some 0x2F := by
  obtain ⟨raw, hraw, rfl⟩ := textField_eq_ok.1 h
  obtain ⟨cs, hcs⟩ : ∃ cs, address.toList = '/' :: cs := by
    obtain ⟨cs, hcs⟩ := String.startsWith_string_iff.1 hslash
    exact ⟨cs, by simpa using hcs.symm⟩
  have hcp : Text.codePoints address = .scalar '/' :: Text.codePointsOf cs := by
    rw [Text.codePoints, hcs, Text.codePointsOf.eq_def]
    simp only
    rw [if_neg (by decide), if_neg (by decide)]
  rw [eq_utf8_of_encodeUtf8 hraw, Text.utf8, hcp, List.flatMap_cons]
  rfl

/-- A valid message whose address holds no NUL reads back from its bytes. -/
theorem decodeMessage_encode {height : Nat} {address : String} {args : List Arg}
    {bytes : List UInt8} (hp : (Packet.message address args).Valid)
    (hnul : '\x00' ∉ address.toList) (h : (Packet.message address args).encode = .ok bytes) :
    decodeMessage { room := none, height } bytes = .ok (.message address args) := by
  obtain ⟨hs, hargs⟩ := Packet.valid_message.1 hp
  obtain ⟨hslash, a, t, body, ha, ht, hbody, rfl⟩ := Packet.encode_message_eq_ok.1 h
  have hheld : Text.Held ("," ++ tagsOf args) := by
    rw [tagString_eq]
    exact Text.held_ofScalars _
  have haddress : readPaddedString { room := none, height := height + 1 } (a ++ t ++ body) 0
      .address = .ok (address, a.length) := by
    simpa using readPaddedString_textField hs hnul ha
      (by simp : (a ++ t ++ body).drop 0 = a ++ (t ++ body))
  have htags : readPaddedString { room := none, height := height + 1 } (a ++ t ++ body) a.length
      .typeTags = .ok ("," ++ tagsOf args, a.length + t.length) :=
    readPaddedString_textField hheld (nul_not_mem_tagString args) ht
      (by simp : (a ++ t ++ body).drop a.length = t ++ body)
  have hrelease : (Text.release ("," ++ tagsOf args)).toList.drop 1 = args.map Arg.tag := by
    rw [tagString_eq, release_ofScalars, String.toList_ofList]
    rfl
  have hargs' : readArgs { room := none, height } (a ++ t ++ body) (args.map Arg.tag)
      (a.length + 1) (a.length + t.length) [] = .ok (args, a.length + t.length + body.length) := by
    simpa using readArgs_encode hargs hbody
      (by simp : (a ++ t ++ body).drop (a.length + t.length) = body ++ []) (a.length + 1) []
  have hcomma : ((a ++ t ++ body).drop a.length).head? = some 0x2C := by
    simpa using head_of_textField_tagString ht body
  have hlen : a.length ≠ (a ++ t ++ body).length := by
    have := length_of_textField ht
    simp only [List.length_append, textSize] at this ⊢
    omega
  simp only [decodeMessage, Calls.enter_none, except_ok_bind, haddress, hslash, hlen, hcomma,
    htags, hrelease, hargs']
  simp [Nat.add_assoc]

end Osc

end VirtualMocap
