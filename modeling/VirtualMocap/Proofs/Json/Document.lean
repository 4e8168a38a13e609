import VirtualMocap.Proofs.Json.Float
import VirtualMocap.Proofs.Json.Strings
import VirtualMocap.Proofs.Config.Merge

/-!
# JSON documents written and read back

A value written in the spaced style reads back as itself, every NaN made the one NaN a
document names (`Json.readWithin_write`), when it is faithful (`Json.Faithful`) and nests
within the reader's bound. The reader runs on the written text followed by anything that
ends a number (`Json.NumberEnd`), by induction on its fuel (`Json.reads_all`).
-/

namespace VirtualMocap

namespace Json

open Text

/-! ## The values that text gives back -/

/-- A float as its text reads back: every NaN is the NaN that `NaN` names. -/
def canonFloat (x : Binary64) : Binary64 := if x.isNaN then Binary64.nan else x

mutual

def canon : Json → Json
  | .float x => .float (canonFloat x)
  | .arr items => .arr (canonItems items)
  | .obj fields => .obj (canonFields fields)
  | v => v

def canonItems : List Json → List Json
  | [] => []
  | v :: rest => canon v :: canonItems rest

def canonFields : List (String × Json) → List (String × Json)
  | [] => []
  | (k, v) :: rest => (k, canon v) :: canonFields rest

end

mutual

/-- How deep arrays and objects nest in a value. -/
def nesting : Json → ℕ
  | .arr items => itemsNesting items + 1
  | .obj fields => fieldsNesting fields + 1
  | _ => 0

def itemsNesting : List Json → ℕ
  | [] => 0
  | v :: rest => max (nesting v) (itemsNesting rest)

def fieldsNesting : List (String × Json) → ℕ
  | [] => 0
  | (_, v) :: rest => max (nesting v) (fieldsNesting rest)

end

mutual

/-- A value that its text gives back: no raw bytes, held texts, integers of at most
`Decimal.maxIntDigits` digits, objects without a repeated key. -/
def Faithful : Json → Prop
  | .int n => (Nat.toDigits 10 n.natAbs).length ≤ Decimal.maxIntDigits
  | .str s => Held s
  | .arr items => FaithfulItems items
  | .obj fields => (fields.map (·.1)).Nodup ∧ FaithfulFields fields
  | .bytes _ => False
  | _ => True

def FaithfulItems : List Json → Prop
  | [] => True
  | v :: rest => Faithful v ∧ FaithfulItems rest

/-- Fields that their text gives back: held keys and faithful values. -/
def FaithfulFields : List (String × Json) → Prop
  | [] => True
  | (k, v) :: rest => Held k ∧ Faithful v ∧ FaithfulFields rest

end

/-! ## The written text -/

theorem writeItems_eq (st : Style) : ∀ items : List Json, writeItems st items = items.map (write st)
  | [] => rfl
  | v :: rest => by rw [writeItems, writeItems_eq st rest, List.map_cons]

theorem writeFields_eq (st : Style) : ∀ fields : List (String × Json),
    writeFields st fields = fields.map fun kv => writeString st kv.1 ++ st.keySeparator ++ write st kv.2
  | [] => rfl
  | (k, v) :: rest => by rw [writeFields, writeFields_eq st rest, List.map_cons]

/-- The characters of the items of an array, written apart by a comma and a blank. -/
def itemsChars (items : List Json) : List Char :=
  [',', ' '].intercalate (items.map fun v => (write Style.spaced v).toList)

/-- The characters of a field: its key as a string, a colon and a blank, its value. -/
def fieldChars (kv : String × Json) : List Char :=
  (writeString Style.spaced kv.1 ++ ": " ++ write Style.spaced kv.2).toList

/-- The characters of the fields of an object, written apart by a comma and a blank. -/
def fieldsChars (fields : List (String × Json)) : List Char :=
  [',', ' '].intercalate (fields.map fieldChars)

theorem toList_write_arr (items : List Json) :
    (write Style.spaced (.arr items)).toList = '[' :: itemsChars items ++ [']'] := by
  simp [write, writeItems_eq, itemsChars, Style.spaced, String.toList_intercalate, List.map_map,
    Function.comp_def]

theorem toList_write_obj (fields : List (String × Json)) :
    (write Style.spaced (.obj fields)).toList = '{' :: fieldsChars fields ++ ['}'] := by
  simp [write, writeFields_eq, fieldsChars, Style.spaced, String.toList_intercalate, List.map_map,
    Function.comp_def]
  apply congrArg
  apply List.map_congr_left
  intro kv _
  simp [fieldChars, Style.spaced]

theorem itemsChars_singleton (v : Json) : itemsChars [v] = (write Style.spaced v).toList := by
  simp [itemsChars]

theorem itemsChars_cons_cons (v w : Json) (items : List Json) :
    itemsChars (v :: w :: items) = (write Style.spaced v).toList ++ ',' :: ' ' :: itemsChars (w :: items) := by
  simp [itemsChars, List.intercalate_cons_cons]

theorem fieldsChars_singleton (kv : String × Json) : fieldsChars [kv] = fieldChars kv := by
  simp [fieldsChars]

theorem fieldsChars_cons_cons (kv kv' : String × Json) (fields : List (String × Json)) :
    fieldsChars (kv :: kv' :: fields) = fieldChars kv ++ ',' :: ' ' :: fieldsChars (kv' :: fields) := by
  simp [fieldsChars, List.intercalate_cons_cons]

theorem toList_fieldChars (k : String) (v : Json) :
    fieldChars (k, v) = '"' :: stringBody k ++ '"' :: ':' :: ' ' :: (write Style.spaced v).toList := by
  simp [fieldChars, toList_writeString (show Style.spaced.escapeSurrogates = false from rfl)]

theorem toList_toString_int (n : ℤ) :
    (toString n).toList = (if n < 0 then ['-'] else []) ++ Nat.toDigits 10 n.natAbs := by
  rcases n with n | n
  · simp [Int.repr]
  · simp [Int.repr]

/-! ## Where a value starts -/

theorem skipSpace_of_head {ch : Char} (h : isSpace ch = false) (t : List Char) (pos : ℕ) :
    Cursor.skipSpace ⟨ch :: t, pos⟩ = ⟨ch :: t, pos⟩ := by
  simp [Cursor.skipSpace, h]

theorem skipSpace_blank {ch : Char} (h : isSpace ch = false) (t : List Char) (pos : ℕ) :
    Cursor.skipSpace ⟨' ' :: ch :: t, pos⟩ = ⟨ch :: t, pos + 1⟩ := by
  have hblank : isSpace ' ' = true := rfl
  simp only [Cursor.skipSpace, List.takeWhile_cons, hblank, h, if_true, Bool.false_eq_true,
    if_false, List.length_singleton, List.drop_one, List.tail_cons]

def OpensValue (cs : List Char) : Prop :=
  ∃ ch t, cs = ch :: t ∧ isSpace ch = false ∧ ch ≠ ']' ∧ ch ≠ '﻿'

theorem OpensValue.append {cs : List Char} (h : OpensValue cs) (ds : List Char) :
    OpensValue (cs ++ ds) := by
  obtain ⟨ch, t, rfl, h⟩ := h
  exact ⟨ch, t ++ ds, rfl, h⟩

theorem opensValue_cons {ch : Char} (h : isSpace ch = false ∧ ch ≠ ']' ∧ ch ≠ '﻿')
    (t : List Char) : OpensValue (ch :: t) := ⟨ch, t, rfl, h⟩

theorem opensValue_signed (neg : Bool) {W : List Char} (hne : W ≠ [])
    (hdig : ∀ ch ∈ W, ch.isDigit = true) (t : List Char) :
    OpensValue ((if neg then ['-'] else []) ++ (W ++ t)) := by
  obtain ⟨d, W', rfl⟩ := List.exists_cons_of_ne_nil hne
  have hd := hdig d (List.mem_cons_self ..)
  simp only [Char.isDigit, Bool.and_eq_true, decide_eq_true_eq] at hd
  have hne : d ≠ ' ' ∧ d ≠ '\t' ∧ d ≠ '\n' ∧ d ≠ '\r' ∧ d ≠ ']' ∧ d ≠ '﻿' := by
    refine ⟨?_, ?_, ?_, ?_, ?_, ?_⟩ <;> rintro rfl <;> simp at hd
  obtain ⟨h1, h2, h3, h4, h5, h6⟩ := hne
  cases neg
  · exact opensValue_cons ⟨by simp [isSpace, h1, h2, h3, h4], h5, h6⟩ _
  · exact opensValue_cons (by decide) _

theorem skipSpace_opensValue {cs : List Char} (h : OpensValue cs) (pos : ℕ) :
    Cursor.skipSpace ⟨cs, pos⟩ = ⟨cs, pos⟩ := by
  obtain ⟨ch, t, rfl, hs, -⟩ := h
  exact skipSpace_of_head hs t pos

theorem opensValue_write (v : Json) : OpensValue (write Style.spaced v).toList := by
  have hst : Style.spaced.escapeSurrogates = false := rfl
  cases v with
  | null => exact ⟨'n', _, by simp [write]; rfl, by decide⟩
  | bool b => cases b
              · exact ⟨'f', _, by simp [write]; rfl, by decide⟩
              · exact ⟨'t', _, by simp [write]; rfl, by decide⟩
  | int n =>
    have h := opensValue_signed (decide (n < 0)) (Nat.toDigits_ne_nil (n := n.natAbs))
      (fun _ h => Decimal.mem_toDigits_isDigit h) []
    simp only [List.append_nil, decide_eq_true_eq] at h
    rwa [write, toList_toString_int]
  | float x =>
    rcases hx : x.unpack with ⟨neg, p⟩ | neg | ⟨neg, m, q⟩
    · have hnan : x.isNaN = true := by simp [Binary64.isNaN, hx]
      have hfin : x.isFinite = false := by simp [Binary64.isFinite, hx]
      exact ⟨'N', _, by simp [write, writeFloat, hnan, hfin, Style.spaced]; rfl, by decide⟩
    · have hnan : x.isNaN = false := by simp [Binary64.isNaN, hx]
      have hfin : x.isFinite = false := by simp [Binary64.isFinite, hx]
      cases hneg : x.isNegative
      · exact ⟨'I', _, by simp [write, writeFloat, hnan, hfin, hneg, Style.spaced]; rfl, by decide⟩
      · exact ⟨'-', _, by simp [write, writeFloat, hnan, hfin, hneg, Style.spaced]; rfl, by decide⟩
    · have hfin : x.isFinite = true := by simp [Binary64.isFinite, hx]
      obtain ⟨W, F, E, hchars, hshape, -⟩ := toText_shape hx
      have h := opensValue_signed neg hshape.whole_ne hshape.whole_digits (tailChars F E [])
      rw [← numberChars_append, List.append_nil, ← hchars] at h
      simpa [write, writeFloat, hfin] using h
  | str s => exact ⟨'"', _, by rw [write, toList_writeString hst]; rfl, by decide⟩
  | arr items => exact ⟨'[', _, toList_write_arr items, by decide⟩
  | obj fields => exact ⟨'{', _, toList_write_obj fields, by decide⟩
  | bytes data => exact ⟨'"', _, by rw [write, toList_writeString hst]; rfl, by decide⟩

theorem opensValue_itemsChars (v : Json) (vs : List Json) (ds : List Char) :
    OpensValue (itemsChars (v :: vs) ++ ds) := by
  cases vs with
  | nil => exact (itemsChars_singleton v ▸ opensValue_write v).append ds
  | cons w ws =>
    rw [itemsChars_cons_cons, List.append_assoc]
    exact (opensValue_write v).append _

theorem exists_fieldsChars_cons (kv : String × Json) (fields : List (String × Json)) :
    ∃ t, fieldsChars (kv :: fields) = '"' :: t := by
  cases fields with
  | nil => exact ⟨_, by rw [fieldsChars_singleton, toList_fieldChars]; rfl⟩
  | cons kv' fields => exact ⟨_, by rw [fieldsChars_cons_cons, toList_fieldChars]; rfl⟩

theorem fieldChars_append (k : String) (v : Json) (ds : List Char) :
    fieldChars (k, v) ++ ds =
      '"' :: (stringBody k ++ '"' :: ':' :: ' ' :: ((write Style.spaced v).toList ++ ds)) := by
  simp [toList_fieldChars]

theorem numberEnd_cons {ch : Char} (h : ch.isDigit = false ∧ ch ≠ '.' ∧ ch ≠ 'e' ∧ ch ≠ 'E')
    (t : List Char) : NumberEnd (ch :: t) := by
  simpa [NumberEnd] using h

/-! ## Each kind of scalar read back -/

theorem readValue_signed {neg : Bool} {W : List Char} (hne : W ≠ [])
    (hdig : ∀ ch ∈ W, ch.isDigit = true) (f room : ℕ) (t : List Char) (pos : ℕ) :
    readValue (f + 1) room ⟨(if neg then ['-'] else []) ++ (W ++ t), pos⟩ =
      readNumber ⟨(if neg then ['-'] else []) ++ (W ++ t), pos⟩ := by
  obtain ⟨d, W', rfl⟩ := List.exists_cons_of_ne_nil hne
  have hd : d.isDigit = true := hdig d (List.mem_cons_self ..)
  -- a digit starts no string, array, object or word
  have hne : '"' ≠ d ∧ '{' ≠ d ∧ '[' ≠ d ∧ 'n' ≠ d ∧ 't' ≠ d ∧ 'f' ≠ d ∧ 'N' ≠ d ∧ 'I' ≠ d ∧
      '-' ≠ d := by
    simp only [Char.isDigit, Bool.and_eq_true, decide_eq_true_eq] at hd
    refine ⟨?_, ?_, ?_, ?_, ?_, ?_, ?_, ?_, ?_⟩ <;> rintro rfl <;> simp at hd
  obtain ⟨h1, h2, h3, h4, h5, h6, h7, h8, h9⟩ := hne
  cases neg <;>
    simp [readValue, Cursor.startsWith, List.isPrefixOf_cons_cons, h1.symm, h2.symm, h3.symm,
      h4, h5, h6, h7, h8, h9]

theorem readValue_toText {x : Binary64} (hx : x.isFinite = true) {rest : List Char}
    (hrest : NumberEnd rest) (f room pos : ℕ) :
    readValue (f + 1) room ⟨x.toText.toList ++ rest, pos⟩ =
      .ok (.float x, ⟨rest, pos + x.toText.length⟩) := by
  obtain ⟨neg, m, q, h⟩ := Binary64.exists_unpack_of_isFinite hx
  obtain ⟨W, F, E, hchars, hshape, -⟩ := toText_shape h
  rw [← readNumber_toText hx hrest pos, hchars, numberChars_append,
    readValue_signed hshape.whole_ne hshape.whole_digits]

theorem readValue_int {n : ℤ} (hn : (Nat.toDigits 10 n.natAbs).length ≤ Decimal.maxIntDigits)
    {rest : List Char} (hrest : NumberEnd rest) (f room pos : ℕ) :
    readValue (f + 1) room ⟨(toString n).toList ++ rest, pos⟩ =
      .ok (.int n, ⟨rest, pos + (toString n).length⟩) := by
  have hdig : ∀ ch ∈ Nat.toDigits 10 n.natAbs, ch.isDigit = true :=
    fun _ h => Decimal.mem_toDigits_isDigit h
  have hlead : Nat.toDigits 10 n.natAbs = ['0'] ∨ (Nat.toDigits 10 n.natAbs).head? ≠ some '0' := by
    rcases Nat.eq_zero_or_pos n.natAbs with h | h
    · exact .inl (by rw [h]; rfl)
    · exact .inr (Decimal.toDigits_head h)
  have hread := @readNumber_intChars (decide (n < 0)) _ Nat.toDigits_ne_nil hdig hlead hn rest hrest pos
  have hsigned := @readValue_signed (decide (n < 0)) _ Nat.toDigits_ne_nil hdig f room rest pos
  simp only [decide_eq_true_eq, List.append_assoc] at hread hsigned
  rw [toList_toString_int, List.append_assoc, hsigned, hread, ← String.length_toList,
    toList_toString_int]
  by_cases hneg : n < 0
  · simp only [hneg, if_true, digitsValue_toDigits, Int.natCast_natAbs, abs_of_neg hneg, neg_neg,
      List.length_append, List.length_singleton]
  · simp [hneg, digitsValue_toDigits]
    omega

theorem readValue_writeFloat (x : Binary64) {rest : List Char} (hrest : NumberEnd rest)
    (f room pos : ℕ) :
    readValue (f + 1) room ⟨(writeFloat Style.spaced x).toList ++ rest, pos⟩ =
      .ok (.float (canonFloat x), ⟨rest, pos + (writeFloat Style.spaced x).length⟩) := by
  rcases hx : x.unpack with ⟨neg, p⟩ | neg | ⟨neg, m, q⟩
  · -- a NaN of any sign and payload is written `NaN`
    have hnan : x.isNaN = true := by simp [Binary64.isNaN, hx]
    have hfin : x.isFinite = false := by simp [Binary64.isFinite, hx]
    have hlen : "NaN".length = 3 := rfl
    simp [writeFloat, hnan, hfin, Style.spaced, canonFloat, readValue, Cursor.startsWith,
      List.isPrefixOf_cons_cons, Cursor.advance, hlen]
  · -- an infinity is written as the word of its sign
    have hnan : x.isNaN = false := by simp [Binary64.isNaN, hx]
    have hfin : x.isFinite = false := by simp [Binary64.isFinite, hx]
    have hneg : x.isNegative = neg := by cases neg <;> simp [Binary64.isNegative, hx]
    rw [Binary64.eq_infinity_of_unpack hx] at hnan hfin hneg ⊢
    have hlen : "Infinity".length = 8 ∧ "-Infinity".length = 9 := ⟨rfl, rfl⟩
    cases neg <;>
    simp [writeFloat, hnan, hfin, hneg, Style.spaced, canonFloat, readValue, Cursor.startsWith,
      List.isPrefixOf_cons_cons, Cursor.advance, hlen]
  · have hfin : x.isFinite = true := by simp [Binary64.isFinite, hx]
    have hnan : x.isNaN = false := by simp [Binary64.isNaN, hx]
    simp only [writeFloat, hfin, if_true, canonFloat, hnan, Bool.false_eq_true, if_false]
    exact readValue_toText hfin hrest f room pos

theorem readValue_writeString {s : String} (hs : Held s) (rest : List Char) (f room pos : ℕ) :
    readValue (f + 1) room ⟨(writeString Style.spaced s).toList ++ rest, pos⟩ =
      .ok (.str s, ⟨rest, pos + (writeString Style.spaced s).length⟩) := by
  have hst : Style.spaced.escapeSurrogates = false := rfl
  rw [toList_writeString hst, length_writeString hst]
  simp only [List.cons_append, List.append_assoc, List.nil_append, readValue,
    beq_self_eq_true, if_true]
  rw [readString_stringBody pos hs rest (pos + 1)]
  simp only [Except.map]
  congr 3
  omega

/-! ## One step of reading an array or an object -/

section Steps

variable {fuel room pos p : ℕ} {first : Bool} {cs ds rest : List Char} {v : Json}

theorem readValue_openArray (hroom : room ≠ 0)
    (hsp : Cursor.skipSpace ⟨cs, pos + 1⟩ = ⟨cs, pos + 1⟩) :
    readValue (fuel + 1) room ⟨'[' :: cs, pos⟩ = readArray fuel (room - 1) ⟨cs, pos + 1⟩ true [] := by
  simp [readValue, hroom, Cursor.advance, hsp]

theorem readValue_openObject (hroom : room ≠ 0)
    (hsp : Cursor.skipSpace ⟨cs, pos + 1⟩ = ⟨cs, pos + 1⟩) :
    readValue (fuel + 1) room ⟨'{' :: cs, pos⟩ =
      readObject fuel (room - 1) ⟨cs, pos + 1⟩ true [] := by
  simp [readValue, hroom, Cursor.advance, hsp]

theorem readArray_empty {acc : List Json} :
    readArray (fuel + 1) room ⟨']' :: rest, pos⟩ true acc = .ok (.arr [], ⟨rest, pos + 1⟩) := by
  simp [readArray, Cursor.advance]

theorem readObject_empty {acc : List (String × Json)} :
    readObject (fuel + 1) room ⟨'}' :: rest, pos⟩ true acc = .ok (.obj [], ⟨rest, pos + 1⟩) := by
  simp [readObject, Cursor.advance]

theorem readArray_last {acc : List Json} (hcs : OpensValue cs)
    (hv : readValue fuel room ⟨cs, pos⟩ = .ok (v, ⟨']' :: rest, p⟩)) :
    readArray (fuel + 1) room ⟨cs, pos⟩ first acc = .ok (.arr (v :: acc).reverse, ⟨rest, p + 1⟩) := by
  obtain ⟨ch, t, rfl, -, hcl, -⟩ := hcs
  rw [readArray]
  split
  · next h => exact absurd (List.cons.inj h).1 hcl
  · rw [hv]
    simp [skipSpace_of_head (show isSpace ']' = false from rfl), Cursor.advance]

/-- An item followed by a comma and a blank goes on to the next item. -/
theorem readArray_next {acc : List Json} (hcs : OpensValue cs) (hds : OpensValue ds)
    (hv : readValue fuel room ⟨cs, pos⟩ = .ok (v, ⟨',' :: ' ' :: ds, p⟩)) :
    readArray (fuel + 1) room ⟨cs, pos⟩ first acc = readArray fuel room ⟨ds, p + 2⟩ false (v :: acc) := by
  obtain ⟨ch, t, rfl, -, hcl, -⟩ := hcs
  obtain ⟨ch', t', rfl, hsp', -⟩ := hds
  rw [readArray]
  split
  · next h => exact absurd (List.cons.inj h).1 hcl
  · rw [hv]
    simp [skipSpace_of_head (show isSpace ',' = false from rfl), Cursor.advance, skipSpace_blank hsp']

theorem readObject_last {k : String} {acc : List (String × Json)} (hk : Held k)
    (hcs : OpensValue cs)
    (hv : readValue fuel room ⟨cs, pos + (stringBody k).length + 4⟩ = .ok (v, ⟨'}' :: rest, p⟩)) :
    readObject (fuel + 1) room ⟨'"' :: (stringBody k ++ '"' :: ':' :: ' ' :: cs), pos⟩ first acc =
      .ok (.obj (setField acc k v), ⟨rest, p + 1⟩) := by
  obtain ⟨ch, t, rfl, hsp, -⟩ := hcs
  rw [readObject]
  simp only [readString_stringBody pos hk]
  simp only [skipSpace_of_head (show isSpace ':' = false from rfl), Cursor.advance, List.drop_one,
    List.tail_cons, skipSpace_blank hsp]
  rw [show pos + 1 + (stringBody k).length + 1 + 1 + 1 = pos + (stringBody k).length + 4 by omega, hv]
  simp [skipSpace_of_head (show isSpace '}' = false from rfl)]

/-- A field whose value is followed by a comma and a blank goes on to the next field. -/
theorem readObject_next {k : String} {acc : List (String × Json)} (hk : Held k)
    (hcs : OpensValue cs) (hds : OpensValue ds)
    (hv : readValue fuel room ⟨cs, pos + (stringBody k).length + 4⟩ =
      .ok (v, ⟨',' :: ' ' :: ds, p⟩)) :
    readObject (fuel + 1) room ⟨'"' :: (stringBody k ++ '"' :: ':' :: ' ' :: cs), pos⟩ first acc =
      readObject fuel room ⟨ds, p + 2⟩ false (setField acc k v) := by
  obtain ⟨ch, t, rfl, hsp, -⟩ := hcs
  obtain ⟨ch', t', rfl, hsp', -⟩ := hds
  rw [readObject]
  simp only [readString_stringBody pos hk]
  simp only [skipSpace_of_head (show isSpace ':' = false from rfl), Cursor.advance, List.drop_one,
    List.tail_cons, skipSpace_blank hsp]
  rw [show pos + 1 + (stringBody k).length + 1 + 1 + 1 = pos + (stringBody k).length + 4 by omega, hv]
  simp [skipSpace_of_head (show isSpace ',' = false from rfl), skipSpace_blank hsp']

end Steps

/-! ## Reading back, by induction on the fuel -/

def ReadsValues (fuel : ℕ) : Prop :=
  ∀ (v : Json) (room : ℕ) (rest : List Char) (pos : ℕ), Faithful v → nesting v ≤ room →
    (write Style.spaced v).length < fuel → NumberEnd rest →
    readValue fuel room ⟨(write Style.spaced v).toList ++ rest, pos⟩ =
      .ok (canon v, ⟨rest, pos + (write Style.spaced v).length⟩)

def ReadsItems (fuel : ℕ) : Prop :=
  ∀ (items : List Json) (room : ℕ) (rest : List Char) (pos : ℕ) (first : Bool) (acc : List Json),
    items ≠ [] → FaithfulItems items → itemsNesting items ≤ room →
    (itemsChars items).length + 1 < fuel →
    readArray fuel room ⟨itemsChars items ++ ']' :: rest, pos⟩ first acc =
      .ok (.arr (acc.reverse ++ canonItems items), ⟨rest, pos + (itemsChars items).length + 1⟩)

/-- At this fuel, the fields of an object after its opening brace are read up to its
closing brace, after the fields `acc` read before them. -/
def ReadsFields (fuel : ℕ) : Prop :=
  ∀ (fields : List (String × Json)) (room : ℕ) (rest : List Char) (pos : ℕ) (first : Bool)
    (acc : List (String × Json)),
    fields ≠ [] → FaithfulFields fields → (acc.map (·.1) ++ fields.map (·.1)).Nodup →
    fieldsNesting fields ≤ room → (fieldsChars fields).length + 1 < fuel →
    readObject fuel room ⟨fieldsChars fields ++ '}' :: rest, pos⟩ first acc =
      .ok (.obj (acc ++ canonFields fields), ⟨rest, pos + (fieldsChars fields).length + 1⟩)

section Fuel

variable {fuel : ℕ}

theorem ReadsItems.succ (hv : ReadsValues fuel) (ha : ReadsItems fuel) : ReadsItems (fuel + 1) := by
  intro items room rest pos first acc hne hf hn hfuel
  obtain ⟨v, vs, rfl⟩ := List.exists_cons_of_ne_nil hne
  obtain ⟨hfv, hfvs⟩ := hf
  have hnv : nesting v ≤ room := le_trans (le_max_left _ _) hn
  have hnvs : itemsNesting vs ≤ room := le_trans (le_max_right _ _) hn
  cases vs with
  | nil =>
    rw [itemsChars_singleton] at hfuel ⊢
    rw [String.length_toList] at hfuel ⊢
    have hread := hv v room (']' :: rest) pos hfv hnv (by omega) (numberEnd_cons (by decide) _)
    rw [readArray_last ((opensValue_write v).append _) hread]
    simp [canonItems]
  | cons w ws =>
    rw [itemsChars_cons_cons] at hfuel ⊢
    have hread := hv v room (',' :: ' ' :: (itemsChars (w :: ws) ++ ']' :: rest)) pos hfv hnv
      (by simp only [List.length_append, List.length_cons, String.length_toList] at hfuel; omega)
      (numberEnd_cons (by decide) _)
    rw [List.append_assoc, List.cons_append, List.cons_append,
      readArray_next ((opensValue_write v).append _) (opensValue_itemsChars w ws _) hread,
      ha (w :: ws) room rest _ false _ (List.cons_ne_nil w ws) hfvs hnvs
        (by simp only [List.length_append, List.length_cons, String.length_toList] at hfuel; omega)]
    simp only [canonItems, List.reverse_cons, List.append_assoc, List.singleton_append,
      List.length_append, List.length_cons, String.length_toList]
    congr 3
    omega

theorem ReadsFields.succ (hv : ReadsValues fuel) (ho : ReadsFields fuel) :
    ReadsFields (fuel + 1) := by
  intro fields room rest pos first acc hne hf hnodup hn hfuel
  obtain ⟨⟨k, v⟩, fs, rfl⟩ := List.exists_cons_of_ne_nil hne
  obtain ⟨hk, hfv, hffs⟩ := hf
  have hnv : nesting v ≤ room := le_trans (le_max_left _ _) hn
  have hnfs : fieldsNesting fs ≤ room := le_trans (le_max_right _ _) hn
  have hkacc : k ∉ acc.map (·.1) := by
    intro hmem
    exact (List.nodup_append.1 hnodup).2.2 _ hmem _ (List.mem_cons_self ..) rfl
  have hlen : (fieldChars (k, v)).length = (stringBody k).length + 4 + (write Style.spaced v).length := by
    rw [toList_fieldChars]
    simp only [List.length_cons, List.length_append, String.length_toList]
    omega
  cases fs with
  | nil =>
    rw [fieldsChars_singleton] at hfuel ⊢
    have hread := hv v room ('}' :: rest) (pos + (stringBody k).length + 4) hfv hnv (by omega)
      (numberEnd_cons (by decide) _)
    rw [fieldChars_append, readObject_last hk ((opensValue_write v).append _) hread,
      setField_of_not_mem hkacc, hlen]
    simp only [canonFields, Except.ok.injEq, Prod.mk.injEq, Cursor.mk.injEq, true_and]
    omega
  | cons kv' fs' =>
    obtain ⟨t, ht⟩ := exists_fieldsChars_cons kv' fs'
    rw [fieldsChars_cons_cons] at hfuel ⊢
    have hread := hv v room (',' :: ' ' :: (fieldsChars (kv' :: fs') ++ '}' :: rest))
      (pos + (stringBody k).length + 4) hfv hnv
      (by simp only [List.length_append, List.length_cons] at hfuel; omega)
      (numberEnd_cons (by decide) _)
    have hnodup' : ((acc ++ [(k, canon v)]).map (·.1) ++ (kv' :: fs').map (·.1)).Nodup := by
      simpa using hnodup
    rw [List.append_assoc, fieldChars_append, List.cons_append, List.cons_append,
      readObject_next hk ((opensValue_write v).append _)
        (by rw [ht]; exact opensValue_cons (by decide) _) hread,
      setField_of_not_mem hkacc, ho (kv' :: fs') room rest _ false _ (List.cons_ne_nil _ _) hffs
        hnodup' hnfs (by simp only [List.length_append, List.length_cons] at hfuel; omega)]
    simp only [canonFields, List.append_assoc, List.singleton_append, List.length_append,
      List.length_cons, hlen, Except.ok.injEq, Prod.mk.injEq, Cursor.mk.injEq, true_and]
    omega

theorem ReadsValues.succ (ha : ReadsItems fuel) (ho : ReadsFields fuel) :
    ReadsValues (fuel + 1) := by
  intro v room rest pos hf hn hfuel hrest
  cases v with
  | null =>
    have hlen : "null".length = 4 := rfl
    simp [write, readValue, Cursor.startsWith, Cursor.advance, canon, hlen]
  | bool b =>
    have hlen : "true".length = 4 ∧ "false".length = 5 := ⟨rfl, rfl⟩
    cases b <;>
      simp [write, readValue, Cursor.startsWith, List.isPrefixOf_cons_cons, Cursor.advance, canon, hlen]
  | int n => exact readValue_int hf hrest fuel room pos
  | float x => exact readValue_writeFloat x hrest fuel room pos
  | str s => exact readValue_writeString hf rest fuel room pos
  | bytes data => exact hf.elim
  | arr items =>
    have hroom : room ≠ 0 := by simp only [nesting] at hn; omega
    rw [← String.length_toList, toList_write_arr] at hfuel ⊢
    rcases items with _ | ⟨w, ws⟩
    · -- an empty array is its two brackets
      obtain ⟨f, rfl⟩ : ∃ f, fuel = f + 1 := ⟨fuel - 1, by simp [itemsChars] at hfuel; omega⟩
      simp only [itemsChars, List.map_nil, List.intercalate_nil, List.nil_append, List.cons_append]
      rw [readValue_openArray hroom (skipSpace_of_head rfl _ _), readArray_empty]
      simp [canon, canonItems]
    · simp only [List.cons_append, List.append_assoc, List.nil_append]
      rw [readValue_openArray hroom (skipSpace_opensValue (opensValue_itemsChars w ws _) _),
        ha (w :: ws) (room - 1) rest (pos + 1) true [] (List.cons_ne_nil w ws) hf
          (by simp only [nesting] at hn; omega)
          (by simp only [List.length_cons, List.length_append] at hfuel; omega)]
      simp only [canon, List.reverse_nil, List.nil_append, List.length_cons, List.length_append,
        List.length_nil]
      congr 3
      omega
  | obj fields =>
    have hroom : room ≠ 0 := by simp only [nesting] at hn; omega
    rw [← String.length_toList, toList_write_obj] at hfuel ⊢
    rcases fields with _ | ⟨kv, fs⟩
    · -- an empty object is its two braces
      obtain ⟨f, rfl⟩ : ∃ f, fuel = f + 1 := ⟨fuel - 1, by simp [fieldsChars] at hfuel; omega⟩
      simp only [fieldsChars, List.map_nil, List.intercalate_nil, List.nil_append, List.cons_append]
      rw [readValue_openObject hroom (skipSpace_of_head rfl _ _), readObject_empty]
      simp [canon, canonFields]
    · obtain ⟨t, ht⟩ := exists_fieldsChars_cons kv fs
      obtain ⟨hnodup, hff⟩ := hf
      simp only [List.cons_append, List.append_assoc, List.nil_append]
      rw [readValue_openObject hroom (by rw [ht]; exact skipSpace_of_head rfl _ _),
        ho (kv :: fs) (room - 1) rest (pos + 1) true [] (List.cons_ne_nil kv fs) hff
          (by simpa using hnodup) (by simp only [nesting] at hn; omega)
          (by simp only [List.length_cons, List.length_append] at hfuel; omega)]
      simp only [canon, List.nil_append, List.length_cons, List.length_append, List.length_nil]
      congr 3
      omega

end Fuel

/-- At every fuel the reader reads back values, items and fields. -/
theorem reads_all (fuel : ℕ) : ReadsValues fuel ∧ ReadsItems fuel ∧ ReadsFields fuel := by
  induction fuel with
  | zero =>
    refine ⟨fun _ _ _ _ _ _ h _ => absurd h (Nat.not_lt_zero _),
      fun _ _ _ _ _ _ _ _ _ h => absurd h (Nat.not_lt_zero _),
      fun _ _ _ _ _ _ _ _ _ _ h => absurd h (Nat.not_lt_zero _)⟩
  | succ fuel ih =>
    obtain ⟨hv, ha, ho⟩ := ih
    exact ⟨ReadsValues.succ ha ho, ReadsItems.succ hv ha, ReadsFields.succ hv ho⟩

/-- A value written in the spaced style reads back as itself, its NaNs made the one NaN of
the text, as long as its text gives it back and it nests no deeper than the reader
allows. -/
theorem readWithin_write {v : Json} (hv : Faithful v) {room : ℕ} (hroom : nesting v ≤ room) :
    readWithin room (write Style.spaced v) = .ok (canon v) := by
  obtain ⟨ch, t, hcht, hsp, -, hbom⟩ := opensValue_write v
  have hread := (reads_all ((write Style.spaced v).toList.length + 1)).1 v room [] 0 hv hroom
    (by rw [String.length_toList]; omega) (fun _ h => by simp at h)
  rw [List.append_nil] at hread
  unfold readWithin
  rw [hcht] at hread ⊢
  simp only [skipSpace_of_head hsp, hread]
  split
  · next h => exact absurd (List.cons.inj h).1 hbom
  · simp [Cursor.skipSpace]

end Json

end VirtualMocap
