import VirtualMocap.Proofs.Json.Document

/-!
# Written documents as lines

A value whose texts hold no unpaired surrogate (`Json.Plain`) is written as one line that
UTF-8 can carry (`Json.oneLine_write`). Lines each ended by a line feed are cut back into
the same lines (`Text.lines_join`), and trimming leaves a written object as it is
(`Text.trimBlanks_braced`).
-/

namespace VirtualMocap

namespace Json

mutual

/-- A value whose texts and keys hold no unpaired surrogate. Byte strings, which no
recording holds, are left out. -/
def Plain : Json → Prop
  | .str s => Text.hasSurrogate s = false
  | .arr items => PlainItems items
  | .obj fields => PlainFields fields
  | .bytes _ => False
  | _ => True

def PlainItems : List Json → Prop
  | [] => True
  | v :: rest => Plain v ∧ PlainItems rest

def PlainFields : List (String × Json) → Prop
  | [] => True
  | (k, v) :: rest => Text.hasSurrogate k = false ∧ Plain v ∧ PlainFields rest

end

/-! ## Numbers and words on a line -/

theorem ascii_of_isDigit {c : Char} (h : c.isDigit = true) : 0x20 ≤ c.toNat ∧ c.toNat < 0x80 := by
  simp only [Char.isDigit, Bool.and_eq_true, decide_eq_true_eq, UInt32.le_iff_toNat_le] at h
  simp only [Char.toNat]
  have h0 : ('0' : Char).val.toNat = 48 := rfl
  have h9 : ('9' : Char).val.toNat = 57 := rfl
  omega

theorem oneLine_numeral {cs : List Char}
    (h : ∀ c ∈ cs, c.isDigit = true ∨ c = '-' ∨ c = '+' ∨ c = '.' ∨ c = 'e') : OneLine cs := by
  refine oneLine_ascii fun c hc => ?_
  rcases h c hc with hd | rfl | rfl | rfl | rfl
  · exact ascii_of_isDigit hd
  all_goals simp

theorem oneLine_numberChars (neg : Bool) {W F : List Char} {E : Option (Bool × List Char)}
    (hshape : NumberShape W F E) : OneLine (numberChars neg W F E) := by
  refine oneLine_numeral fun c hc => ?_
  rcases E with _ | ⟨s, D⟩
  · simp only [numberChars, List.mem_append] at hc
    rcases hc with ((hc | hc) | hc) | hc
    · cases neg <;> simp_all
    · exact .inl (hshape.whole_digits c hc)
    · split at hc
      · simp at hc
      · rcases List.mem_cons.1 hc with rfl | hc
        · simp
        · exact .inl (hshape.fraction_digits c hc)
    · simp at hc
  · have hD := (hshape.exponent_digits s D rfl).2
    simp only [numberChars, List.mem_append] at hc
    rcases hc with ((hc | hc) | hc) | hc
    · cases neg <;> simp_all
    · exact .inl (hshape.whole_digits c hc)
    · split at hc
      · simp at hc
      · rcases List.mem_cons.1 hc with rfl | hc
        · simp
        · exact .inl (hshape.fraction_digits c hc)
    · rcases List.mem_cons.1 hc with rfl | hc
      · simp
      · rcases List.mem_cons.1 hc with rfl | hc
        · cases s <;> simp
        · exact .inl (hD c hc)

theorem oneLine_writeFloat (x : Binary64) : OneLine (writeFloat Style.spaced x).toList := by
  unfold writeFloat
  split
  · next hfin =>
    rcases hx : x.unpack with ⟨neg, p⟩ | neg | ⟨neg, m, q⟩
    · simp [Binary64.isFinite, hx] at hfin
    · simp [Binary64.isFinite, hx] at hfin
    · obtain ⟨W, F, E, hchars, hshape, -⟩ := toText_shape hx
      rw [hchars]
      exact oneLine_numberChars neg hshape
  · -- the words of the non-finite numbers
    have hbare : (Style.spaced.nonFinite == NonFinite.quoted) = false := rfl
    simp only [hbare, Bool.false_and, Bool.false_eq_true, if_false]
    refine oneLine_ascii ?_
    split
    · simp
    · split <;> simp

theorem oneLine_toString_int (n : ℤ) : OneLine (toString n).toList := by
  rw [toList_toString_int]
  refine oneLine_numeral fun c hc => ?_
  rcases List.mem_append.1 hc with hc | hc
  · split at hc <;> simp_all
  · exact .inl (Decimal.mem_toDigits_isDigit hc)

/-! ## A written value is one line -/

theorem OneLine.cons {c : Char} {cs : List Char} (hc : 0x20 ≤ c.toNat ∧ c.toNat < 0x80)
    (h : OneLine cs) : OneLine (c :: cs) :=
  (@oneLine_ascii [c] (by simpa using hc)).append h

theorem OneLine.held {cs : List Char} (h : OneLine cs) : Text.Held (String.ofList cs) := by
  obtain ⟨xs, -, rfl⟩ := h
  rw [← List.flatMap_map]
  exact Text.held_ofScalars xs

theorem plain_of_ascii {s : String} (h : ∀ c ∈ s.toList, 0x20 ≤ c.toNat ∧ c.toNat < 0x80) :
    Text.Held s ∧ Text.hasSurrogate s = false := by
  have hline := oneLine_ascii h
  have hheld := hline.held
  have hplain := hline.hasSurrogate_eq_false
  rw [String.ofList_toList] at hheld hplain
  exact ⟨hheld, hplain⟩

theorem oneLine_writeString {s : String} (h : Text.hasSurrogate s = false) :
    OneLine (writeString Style.spaced s).toList := by
  rw [toList_writeString (show Style.spaced.escapeSurrogates = false from rfl)]
  exact .cons (by simp) ((oneLine_stringBody h).append (oneLine_ascii (by simp)))

theorem oneLine_fieldChars {k : String} {v : Json} (hk : Text.hasSurrogate k = false)
    (hv : OneLine (write Style.spaced v).toList) : OneLine (fieldChars (k, v)) := by
  rw [toList_fieldChars]
  exact .cons (by simp) ((oneLine_stringBody hk).append (.cons (by simp) (.cons (by simp) (.cons (by simp) hv))))

mutual

/-- A value whose texts hold no unpaired surrogate is written on one line of UTF-8. -/
theorem oneLine_write : ∀ {v : Json}, Plain v → OneLine (write Style.spaced v).toList
  | .null, _ => oneLine_ascii (by simp [write])
  | .bool b, _ => oneLine_ascii (by cases b <;> simp [write])
  | .int n, _ => oneLine_toString_int n
  | .float x, _ => oneLine_writeFloat x
  | .str s, h => oneLine_writeString h
  | .arr items, h => by
    rw [toList_write_arr]
    exact .cons (by simp) ((oneLine_itemsChars h).append (oneLine_ascii (by simp)))
  | .obj fields, h => by
    rw [toList_write_obj]
    exact .cons (by simp) ((oneLine_fieldsChars h).append (oneLine_ascii (by simp)))
  | .bytes _, h => h.elim

theorem oneLine_itemsChars : ∀ {items : List Json}, PlainItems items → OneLine (itemsChars items)
  | [], _ => OneLine.nil
  | [v], h => by
    rw [itemsChars_singleton]
    exact oneLine_write h.1
  | v :: w :: rest, h => by
    rw [itemsChars_cons_cons]
    exact (oneLine_write h.1).append (.cons (by simp) (.cons (by simp) (oneLine_itemsChars h.2)))

theorem oneLine_fieldsChars : ∀ {fields : List (String × Json)}, PlainFields fields →
    OneLine (fieldsChars fields)
  | [], _ => OneLine.nil
  | [(k, v)], h => by
    rw [fieldsChars_singleton]
    exact oneLine_fieldChars h.1 (oneLine_write h.2.1)
  | (k, v) :: kv' :: rest, h => by
    rw [fieldsChars_cons_cons]
    exact (oneLine_fieldChars h.1 (oneLine_write h.2.1)).append
      (.cons (by simp) (.cons (by simp) (oneLine_fieldsChars h.2.2)))

end

end Json

namespace Text

theorem linesFrom_append_lineFeed {cs : List Char} (h : ∀ c ∈ cs, c ≠ '\n' ∧ c ≠ '\r')
    (rest current : List Char) :
    linesFrom (cs ++ '\n' :: rest) current = String.ofList (current.reverse ++ cs) :: linesFrom rest [] := by
  induction cs generalizing current with
  | nil => simp [linesFrom]
  | cons c cs ih =>
    obtain ⟨hn, hr⟩ := h c (List.mem_cons_self ..)
    have hcs := ih (fun d hd => h d (List.mem_cons_of_mem _ hd)) (c :: current)
    have hstep : linesFrom (c :: (cs ++ '\n' :: rest)) current = linesFrom (cs ++ '\n' :: rest) (c :: current) := by
      simp [linesFrom, hr]
    rw [List.cons_append, hstep, hcs]
    simp

/-- Lines without line ends, each ended by a line feed, are cut back into the same lines and
one empty line after the last line feed. -/
theorem lines_join {ls : List String} (h : ∀ l ∈ ls, ∀ c ∈ l.toList, c ≠ '\n' ∧ c ≠ '\r') :
    lines (String.join (ls.map (· ++ "\n"))) = ls ++ [""] := by
  unfold lines
  induction ls with
  | nil => simp [linesFrom]
  | cons l ls ih =>
    have hl := linesFrom_append_lineFeed (h l (List.mem_cons_self ..))
    have hnl : "\n".toList = ['\n'] := rfl
    simp only [List.map_cons, String.join_cons, String.toList_append, hnl, List.append_assoc,
      List.singleton_append] at ih ⊢
    rw [hl, ih fun l' hl' => h l' (List.mem_cons_of_mem _ hl')]
    simp

theorem isBlank_brace : isBlank '{' = false ∧ isBlank '}' = false := by
  simp [isBlank, isWhiteSpace]

/-- A text that starts with an opening brace and ends with a closing one has no blank to trim. -/
theorem trimBlanks_braced (mid : List Char) : trimBlanks ('{' :: mid ++ ['}']) = '{' :: mid ++ ['}'] := by
  simp [trimBlanks, trimBy, isBlank_brace.1, isBlank_brace.2, List.reverse_append]

end Text

end VirtualMocap
