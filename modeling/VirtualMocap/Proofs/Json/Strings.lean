import VirtualMocap.Json.Read
import VirtualMocap.Json.Write
import VirtualMocap.Proofs.Text.Utf8

/-!
# JSON strings written and read back

A held text written as a JSON string reads back as itself (`Json.readString_stringBody`):
the reader turns every escape the writer makes back into its code point. A text without
unpaired surrogates is written on one line (`Json.OneLine`).
-/

namespace VirtualMocap

namespace Text

theorem isSurrogate_of_mem_codePointsOf {u : ℕ} :
    ∀ {cs : List Char}, CodePoint.surrogate u ∈ codePointsOf cs → isSurrogate u = true := by
  intro cs h
  fun_induction codePointsOf cs with
  | case1 => simp at h
  | case2 c d more hc ih =>
    simp only [List.mem_cons, reduceCtorEq, false_or] at h
    exact ih h
  | case3 c hc => simp at h
  | case4 c rest hc hs ih =>
    simp only [List.mem_cons, CodePoint.surrogate.injEq] at h
    rcases h with h | h
    · simp only [isStandIn, Bool.and_eq_true, decide_eq_true_eq] at hs
      simp only [h, isSurrogate, standInOffset, Bool.and_eq_true, decide_eq_true_eq]
      omega
    · exact ih h
  | case5 c rest hc hs ih =>
    simp only [List.mem_cons, reduceCtorEq, false_or] at h
    exact ih h

end Text

namespace Json

open Text

/-! ## Reading a string, step by step -/

section Steps

variable (b : ℕ) (rest : List Char) (pos : ℕ) (acc : List Char)

theorem readString_quote :
    readString b ('"' :: rest) pos acc = .ok (String.ofList acc.reverse, ⟨rest, pos + 1⟩) := by
  rw [readString.eq_def]
  simp

theorem readString_plain {c : Char} (hq : c ≠ '"') (hb : c ≠ '\\') (hc : 0x20 ≤ c.toNat) :
    readString b (c :: rest) pos acc = readString b rest (pos + 1) (c :: acc) := by
  rw [readString.eq_def]
  simp [hq, hb, show ¬c.toNat < 32 by omega]

theorem readString_letter {e ch : Char} (he : e ≠ 'u') (hs : simpleEscape e = some ch) :
    readString b ('\\' :: e :: rest) pos acc = readString b rest (pos + 2) (ch :: acc) := by
  rw [readString.eq_def]
  simp [he, hs]

theorem readString_unicode {held : List Char} {n : ℕ}
    (h : unicodeEscape rest (pos + 2) = .ok (held, n)) :
    readString b ('\\' :: 'u' :: rest) pos acc =
      readString b (rest.drop n) (pos + 2 + n) (held.reverse ++ acc) := by
  rw [readString.eq_def]
  simp [h]

end Steps

theorem readString_chars (b : ℕ) {cs : List Char}
    (hcs : ∀ c ∈ cs, c ≠ '"' ∧ c ≠ '\\' ∧ 0x20 ≤ c.toNat) (more : List Char) (pos : ℕ)
    (acc : List Char) :
    readString b (cs ++ more) pos acc = readString b more (pos + cs.length) (cs.reverse ++ acc) := by
  induction cs generalizing pos acc with
  | nil => simp
  | cons c cs ih =>
    obtain ⟨hq, hb, hc⟩ := hcs c (List.mem_cons_self ..)
    rw [List.cons_append, readString_plain b _ _ _ hq hb hc,
      ih (fun d hd => hcs d (List.mem_cons_of_mem _ hd))]
    simp only [List.length_cons, List.reverse_cons, List.append_assoc, List.singleton_append]
    congr 1
    omega

/-- The four digits of the escapes `\u0000` to `\u001f` of the control characters
without a letter: ASCII, and read back as the control character's number. -/
theorem hexDigits_control {n : ℕ} (hn : n < 0x20) :
    (hexDigits n 4).toList.length = 4 ∧ hex4 (hexDigits n 4).toList = some n ∧
      ∀ c ∈ (hexDigits n 4).toList, 0x20 ≤ c.toNat ∧ c.toNat < 0x80 := by
  -- checked for each of the thirty-two numbers, in the form of computed truth values
  have h : ∀ k : Fin 32,
      (List.replicate (4 - (Nat.toDigits 16 k).length) '0' ++ Nat.toDigits 16 k).length = 4 ∧
      (hex4 (List.replicate (4 - (Nat.toDigits 16 k).length) '0' ++ Nat.toDigits 16 k) ==
        some k.val) = true ∧
      (List.replicate (4 - (Nat.toDigits 16 k).length) '0' ++ Nat.toDigits 16 k).all
        (fun c => 0x20 ≤ c.toNat && c.toNat < 0x80) = true := by
    decide
  obtain ⟨h1, h2, h3⟩ := h ⟨n, hn⟩
  rw [hexDigits, String.toList_ofList]
  refine ⟨h1, by simpa using h2, fun c hc => by simpa using List.all_eq_true.1 h3 c hc⟩

theorem unicodeEscape_control {ds more : List Char} {n : ℕ} (hds : ds.length = 4)
    (hhex : hex4 ds = some n) (hn : n < 0x20) (hmore : more ≠ []) (pos : ℕ) :
    unicodeEscape (ds ++ more) pos = .ok ([Char.ofNat n], 4) := by
  have hlen : ¬(ds ++ more).length ≤ 4 := by
    have := List.length_pos_iff.2 hmore
    simp only [List.length_append]
    omega
  have hcode : codePoint n = [Char.ofNat n] := by
    have hs : isSurrogate n = false := by
      simp only [isSurrogate, Bool.and_eq_false_iff, decide_eq_false_iff_not]
      omega
    have hv : n.isValidChar := by
      simp only [Nat.isValidChar]
      omega
    have hne : needsEscape (Char.ofNat n) = false := by
      simp only [needsEscape, isStandIn, escapeChar, toNat_charOfNat _ hv, Bool.or_eq_false_iff,
        Bool.and_eq_false_iff, decide_eq_false_iff_not, beq_eq_false_iff_ne, ne_eq]
      refine ⟨by omega, fun h => ?_⟩
      have := congrArg Char.toNat h
      rw [toNat_charOfNat _ hv, toNat_charOfNat _ (by simp [Nat.isValidChar])] at this
      omega
    simp [codePoint, CodePoint.ofNat, hs, CodePoint.held, hne]
  unfold unicodeEscape
  rw [if_neg hlen, List.take_left' hds, hhex, List.drop_left' hds]
  simp only [show ¬(0xD800 ≤ n) by omega, false_and, if_false, hcode]

/-! ## One code point, then a whole text -/

/-- The three ways a scalar is written in a string: a backslash and a letter, `\u` and
four digits for the other control characters, or the characters that hold it. -/
theorem escapeScalar_cases (c : Char) :
    (∃ e, (escapeCodePoint false (.scalar c)).toList = ['\\', e] ∧ e ≠ 'u' ∧
        simpleEscape e = some c ∧ 0x20 ≤ e.toNat ∧ e.toNat < 0x80 ∧ needsEscape c = false) ∨
      (c.toNat < 0x20 ∧ escapeCodePoint false (.scalar c) = "\\u" ++ hexDigits c.toNat 4) ∨
      (c ≠ '"' ∧ c ≠ '\\' ∧ 0x20 ≤ c.toNat ∧
        escapeCodePoint false (.scalar c) = String.ofList (CodePoint.scalar c).held) := by
  by_cases hl : c ∈ ['"', '\\', '\n', '\r', '\t', '\x08', '\x0c']
  · left
    simp only [List.mem_cons, List.not_mem_nil, or_false] at hl
    rcases hl with rfl | rfl | rfl | rfl | rfl | rfl | rfl
    all_goals exact ⟨_, rfl, by decide, by decide, by decide, by decide, by decide⟩
  · right
    simp only [List.mem_cons, List.not_mem_nil, or_false, not_or] at hl
    obtain ⟨hq, hb, hn, hr, ht, h8, hf⟩ := hl
    by_cases hctl : c.toNat < 0x20
    · left
      exact ⟨hctl, by simp [escapeCodePoint, hq, hb, hn, hr, ht, h8, hf, hctl]⟩
    · right
      exact ⟨hq, hb, by omega, by simp [escapeCodePoint, hq, hb, hn, hr, ht, h8, hf, hctl]⟩

/-- The characters that hold a surrogate, or a scalar that is neither a quote, a
backslash nor a control character, need no escape in a string. -/
theorem held_plain {p : CodePoint} (hp : ∀ u, p = .surrogate u → isSurrogate u = true)
    (hs : ∀ c, p = .scalar c → c ≠ '"' ∧ c ≠ '\\' ∧ 0x20 ≤ c.toNat) :
    ∀ d ∈ p.held, d ≠ '"' ∧ d ≠ '\\' ∧ 0x20 ≤ d.toNat := by
  intro d hd
  cases p with
  | scalar c =>
    rcases mem_held_scalar.1 hd with rfl | ⟨-, rfl⟩
    · exact hs d rfl
    · decide
  | surrogate u =>
    have hu := hp u rfl
    simp only [isSurrogate, Bool.and_eq_true, decide_eq_true_eq] at hu
    simp only [CodePoint.held, List.mem_singleton] at hd
    -- a stand-in lies far above the quote and the backslash
    have hn : 0xFD800 ≤ d.toNat := by
      rw [hd, toNat_charOfNat _ (by simp only [Nat.isValidChar, standInOffset]; omega)]
      simp only [standInOffset]
      omega
    refine ⟨fun h => ?_, fun h => ?_, by omega⟩
    · rw [h] at hn
      exact absurd hn (by decide)
    · rw [h] at hn
      exact absurd hn (by decide)

theorem readString_escapeCodePoint (b : ℕ) (p : CodePoint)
    (hp : ∀ u, p = .surrogate u → isSurrogate u = true) {more : List Char} (hmore : more ≠ [])
    (pos : ℕ) (acc : List Char) :
    readString b ((escapeCodePoint false p).toList ++ more) pos acc =
      readString b more (pos + (escapeCodePoint false p).length) (p.held.reverse ++ acc) := by
  rw [← String.length_toList]
  cases p with
  | surrogate u =>
    simp only [escapeCodePoint, Bool.false_eq_true, if_false, String.toList_ofList]
    exact readString_chars b (held_plain hp (by simp)) more pos acc
  | scalar c =>
    rcases escapeScalar_cases c with ⟨e, hlit, he, hs, -, -, hne⟩ | ⟨hctl, hesc⟩ | ⟨hq, hb, hc, hesc⟩
    · -- a backslash and a letter
      rw [hlit, List.cons_append, List.cons_append, List.nil_append, readString_letter b _ _ _ he hs]
      simp [CodePoint.held, hne]
    · -- `\u` and four digits
      obtain ⟨hlen, hhex, -⟩ := hexDigits_control hctl
      have hne : needsEscape c = false := by
        simp only [needsEscape, isStandIn, escapeChar, Bool.or_eq_false_iff, Bool.and_eq_false_iff,
          decide_eq_false_iff_not, beq_eq_false_iff_ne, ne_eq]
        refine ⟨by omega, fun h => ?_⟩
        rw [h, toNat_charOfNat _ (by simp [Nat.isValidChar])] at hctl
        omega
      rw [hesc, String.toList_append, show ("\\u" : String).toList = ['\\', 'u'] by simp,
        List.append_assoc, List.cons_append, List.cons_append, List.nil_append,
        readString_unicode b _ _ _ (unicodeEscape_control hlen hhex hctl hmore _), Char.ofNat_toNat,
        List.drop_left' hlen]
      simp [CodePoint.held, hne, hlen]
    · -- the characters that hold it
      rw [hesc, String.toList_ofList]
      exact readString_chars b (held_plain (by simp) fun d hd => by cases hd; exact ⟨hq, hb, hc⟩)
        more pos acc

/-- The characters a text is written with between the quotes of a string, surrogates
unescaped. -/
def stringBody (s : String) : List Char :=
  (codePoints s).flatMap fun p => (escapeCodePoint false p).toList

theorem toList_writeString {st : Style} (hst : st.escapeSurrogates = false) (s : String) :
    (writeString st s).toList = '"' :: stringBody s ++ ['"'] := by
  simp [writeString, stringBody, hst, String.toList_join, List.flatMap_map]

theorem length_writeString {st : Style} (hst : st.escapeSurrogates = false) (s : String) :
    (writeString st s).length = (stringBody s).length + 2 := by
  rw [← String.length_toList, toList_writeString hst]
  simp

theorem readString_escaped (b : ℕ) {ps : List CodePoint}
    (hps : ∀ u, CodePoint.surrogate u ∈ ps → isSurrogate u = true) (rest : List Char)
    (pos : ℕ) (acc : List Char) :
    readString b ((ps.flatMap fun p => (escapeCodePoint false p).toList) ++ '"' :: rest) pos acc =
      .ok (String.ofList (acc.reverse ++ ps.flatMap CodePoint.held),
        ⟨rest, pos + (ps.flatMap fun p => (escapeCodePoint false p).toList).length + 1⟩) := by
  induction ps generalizing pos acc with
  | nil => simpa using readString_quote b rest pos acc
  | cons p ps ih =>
    rw [List.flatMap_cons, List.append_assoc,
      readString_escapeCodePoint b p (fun u hu => hps u (hu ▸ List.mem_cons_self ..)) (by simp),
      ih fun u hu => hps u (List.mem_cons_of_mem _ hu)]
    simp only [List.reverse_append, List.reverse_reverse, List.append_assoc, List.flatMap_cons,
      List.length_append, String.length_toList]
    congr 3
    omega

theorem readString_stringBody (b : ℕ) {s : String} (hs : Held s) (rest : List Char) (pos : ℕ) :
    readString b (stringBody s ++ '"' :: rest) pos [] =
      .ok (s, ⟨rest, pos + (stringBody s).length + 1⟩) := by
  have hps : ∀ u, CodePoint.surrogate u ∈ codePoints s → isSurrogate u = true :=
    fun u hu => isSurrogate_of_mem_codePointsOf hu
  have hheld : String.ofList ((codePoints s).flatMap CodePoint.held) = s := hs
  rw [stringBody, readString_escaped b hps, List.reverse_nil, List.nil_append, hheld]

/-! ## Characters of one line -/

/-- Characters that hold scalars none of which is a control character: text that one
line of UTF-8 carries as it is. -/
def OneLine (cs : List Char) : Prop :=
  ∃ xs : List Char, (∀ c ∈ xs, 0x20 ≤ c.toNat) ∧ cs = xs.flatMap fun c => (CodePoint.scalar c).held

theorem OneLine.nil : OneLine [] := ⟨[], by simp, rfl⟩

theorem OneLine.append {cs ds : List Char} (hc : OneLine cs) (hd : OneLine ds) :
    OneLine (cs ++ ds) := by
  obtain ⟨xs, hxs, rfl⟩ := hc
  obtain ⟨ys, hys, rfl⟩ := hd
  refine ⟨xs ++ ys, fun c hc => ?_, by simp⟩
  rcases List.mem_append.1 hc with h | h
  · exact hxs c h
  · exact hys c h

theorem OneLine.flatMap {α : Type} {f : α → List Char} {l : List α} (h : ∀ a ∈ l, OneLine (f a)) :
    OneLine (l.flatMap f) := by
  induction l with
  | nil => exact OneLine.nil
  | cons a l ih =>
    rw [List.flatMap_cons]
    exact (h a (List.mem_cons_self ..)).append (ih fun b hb => h b (List.mem_cons_of_mem _ hb))

theorem oneLine_ascii {cs : List Char} (h : ∀ c ∈ cs, 0x20 ≤ c.toNat ∧ c.toNat < 0x80) :
    OneLine cs := by
  refine ⟨cs, fun c hc => (h c hc).1, ?_⟩
  have hplain : ∀ c ∈ cs, needsEscape c = false := by
    intro c hc
    have := (h c hc).2
    simp only [needsEscape, isStandIn, escapeChar, Bool.or_eq_false_iff, Bool.and_eq_false_iff,
      decide_eq_false_iff_not, beq_eq_false_iff_ne, ne_eq]
    refine ⟨by omega, fun he => ?_⟩
    rw [he, toNat_charOfNat _ (by simp [Nat.isValidChar])] at this
    omega
  induction cs with
  | nil => rfl
  | cons c cs ih =>
    rw [List.flatMap_cons, CodePoint.held, if_neg (by simp [hplain c (List.mem_cons_self ..)]),
      ← ih (fun d hd => h d (List.mem_cons_of_mem _ hd))
        (fun d hd => hplain d (List.mem_cons_of_mem _ hd))]
    rfl

theorem oneLine_escapeScalar (c : Char) : OneLine (escapeCodePoint false (.scalar c)).toList := by
  rcases escapeScalar_cases c with ⟨e, hlit, -, -, he1, he2, -⟩ | ⟨hctl, hesc⟩ | ⟨-, -, hc, hesc⟩
  · rw [hlit]
    exact oneLine_ascii (by simp [he1, he2])
  · rw [hesc, String.toList_append]
    exact (oneLine_ascii (by simp)).append (oneLine_ascii (hexDigits_control hctl).2.2)
  · rw [hesc, String.toList_ofList]
    exact ⟨[c], by simpa using hc, by simp⟩

theorem oneLine_stringBody {s : String} (h : hasSurrogate s = false) : OneLine (stringBody s) := by
  have hs : ∀ p ∈ codePoints s, p.isSurrogate = false := by
    simpa [hasSurrogate] using h
  obtain ⟨cs, hcs⟩ := exists_scalars hs
  rw [stringBody, hcs, List.flatMap_map]
  exact OneLine.flatMap fun c _ => oneLine_escapeScalar c

theorem OneLine.ne_lineEnd {cs : List Char} (h : OneLine cs) : ∀ c ∈ cs, c ≠ '\n' ∧ c ≠ '\r' := by
  obtain ⟨xs, hxs, rfl⟩ := h
  intro c hc
  obtain ⟨x, hx, hc⟩ := List.mem_flatMap.1 hc
  have h20 : 0x20 ≤ c.toNat := by
    rcases mem_held_scalar.1 hc with rfl | ⟨-, rfl⟩
    · exact hxs c hx
    · decide
  constructor <;> (rintro rfl; exact absurd h20 (by decide))

theorem OneLine.hasSurrogate_eq_false {cs : List Char} (h : OneLine cs) :
    hasSurrogate (String.ofList cs) = false := by
  obtain ⟨xs, -, rfl⟩ := h
  have hcp : codePoints (String.ofList (xs.flatMap fun c => (CodePoint.scalar c).held)) =
      xs.map .scalar := by
    rw [← List.flatMap_map]
    exact codePoints_ofCodePoints _ (by simp)
  simp [hasSurrogate, hcp, CodePoint.isSurrogate]

end Json

end VirtualMocap
