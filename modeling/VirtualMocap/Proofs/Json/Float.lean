import VirtualMocap.Json.Read
import VirtualMocap.Decimal.Text
import VirtualMocap.Proofs.Decimal.Shortest

/-!
# Doubles written as text and read back

The text of a finite double, read as a JSON number, is that double
(`Json.readNumber_toText`): the reader takes the number apart as it was written
(`Json.readNumber_numberChars`), and the shortest digits round back exactly
(`Binary64.ofDecimal_eq`).
-/

namespace VirtualMocap

/-! ## Decimal digits -/

namespace Json

theorem digitsValue_eq (ds : List Char) : digitsValue ds = Nat.ofDigitChars 10 ds 0 := by
  unfold digitsValue Nat.ofDigitChars
  congr 1
  funext n ch
  rw [Nat.mul_comm]

theorem digitsValue_append (A B : List Char) :
    digitsValue (A ++ B) = digitsValue A * 10 ^ B.length + digitsValue B := by
  rw [digitsValue_eq, digitsValue_eq, digitsValue_eq, Nat.ofDigitChars_append,
    Nat.ofDigitChars_eq_ofDigitChars_zero, Nat.mul_comm]

@[simp] theorem digitsValue_zeros (n : ℕ) : digitsValue (List.replicate n '0') = 0 := by
  rw [digitsValue_eq, Nat.ofDigitChars_replicate_zero, Nat.mul_zero]

@[simp] theorem digitsValue_toDigits (c : ℕ) : digitsValue (Nat.toDigits 10 c) = c := by
  rw [digitsValue_eq, Nat.ofDigitChars_ten_toDigits]

theorem mem_zeros_isDigit {n : ℕ} {ch : Char} (h : ch ∈ List.replicate n '0') :
    ch.isDigit = true := by
  rw [List.eq_of_mem_replicate h]
  rfl

theorem digitsValue_zeros_append (n : ℕ) (B : List Char) :
    digitsValue (List.replicate n '0' ++ B) = digitsValue B := by
  rw [digitsValue_append, digitsValue_zeros, Nat.zero_mul, Nat.zero_add]

end Json

namespace Decimal

theorem mem_toDigits_isDigit {c : ℕ} {ch : Char} (h : ch ∈ Nat.toDigits 10 c) :
    ch.isDigit = true :=
  Nat.isDigit_of_mem_toDigits (by norm_num) le_rfl h

theorem toDigits_head {c : ℕ} (hc : 0 < c) : (Nat.toDigits 10 c).head? ≠ some '0' := by
  induction c using Nat.strong_induction_on with
  | _ c ih =>
    rw [Nat.toDigits_eq_if (by norm_num)]
    split_ifs with h
    · -- one digit, and not the digit of zero
      intro h0
      have hd := Nat.toNat_digitChar_sub_48_of_lt_ten h
      simp only [List.head?_cons, Option.some.injEq] at h0
      rw [h0] at hd
      simp at hd
      omega
    · rw [List.head?_append_of_ne_nil _ Nat.toDigits_ne_nil]
      exact ih (c / 10) (by omega) (by omega)

theorem toDigits_length_bounds {c : ℕ} (hc : 0 < c) :
    10 ^ ((Nat.toDigits 10 c).length - 1) ≤ c ∧ c < 10 ^ (Nat.toDigits 10 c).length := by
  have hlen := Nat.length_toDigits_pos (b := 10) (n := c)
  refine ⟨?_, (Nat.length_toDigits_le_iff (by norm_num) hlen).1 le_rfl⟩
  rcases Nat.eq_or_lt_of_le (Nat.succ_le_of_lt hlen) with h1 | h1
  · rw [← h1]
    exact hc
  · -- more than one digit: fewer would not hold the number
    have h := Nat.length_toDigits_le_iff (b := 10) (n := c)
      (k := (Nat.toDigits 10 c).length - 1) (by norm_num) (by omega)
    by_contra hlt
    have := h.2 (Nat.lt_of_not_le hlt)
    omega

end Decimal

/-! ## The reader's view of a number -/

namespace Json

/-- Whether the text after a number leaves it as it is: no digit, point or exponent mark
could extend it. -/
def NumberEnd (rest : List Char) : Prop :=
  ∀ ch ∈ rest.head?, ch.isDigit = false ∧ ch ≠ '.' ∧ ch ≠ 'e' ∧ ch ≠ 'E'

/-- The characters of a decimal number: a sign, whole digits, the fraction digits after a
point when there are any, and an exponent mark with a sign and digits when there is
one. -/
def numberChars (neg : Bool) (W F : List Char) (E : Option (Bool × List Char)) : List Char :=
  (if neg then ['-'] else []) ++ W ++ (if F = [] then [] else '.' :: F) ++
    (match E with
      | none => []
      | some (s, D) => 'e' :: (if s then '-' else '+') :: D)

def exponentValue : Option (Bool × List Char) → ℤ
  | none => 0
  | some (s, D) => if s then -(digitsValue D : ℤ) else digitsValue D

/-- The shape the reader accepts as a floating-point number: whole digits without a
leading zero unless they are one zero, and a fraction or an exponent. -/
structure NumberShape (W F : List Char) (E : Option (Bool × List Char)) : Prop where
  whole_ne : W ≠ []
  whole_digits : ∀ ch ∈ W, ch.isDigit = true
  leading : W = ['0'] ∨ W.head? ≠ some '0'
  fraction_digits : ∀ ch ∈ F, ch.isDigit = true
  exponent_digits : ∀ s D, E = some (s, D) → D ≠ [] ∧ ∀ ch ∈ D, ch.isDigit = true
  fraction_or_exponent : F ≠ [] ∨ E.isSome

/-- The characters after the whole digits: the fraction part, the exponent part, the
rest. -/
def tailChars (F : List Char) (E : Option (Bool × List Char)) (rest : List Char) : List Char :=
  (if F = [] then [] else '.' :: F) ++
    (match E with
      | none => []
      | some (s, D) => 'e' :: (if s then '-' else '+') :: D) ++ rest

theorem numberChars_append (neg : Bool) (W F : List Char) (E : Option (Bool × List Char))
    (rest : List Char) :
    numberChars neg W F E ++ rest = (if neg then ['-'] else []) ++ (W ++ tailChars F E rest) := by
  simp [numberChars, tailChars, List.append_assoc]

theorem digits_append {A B : List Char} (hA : ∀ ch ∈ A, ch.isDigit = true)
    (hB : ∀ ch ∈ B.head?, ch.isDigit = false) : digits (A ++ B) = A := by
  unfold digits
  rw [List.takeWhile_append_of_pos hA]
  cases B with
  | nil => simp
  | cons b B => simp [hB b rfl]

theorem exponentPart_none {rest : List Char} (hrest : NumberEnd rest) :
    exponentPart rest = none := by
  cases rest with
  | nil => rfl
  | cons ch rest =>
    obtain ⟨-, -, he, hE⟩ := hrest ch rfl
    simp [exponentPart, he, hE]

theorem exponentPart_some {s : Bool} {D rest : List Char} (hD : D ≠ [])
    (hdigits : ∀ ch ∈ D, ch.isDigit = true) (hrest : NumberEnd rest) :
    exponentPart ('e' :: (if s then '-' else '+') :: (D ++ rest)) = some (s, D, 2 + D.length) := by
  have hstop : ∀ ch ∈ rest.head?, ch.isDigit = false := fun ch h => (hrest ch h).1
  have hds : digits (D ++ rest) = D := digits_append hdigits hstop
  cases s <;> simp [exponentPart, hds, List.isEmpty_iff, hD]

theorem tail_head_not_digit {F : List Char} {E : Option (Bool × List Char)} {rest : List Char}
    (hrest : NumberEnd rest) : ∀ ch ∈ (tailChars F E rest).head?, ch.isDigit = false := by
  intro ch hch
  unfold tailChars at hch
  split_ifs at hch
  · cases E with
    | none => exact (hrest ch (by simpa using hch)).1
    | some sD =>
      obtain ⟨s, D⟩ := sD
      simp only [List.nil_append, List.cons_append, List.head?_cons, Option.mem_def,
        Option.some.injEq] at hch
      rw [← hch]
      rfl
  · simp only [List.cons_append, List.head?_cons, Option.mem_def, Option.some.injEq] at hch
    rw [← hch]
    rfl

theorem whole_eq {d : Char} {W' t : List Char} (hdig : ∀ ch ∈ d :: W', ch.isDigit = true)
    (hlead : d :: W' = ['0'] ∨ (d :: W').head? ≠ some '0')
    (ht : ∀ ch ∈ t.head?, ch.isDigit = false) :
    (if d == '0' then ['0'] else digits (d :: (W' ++ t))) = d :: W' := by
  rcases hlead with h | h
  · obtain ⟨rfl, rfl⟩ := List.cons_eq_cons.1 h
    rfl
  · have hd0 : (d == '0') = false := by simpa using h
    rw [if_neg (by simp [hd0]), ← List.cons_append]
    exact digits_append hdig ht

/-- The reader reads the characters of a number of this shape as the double nearest to
its digits scaled by its exponent, and stops right after them. -/
theorem readNumber_numberChars {neg : Bool} {W F : List Char} {E : Option (Bool × List Char)}
    (hs : NumberShape W F E) {rest : List Char} (hrest : NumberEnd rest) (pos : ℕ) :
    readNumber ⟨numberChars neg W F E ++ rest, pos⟩ =
      .ok (.float (Binary64.ofDecimal neg (digitsValue (W ++ F)) (exponentValue E - F.length)),
        ⟨rest, pos + (numberChars neg W F E).length⟩) := by
  obtain ⟨d, W', rfl⟩ := List.exists_cons_of_ne_nil hs.whole_ne
  have hd : d.isDigit = true := hs.whole_digits d (List.mem_cons_self ..)
  have hwhole := whole_eq hs.whole_digits hs.leading (tail_head_not_digit (F := F) (E := E) hrest)
  have hdrop : List.drop (d :: W').length (d :: (W' ++ tailChars F E rest)) =
      tailChars F E rest := by
    rw [← List.cons_append, List.drop_left]
  have hdm : d ≠ '-' := by
    rintro rfl
    simp at hd
  rw [numberChars_append]
  unfold readNumber
  cases neg <;>
  simp only [Bool.false_eq_true, if_false, if_true, List.nil_append,
    List.cons_append, hdm, not_false_eq_true, hd, Bool.not_true, hwhole, hdrop,
    List.cons.injEq, false_and, imp_false, forall_const, not_false_eq_true]
  all_goals
    rcases F with _ | ⟨f, F'⟩ <;> rcases E with _ | ⟨⟨s, D⟩⟩
    · exact absurd hs.fraction_or_exponent (by simp)
    · -- an exponent and no fraction
      obtain ⟨hD, hDd⟩ := hs.exponent_digits s D rfl
      have he : 'e' ≠ '.' := by decide
      simp only [tailChars, if_true, List.nil_append, List.cons_append, List.cons.injEq, he,
        false_and, imp_false, implies_true, not_false_eq_true, List.isEmpty_nil, List.drop_zero,
        exponentPart_some hD hDd hrest, Option.isNone_some, and_false, if_false,
        Bool.false_eq_true]
      simp only [Cursor.advance, numberChars, exponentValue, Except.ok.injEq, Prod.mk.injEq,
        Cursor.mk.injEq, true_and]
      refine ⟨?_, by simp; omega⟩
      simp (disch := omega) only [List.drop_cons, List.drop_append, List.drop_eq_nil_of_le,
        List.nil_append, Nat.sub_eq_zero_of_le, List.drop_zero, List.length_cons]
    · -- a fraction and no exponent
      have hf : f.isDigit = true := hs.fraction_digits f (List.mem_cons_self ..)
      have hF : digits (f :: (F' ++ rest)) = f :: F' := by
        rw [← List.cons_append]
        exact digits_append hs.fraction_digits fun ch h => (hrest ch h).1
      have hdropF : List.drop ((f :: F').length + 1) ('.' :: f :: (F' ++ rest)) = rest := by simp
      simp only [tailChars, reduceCtorEq, if_false, List.append_nil, List.cons_append, hf,
        if_true, List.drop_one, List.tail_cons, hF, List.isEmpty_cons, Bool.false_eq_true,
        false_and, hdropF, exponentPart_none hrest]
      simp only [Cursor.advance, numberChars, exponentValue, Except.ok.injEq, Prod.mk.injEq,
        Cursor.mk.injEq, true_and]
      refine ⟨?_, by simp; omega⟩
      simp (disch := omega) only [List.drop_cons, List.drop_append, List.drop_eq_nil_of_le,
        List.nil_append, Nat.sub_eq_zero_of_le, List.drop_zero, List.length_cons]
    · -- a fraction and an exponent
      obtain ⟨hD, hDd⟩ := hs.exponent_digits s D rfl
      have hf : f.isDigit = true := hs.fraction_digits f (List.mem_cons_self ..)
      have hF : digits (f :: (F' ++ 'e' :: (if s then '-' else '+') :: (D ++ rest))) = f :: F' := by
        rw [← List.cons_append]
        exact digits_append hs.fraction_digits fun ch h => by
          simp only [List.head?_cons, Option.mem_def, Option.some.injEq] at h
          rw [← h]
          rfl
      have hdropF : List.drop ((f :: F').length + 1)
          ('.' :: f :: (F' ++ 'e' :: (if s then '-' else '+') :: (D ++ rest))) =
            'e' :: (if s then '-' else '+') :: (D ++ rest) := by simp
      simp only [tailChars, reduceCtorEq, if_false, List.append_assoc, List.cons_append, hf,
        if_true, List.drop_one, List.tail_cons, hF, List.isEmpty_cons, Bool.false_eq_true,
        false_and, hdropF, exponentPart_some hD hDd hrest]
      simp only [Cursor.advance, numberChars, exponentValue, Except.ok.injEq, Prod.mk.injEq,
        Cursor.mk.injEq, true_and]
      refine ⟨?_, by simp; omega⟩
      simp (disch := omega) only [List.drop_cons, List.drop_append, List.drop_eq_nil_of_le,
        List.nil_append, Nat.sub_eq_zero_of_le, List.drop_zero, List.length_cons]

theorem readNumber_intChars {neg : Bool} {W : List Char} (hne : W ≠ [])
    (hdig : ∀ ch ∈ W, ch.isDigit = true) (hlead : W = ['0'] ∨ W.head? ≠ some '0')
    (hlen : W.length ≤ Decimal.maxIntDigits) {rest : List Char} (hrest : NumberEnd rest)
    (pos : ℕ) :
    readNumber ⟨(if neg then ['-'] else []) ++ W ++ rest, pos⟩ =
      .ok (.int (if neg then -(digitsValue W : ℤ) else digitsValue W),
        ⟨rest, pos + ((if neg then 1 else 0) + W.length)⟩) := by
  obtain ⟨d, W', rfl⟩ := List.exists_cons_of_ne_nil hne
  have hd : d.isDigit = true := hdig d (List.mem_cons_self ..)
  have hwhole := whole_eq hdig hlead fun ch h => (hrest ch h).1
  have hdrop : List.drop (W'.length + 1) (d :: (W' ++ rest)) = rest := by
    simp
  have hdm : d ≠ '-' := by
    rintro rfl
    simp at hd
  have hlen' : ¬W'.length + 1 > Decimal.maxIntDigits := by simpa using hlen
  have hexp := exponentPart_none hrest
  rw [List.append_assoc]
  unfold readNumber
  -- nothing after the digits continues the number: no point, no exponent mark
  rcases rest with _ | ⟨c, more⟩
  · cases neg <;>
    simp only [Bool.false_eq_true, if_false, if_true, List.nil_append, List.cons_append, hdm,
      not_false_eq_true, hd, Bool.not_true, hwhole, hdrop, List.cons.injEq, false_and, imp_false,
      forall_const, List.isEmpty_nil, List.drop_zero, hexp, Option.isNone_none, and_self,
      List.length_cons, hlen'] <;>
    simp [Cursor.advance]
  · have hc : c ≠ '.' := (hrest c rfl).2.1
    cases neg <;>
    simp only [Bool.false_eq_true, if_false, if_true, List.nil_append, List.cons_append, hdm,
      not_false_eq_true, hd, Bool.not_true, hwhole, hdrop, List.cons.injEq, false_and, imp_false,
      forall_const, List.isEmpty_nil, List.drop_zero, hexp, Option.isNone_none, and_self,
      List.length_cons, hlen', hc] <;>
    simp [Cursor.advance, Nat.add_comm 1]

end Json

/-! ## Layouts of the shortest digits -/

namespace Decimal

open Json

theorem toList_toString (c : ℕ) : (toString c).toList = Nat.toDigits 10 c := by
  simp

theorem toList_zeros (n : ℕ) : (zeros n).toList = List.replicate n '0' := by
  simp [zeros]

/-- Every layout of the digits of a positive number is a number the reader takes apart,
and its value is the digits scaled so that `point` of them stand before the point. -/
theorem render_shape {c : ℕ} (hc : 0 < c) (point : ℤ) :
    ∃ W F E, (Layout.standard.render (toString c) point).toList = numberChars false W F E ∧
      NumberShape W F E ∧ 0 < digitsValue (W ++ F) ∧
      (digitsValue (W ++ F) : ℚ) * 10 ^ (exponentValue E - F.length) =
        c * 10 ^ (point - (Nat.toDigits 10 c).length) := by
  set ds := Nat.toDigits 10 c with hds
  have hne : ds ≠ [] := Nat.toDigits_ne_nil
  have hdig : ∀ ch ∈ ds, ch.isDigit = true := fun ch h => mem_toDigits_isDigit h
  have hhead : ds.head? ≠ some '0' := toDigits_head hc
  have hval : digitsValue ds = c := digitsValue_toDigits c
  have hlen : (toString c).length = ds.length := by
    rw [← String.length_toList, toList_toString]
  have hzero : ∀ n, ∀ ch ∈ List.replicate n '0', ch.isDigit = true :=
    fun _ _ h => mem_zeros_isDigit h
  unfold Layout.render
  simp only [Layout.standard, hlen]
  by_cases hpos : -4 ≤ point - 1 ∧ point - 1 ≤ 15
  · rw [if_pos hpos]
    split_ifs with hp0 hlt
    · -- `0.`, zeros, then the digits
      have hF : List.replicate (-point).toNat '0' ++ ds ≠ [] := by simp [hne]
      refine ⟨['0'], List.replicate (-point).toNat '0' ++ ds, none, ?_,
        ⟨by simp, hzero 1, .inl rfl, ?_, by simp, .inl hF⟩, ?_, ?_⟩
      · have h0 : ("0." : String).toList = ['0', '.'] := by decide
        simp only [numberChars, String.toList_append, h0, toList_zeros, toList_toString, ← hds,
          if_neg hF]
        simp
      · intro ch h
        rcases List.mem_append.1 h with h | h
        · exact hzero _ ch h
        · exact hdig ch h
      · rw [show ['0'] ++ (List.replicate (-point).toNat '0' ++ ds) =
          List.replicate ((-point).toNat + 1) '0' ++ ds by simp [List.replicate_succ],
          digitsValue_zeros_append, hval]
        exact hc
      · rw [show ['0'] ++ (List.replicate (-point).toNat '0' ++ ds) =
          List.replicate ((-point).toNat + 1) '0' ++ ds by simp [List.replicate_succ],
          digitsValue_zeros_append, hval]
        congr 2
        simp only [exponentValue, List.length_append, List.length_replicate]
        omega
    · -- digits, a point inside them, the other digits
      have hp1 : 0 < point.toNat := by omega
      have hW : ds.take point.toNat ≠ [] := by simp [hne]; omega
      have hF : ds.drop point.toNat ≠ [] := by simp; omega
      refine ⟨ds.take point.toNat, ds.drop point.toNat, none, ?_,
        ⟨hW, fun ch h => hdig ch (List.mem_of_mem_take h), .inr ?_,
          fun ch h => hdig ch (List.mem_of_mem_drop h), by simp, .inl hF⟩, ?_, ?_⟩
      · have h0 : (".").toList = ['.'] := by decide
        simp only [numberChars, String.toList_append, String.toList_ofList, h0, toList_toString,
          ← hds, if_neg hF]
        simp
      · rwa [List.head?_take, if_neg (by omega)]
      · rw [List.take_append_drop, hval]
        exact hc
      · rw [List.take_append_drop, hval]
        congr 2
        simp only [exponentValue, List.length_drop]
        omega
    · -- the digits, zeros, then `.0`
      have h0v : digitsValue ['0'] = 0 := digitsValue_zeros 1
      have hW : ds ++ List.replicate (point.toNat - ds.length) '0' ≠ [] := by simp [hne]
      refine ⟨ds ++ List.replicate (point.toNat - ds.length) '0', ['0'], none, ?_,
        ⟨hW, ?_, .inr ?_, hzero 1, by simp, .inl (by simp)⟩, ?_, ?_⟩
      · have h0 : (".0").toList = ['.', '0'] := by decide
        simp only [numberChars, String.toList_append, h0, toList_zeros, toList_toString, ← hds]
        simp
      · intro ch h
        rcases List.mem_append.1 h with h | h
        · exact hdig ch h
        · exact hzero _ ch h
      · rwa [List.head?_append_of_ne_nil _ hne]
      · rw [digitsValue_append, digitsValue_append, hval, h0v]
        simp [hc]
      · rw [digitsValue_append, digitsValue_append, hval, h0v]
        simp only [digitsValue_zeros, Nat.add_zero, List.length_replicate, exponentValue,
          List.length_singleton]
        rw [show ((0 : ℤ) - ((1 : ℕ) : ℤ)) = -1 by norm_num]
        push_cast
        rw [show point - (ds.length : ℤ) = ((point.toNat - ds.length : ℕ) : ℤ) by omega,
          zpow_natCast, zpow_neg_one]
        ring
  · -- scientific: one digit, the others after a point, then a signed exponent of two digits
    rw [if_neg hpos]
    have hdot : (".").toList = ['.'] := by decide
    set M := if ds.length ≤ 1 then toString c else
        String.ofList (List.take 1 (toString c).toList) ++ "." ++
          String.ofList (List.drop 1 (toString c).toList) with hM
    have hmant : M.toList = ds.take 1 ++ (if ds.drop 1 = [] then [] else '.' :: ds.drop 1) := by
      rw [hM]
      split_ifs with h1 h2 h2
      · rw [toList_toString, ← hds, List.take_of_length_le h1, List.append_nil]
      · rw [List.drop_eq_nil_iff] at h2
        omega
      · rw [List.drop_eq_nil_iff] at h2
        omega
      · simp only [String.toList_append, String.toList_ofList, hdot, toList_toString, ← hds]
        simp
    set D := List.replicate (2 - (toString (point - 1).natAbs).length) '0' ++
      Nat.toDigits 10 (point - 1).natAbs with hD
    have hDv : digitsValue D = (point - 1).natAbs := by
      rw [hD, digitsValue_zeros_append, digitsValue_toDigits]
    refine ⟨ds.take 1, ds.drop 1, some (decide (point - 1 < 0), D), ?_,
      ⟨by simp [hne], fun ch h => hdig ch (List.mem_of_mem_take h), .inr ?_,
        fun ch h => hdig ch (List.mem_of_mem_drop h), ?_, .inr rfl⟩, ?_, ?_⟩
    · have he : ("e").toList = ['e'] := by decide
      have hminus : ("-").toList = ['-'] := by decide
      have hplus : ("+").toList = ['+'] := by decide
      simp only [String.toList_append, hmant, he, toList_zeros, toList_toString, numberChars]
      by_cases hs : point - 1 < 0 <;> simp [hs, hD, hminus, hplus]
    · rwa [List.head?_take, if_neg one_ne_zero]
    · intro s D' h
      obtain ⟨-, rfl⟩ := Prod.mk.inj (Option.some.inj h)
      refine ⟨by simp [hD, Nat.toDigits_ne_nil], fun ch h => ?_⟩
      rcases List.mem_append.1 h with h | h
      · exact hzero _ ch h
      · exact mem_toDigits_isDigit h
    · rw [List.take_append_drop, hval]
      exact hc
    · rw [List.take_append_drop, hval]
      congr 2
      simp only [exponentValue, hDv, List.length_drop, decide_eq_true_eq]
      have hlen1 : 0 < ds.length := List.length_pos_iff.2 hne
      split_ifs <;> omega

end Decimal

/-! ## Reading the digits back -/

namespace Binary64

open BinaryFormat

theorem roundsTo_range {m : ℕ} {q : ℤ} {r : ℚ} (hc : binary64.Canonical m q) (hm : 0 < m)
    (hr : binary64.RoundsTo m q r) : ((2 : ℚ) ^ 1075)⁻¹ ≤ r ∧ r < 2 ^ 1024 := by
  obtain ⟨hm53, hq1, hq2⟩ := canonical64_bounds hc
  obtain ⟨hlo, hhi, -, -⟩ := hr.bounds
  have hgap := binary64.lowerGap_le_half m q
  have hm1 : (1 : ℚ) ≤ m := by exact_mod_cast hm
  have hm2 : (m : ℚ) + 1 / 2 < 2 ^ ((53 : ℕ) : ℤ) := by
    have : (m : ℚ) + 1 ≤ 2 ^ 53 := by exact_mod_cast Nat.succ_le_of_lt hm53
    rw [zpow_natCast]
    linarith
  constructor
  · calc ((2 : ℚ) ^ 1075)⁻¹ = 2 ^ (-((1075 : ℕ) : ℤ)) := by rw [zpow_neg, zpow_natCast]
      _ ≤ 2 ^ (q - 1) := zpow_le_zpow_right₀ (by norm_num) (by omega)
      _ = 1 / 2 * 2 ^ q := by
        rw [zpow_sub₀ (by norm_num), zpow_one]
        ring
      _ ≤ ((m : ℚ) - binary64.lowerGap m q) * 2 ^ q :=
        mul_le_mul_of_nonneg_right (by linarith) (by positivity)
      _ ≤ r := hlo
  · calc r ≤ ((m : ℚ) + 1 / 2) * 2 ^ q := hhi
      _ < 2 ^ ((53 : ℕ) : ℤ) * 2 ^ q := mul_lt_mul_of_pos_right hm2 (by positivity)
      _ = 2 ^ ((53 : ℕ) + q) := (zpow_add₀ (by norm_num) _ _).symm
      _ ≤ 2 ^ ((1024 : ℕ) : ℤ) := zpow_le_zpow_right₀ (by norm_num) (by omega)
      _ = 2 ^ 1024 := zpow_natCast _ _

/-- A positive decimal that rounds to a positive finite double reads as that double: its
decimal exponent is within the range where `ofDecimal` rounds exactly. -/
theorem ofDecimal_eq {x : Binary64} {neg : Bool} {m : ℕ} {q : ℤ} (h : x.unpack = .finite neg m q)
    (hm : 0 < m) {D : ℕ} {X : ℤ} (hD : 0 < D) (hr : binary64.RoundsTo m q (D * 10 ^ X)) :
    ofDecimal neg D X = x := by
  obtain ⟨hlo, hhi⟩ := roundsTo_range (unpack_eq_finite x.bits_lt h).1 hm hr
  obtain ⟨hL1, hL2⟩ := Decimal.toDigits_length_bounds hD
  set L := (Nat.toDigits 10 D).length with hL
  have hsize : (toString D).length = L := by
    rw [← String.length_toList, Decimal.toList_toString]
  have h10 : (0 : ℚ) < 10 ^ X := by positivity
  -- `10^309 ≤ 10^(X + L - 1) ≤ D · 10^X` would pass `2^1024`
  have hup : X + L ≤ 310 := by
    by_contra hgt
    have hD1 : (10 : ℚ) ^ ((L - 1 : ℕ) : ℤ) ≤ D := by
      rw [zpow_natCast]
      exact_mod_cast hL1
    have : (10 : ℚ) ^ 309 ≤ D * 10 ^ X :=
      calc (10 : ℚ) ^ 309 = 10 ^ ((309 : ℕ) : ℤ) := (zpow_natCast _ _).symm
        _ ≤ 10 ^ (((L - 1 : ℕ) : ℤ) + X) := zpow_le_zpow_right₀ (by norm_num) (by omega)
        _ = 10 ^ ((L - 1 : ℕ) : ℤ) * 10 ^ X := zpow_add₀ (by norm_num) _ _
        _ ≤ D * 10 ^ X := mul_le_mul_of_nonneg_right hD1 h10.le
    have h2 : (2 : ℚ) ^ 1024 < 10 ^ 309 := by
      have h := (Nat.cast_lt (α := ℚ)).2 (by decide +kernel : 2 ^ 1024 < 10 ^ 309)
      simpa only [Nat.cast_pow, Nat.cast_ofNat] using h
    exact lt_irrefl _ ((hhi.trans h2).trans_le this)
  -- `D · 10^X < 10^(X + L) ≤ 10^-324` would fall below `2^-1075`
  have hdown : -330 ≤ X + L := by
    by_contra hlt
    have hD2 : (D : ℚ) < 10 ^ (L : ℤ) := by
      rw [zpow_natCast]
      exact_mod_cast hL2
    have : (D : ℚ) * 10 ^ X < ((10 : ℚ) ^ 324)⁻¹ :=
      calc (D : ℚ) * 10 ^ X < 10 ^ (L : ℤ) * 10 ^ X := mul_lt_mul_of_pos_right hD2 h10
        _ = 10 ^ ((L : ℤ) + X) := (zpow_add₀ (by norm_num) _ _).symm
        _ ≤ 10 ^ (-((324 : ℕ) : ℤ)) := zpow_le_zpow_right₀ (by norm_num) (by omega)
        _ = ((10 : ℚ) ^ 324)⁻¹ := by rw [zpow_neg, zpow_natCast]
    have h2 : ((10 : ℚ) ^ 324)⁻¹ < ((2 : ℚ) ^ 1075)⁻¹ := by
      rw [inv_lt_inv₀ (by positivity) (by positivity)]
      have h := (Nat.cast_lt (α := ℚ)).2 (by decide +kernel : 2 ^ 1075 < 10 ^ 324)
      simpa only [Nat.cast_pow, Nat.cast_ofNat] using h
    exact lt_irrefl _ ((this.trans h2).trans_le hlo)
  unfold ofDecimal
  dsimp only
  rw [hsize, if_neg hD.ne', if_neg (by omega), if_neg (by omega)]
  split_ifs with hX
  · apply ofRatio_eq h hm (Nat.mul_pos hD (tenPow_pos _)) Nat.one_pos
    rwa [Nat.cast_mul, cast_tenPow, Nat.cast_one, div_one, ← zpow_natCast,
      Int.toNat_of_nonneg hX]
  · apply ofRatio_eq h hm hD (tenPow_pos _)
    rwa [cast_tenPow, ← zpow_natCast, Int.toNat_of_nonneg (by omega), zpow_neg, div_inv_eq_mul]

theorem exists_unpack_of_isFinite {x : Binary64} (hx : x.isFinite = true) :
    ∃ neg m q, x.unpack = .finite neg m q := by
  unfold Binary64.isFinite at hx
  split at hx
  · exact ⟨_, _, _, by assumption⟩
  · contradiction

end Binary64

namespace Json

open Decimal

theorem numberChars_sign (neg : Bool) (W F : List Char) (E : Option (Bool × List Char)) :
    numberChars neg W F E = (if neg then ['-'] else []) ++ numberChars false W F E := by
  simp [numberChars]

theorem toText_shape {x : Binary64} {neg : Bool} {m : ℕ} {q : ℤ}
    (h : x.unpack = .finite neg m q) :
    ∃ W F E, x.toText.toList = numberChars neg W F E ∧ NumberShape W F E ∧
      Binary64.ofDecimal neg (digitsValue (W ++ F)) (exponentValue E - F.length) = x := by
  have hsign : (if neg then "-" else "").toList = if neg then ['-'] else [] := by
    cases neg <;> decide
  unfold Binary64.toText Layout.ofBinary64
  rw [h]
  dsimp only
  by_cases hm0 : m = 0
  · -- zero is written `0.0`, after its sign
    rw [if_pos hm0]
    subst hm0
    refine ⟨['0'], ['0'], none, ?_, ⟨by simp, fun _ h => mem_zeros_isDigit (n := 1) h, .inl rfl,
      fun _ h => mem_zeros_isDigit (n := 1) h, by simp, .inl (by simp)⟩, ?_⟩
    · have hzero : (Layout.standard.render "0" 1).toList = ['0', '.', '0'] := by decide
      rw [String.toList_append, hsign, hzero, numberChars_sign]
      rfl
    · rw [show digitsValue (['0'] ++ ['0']) = 0 from digitsValue_zeros 2,
        Binary64.eq_zero_of_unpack h]
      simp [Binary64.ofDecimal]
  · -- otherwise the shortest digits, laid out
    rw [if_neg hm0]
    have hm : 0 < m := Nat.pos_of_ne_zero hm0
    obtain ⟨hcpos, hr⟩ := shortest_roundsTo (BinaryFormat.unpack_eq_finite x.bits_lt h).1 hm
    rcases hs : shortest m q with ⟨c, e⟩
    rw [hs] at hcpos hr
    dsimp only at hcpos hr ⊢
    obtain ⟨W, F, E, hchars, hshape, hpos, hval⟩ := render_shape hcpos (e + (toString c).length)
    refine ⟨W, F, E, ?_, hshape, Binary64.ofDecimal_eq h hm hpos ?_⟩
    · rw [String.toList_append, hsign, hchars, numberChars_sign neg]
    · rwa [hval, ← String.length_toList, toList_toString, add_sub_cancel_right]

/-- The text of a finite double, followed by anything that ends a number, reads back as
that double. -/
theorem readNumber_toText {x : Binary64} (hx : x.isFinite = true) {rest : List Char}
    (hrest : NumberEnd rest) (pos : ℕ) :
    readNumber ⟨x.toText.toList ++ rest, pos⟩ = .ok (.float x, ⟨rest, pos + x.toText.length⟩) := by
  obtain ⟨neg, m, q, h⟩ := Binary64.exists_unpack_of_isFinite hx
  obtain ⟨W, F, E, hchars, hshape, hval⟩ := toText_shape h
  rw [hchars, readNumber_numberChars hshape hrest, hval, ← String.length_toList, hchars]

end Json

end VirtualMocap
