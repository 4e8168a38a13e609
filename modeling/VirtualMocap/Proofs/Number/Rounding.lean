import VirtualMocap.Number.Binary32
import Mathlib

/-!
# Words and rounding of binary formats

A finite word unpacks to a significand and an exponent in range and packs back from them
(`unpack_eq_finite`, `unpack_packFinite`). Every rational in the rounding interval of a
positive finite value rounds to it (`round_eq_of_roundsTo`); the proof follows the
algorithm, through the binade (`floorLog2Ratio_eq`) and one division rounded to even
(`divRoundEven_eq`).
-/

namespace VirtualMocap

theorem cast_twoPow (k : ℕ) : ((twoPow k : ℕ) : ℚ) = 2 ^ k := by
  simp [twoPow, Nat.pow_eq]

theorem twoPow_pos (k : ℕ) : 0 < twoPow k := Nat.two_pow_pos k

theorem two_zpow_eq (q : ℤ) : (2 : ℚ) ^ q = (twoPow q.toNat : ℚ) / twoPow (-q).toNat := by
  rw [cast_twoPow, cast_twoPow]
  rcases le_total 0 q with hq | hq
  · rw [Int.toNat_of_nonpos (show -q ≤ 0 by omega), pow_zero, div_one, ← zpow_natCast,
      Int.toNat_of_nonneg hq]
  · rw [Int.toNat_of_nonpos hq, pow_zero, one_div, ← zpow_natCast,
      Int.toNat_of_nonneg (show 0 ≤ -q by omega), zpow_neg, inv_inv]

namespace BinaryFormat

variable {f : BinaryFormat}

/-- The shape every format here has: at least two significand bits and two exponent
bits. -/
structure Sane (f : BinaryFormat) : Prop where
  precision : 2 ≤ f.precision
  exponentBits : 2 ≤ f.exponentBits

theorem binary64_sane : binary64.Sane := ⟨by decide, by decide⟩

theorem binary32_sane : binary32.Sane := ⟨by decide, by decide⟩

theorem hidden_pos : 0 < f.hidden := twoPow_pos _

theorem twoPow_precision (hf : f.Sane) : twoPow f.precision = 2 * f.hidden := by
  have := hf.precision
  simp only [hidden, fractionBits, twoPow, Nat.pow_eq]
  rw [← Nat.pow_succ']
  congr 1
  omega

theorem twoPow_signShift : twoPow f.signShift = f.hidden * twoPow f.exponentBits := by
  simp only [signShift, hidden, twoPow, Nat.pow_eq, Nat.pow_add]

theorem topExponent_succ : f.topExponent + 1 = twoPow f.exponentBits := by
  have := twoPow_pos f.exponentBits
  simp only [topExponent]
  omega

/-! ## Words -/

/-- The significands and exponents of finite values as `unpack` gives them: below the
hidden bit at the least exponent, or with the hidden bit and an exponent in range. -/
def Canonical (f : BinaryFormat) (m : ℕ) (q : ℤ) : Prop :=
  (m < f.hidden ∧ q = f.minExponent) ∨
    (f.hidden ≤ m ∧ m < 2 * f.hidden ∧ f.minExponent ≤ q ∧ q ≤ f.maxExponent)

theorem word_eq (w : ℕ) (hw : w < twoPow (f.signShift + 1)) :
    w = (if w.testBit f.signShift then twoPow f.signShift else 0) +
      w / f.hidden % twoPow f.exponentBits * f.hidden + w % f.hidden := by
  have hH := hidden_pos (f := f)
  have hE := twoPow_pos f.exponentBits
  have hS : twoPow (f.signShift + 1) = 2 * twoPow f.signShift := by
    simp only [twoPow, Nat.pow_eq, Nat.pow_succ]
    ring
  have hdiv : w / f.hidden / twoPow f.exponentBits = w / twoPow f.signShift := by
    rw [Nat.div_div_eq_div_mul, twoPow_signShift]
  have hsign : w / twoPow f.signShift < 2 := by
    rw [Nat.div_lt_iff_lt_mul (twoPow_pos _)]
    omega
  have hbit : w.testBit f.signShift = decide (w / twoPow f.signShift = 1) := by
    rw [Nat.testBit_eq_decide_div_mod_eq, show 2 ^ f.signShift = twoPow f.signShift from rfl,
      Nat.mod_eq_of_lt hsign]
  have h1 := Nat.div_add_mod w f.hidden
  have h2 := Nat.div_add_mod (w / f.hidden) (twoPow f.exponentBits)
  rw [hdiv] at h2
  calc w = f.hidden * (w / f.hidden) + w % f.hidden := h1.symm
    _ = f.hidden * (twoPow f.exponentBits * (w / twoPow f.signShift) +
          w / f.hidden % twoPow f.exponentBits) + w % f.hidden := by rw [h2]
    _ = _ := by
      rw [hbit]
      split_ifs with h
      · rw [decide_eq_true_eq] at h
        rw [h, twoPow_signShift]
        ring
      · rw [decide_eq_true_eq] at h
        have h0 : w / twoPow f.signShift = 0 := by
          generalize w / twoPow f.signShift = t at h hsign
          omega
        rw [h0]
        ring

theorem fields_assemble (neg : Bool) {stored fraction : ℕ} (hs : stored < twoPow f.exponentBits)
    (hfr : fraction < f.hidden) :
    (f.assemble neg stored fraction).testBit f.signShift = neg ∧
      f.assemble neg stored fraction / f.hidden % twoPow f.exponentBits = stored ∧
      f.assemble neg stored fraction % f.hidden = fraction ∧
      f.assemble neg stored fraction < twoPow (f.signShift + 1) := by
  have hH := hidden_pos (f := f)
  have hS : twoPow (f.signShift + 1) = 2 * twoPow f.signShift := by
    simp only [twoPow, Nat.pow_eq, Nat.pow_succ]
    ring
  -- below the sign bit, the exponent field and the fraction fill less than `2^signShift`
  have hlow : stored * f.hidden + fraction < twoPow f.signShift := by
    rw [twoPow_signShift]
    nlinarith
  have hsign : (if neg then twoPow f.signShift else 0) =
      f.hidden * ((if neg then twoPow f.exponentBits else 0)) := by
    split_ifs <;> simp [twoPow_signShift]
  refine ⟨?_, ?_, ?_, ?_⟩
  · rw [Nat.testBit_eq_decide_div_mod_eq, show 2 ^ f.signShift = twoPow f.signShift from rfl]
    simp only [assemble]
    cases neg with
    | false =>
      simp only [Bool.false_eq_true, if_false, Nat.zero_add, decide_eq_false_iff_not]
      rw [Nat.div_eq_of_lt hlow]
      simp
    | true =>
      simp only [if_true, decide_eq_true_eq]
      rw [Nat.add_assoc, Nat.add_div_left _ (twoPow_pos _), Nat.div_eq_of_lt hlow]
  · have hdiv : (stored * f.hidden + fraction) / f.hidden = stored := by
      rw [Nat.mul_comm, Nat.mul_add_div hH, Nat.div_eq_of_lt hfr, Nat.add_zero]
    simp only [assemble]
    rw [hsign, Nat.add_assoc, Nat.mul_add_div hH, hdiv]
    split_ifs
    · rw [Nat.add_comm, Nat.add_mod_right, Nat.mod_eq_of_lt hs]
    · rw [Nat.zero_add, Nat.mod_eq_of_lt hs]
  · simp only [assemble]
    rw [hsign, Nat.add_assoc, Nat.mul_add_mod_self_left, Nat.mul_add_mod_self_right,
      Nat.mod_eq_of_lt hfr]
  · simp only [assemble]
    split_ifs <;> omega

/-- A finite word packs back from the significand and exponent it unpacks to, and those
are in the format's ranges. -/
theorem unpack_eq_finite {w : ℕ} (hw : w < twoPow (f.signShift + 1)) {neg : Bool} {m : ℕ}
    {q : ℤ} (h : f.unpack w = .finite neg m q) :
    f.Canonical m q ∧ f.packFinite neg m q = w := by
  have hword := word_eq w hw
  have htop := topExponent_succ (f := f)
  have hstored : w / f.hidden % twoPow f.exponentBits < twoPow f.exponentBits :=
    Nat.mod_lt _ (twoPow_pos _)
  have hfrac : w % f.hidden < f.hidden := Nat.mod_lt _ hidden_pos
  simp only [unpack] at h
  split_ifs at h with htopE hnan hzero
  · simp only [Unpacked.finite.injEq] at h
    obtain ⟨rfl, rfl, rfl⟩ := h
    refine ⟨.inl ⟨hfrac, rfl⟩, ?_⟩
    simp only [packFinite, hfrac, if_true, assemble]
    rw [hzero] at hword
    omega
  · simp only [Unpacked.finite.injEq] at h
    obtain ⟨rfl, rfl, rfl⟩ := h
    refine ⟨.inr ⟨by omega, by omega, by omega, ?_⟩, ?_⟩
    · simp only [maxExponent]
      omega
    · simp only [packFinite, show ¬(f.hidden + w % f.hidden < f.hidden) by omega, if_false,
        assemble]
      have : (f.minExponent + ((w / f.hidden % twoPow f.exponentBits - 1 : ℕ) : ℤ) -
          f.minExponent).toNat + 1 = w / f.hidden % twoPow f.exponentBits := by
        omega
      rw [this, Nat.add_sub_cancel_left]
      omega

/-- A significand and exponent in the format's ranges unpack from the word they pack to. -/
theorem unpack_packFinite (hf : f.Sane) (neg : Bool) {m : ℕ} {q : ℤ} (hc : f.Canonical m q) :
    f.unpack (f.packFinite neg m q) = .finite neg m q ∧
      f.packFinite neg m q < twoPow (f.signShift + 1) := by
  have htop := topExponent_succ (f := f)
  have hbits : 4 ≤ twoPow f.exponentBits := by
    have := hf.exponentBits
    calc 4 = twoPow 2 := rfl
      _ ≤ twoPow f.exponentBits := Nat.pow_le_pow_right (by decide) this
  rcases hc with ⟨hm, rfl⟩ | ⟨hlo, hhi, hqlo, hqhi⟩
  · obtain ⟨hbit, hst, hfr, hlt⟩ := fields_assemble (f := f) neg (twoPow_pos _) hm
    simp only [packFinite, hm, if_true]
    refine ⟨?_, hlt⟩
    simp only [unpack, hbit, hst, hfr]
    rw [if_neg (by omega)]
    simp
  · have hstored : (q - f.minExponent).toNat + 1 < twoPow f.exponentBits := by
      simp only [maxExponent] at hqhi
      omega
    obtain ⟨hbit, hst, hfr, hlt⟩ := fields_assemble (f := f) neg hstored (by omega : m - f.hidden < f.hidden)
    simp only [packFinite, show ¬(m < f.hidden) by omega, if_false]
    refine ⟨?_, hlt⟩
    simp only [unpack, hbit, hst, hfr]
    rw [if_neg (by simp only [maxExponent] at hqhi; omega), if_neg (by omega)]
    congr 1
    · omega
    · omega

/-! ## Rounding -/

/-- How far, in units of `2^q`, the rounding interval of `m · 2^q` reaches below it: half a
unit, or a quarter at the bottom of a binade above the first, where the values below
lie twice as close. -/
def lowerGap (f : BinaryFormat) (m : ℕ) (q : ℤ) : ℚ :=
  if m = f.hidden ∧ f.minExponent < q then 1 / 4 else 1 / 2

/-- The rationals that round to the positive finite value `m · 2^q`: those from
`lowerGap` units below it to half a unit above, the ends included exactly when `m` is
even. -/
def RoundsTo (f : BinaryFormat) (m : ℕ) (q : ℤ) (r : ℚ) : Prop :=
  if m % 2 = 0 then ((m : ℚ) - f.lowerGap m q) * 2 ^ q ≤ r ∧ r ≤ ((m : ℚ) + 1 / 2) * 2 ^ q
  else ((m : ℚ) - f.lowerGap m q) * 2 ^ q < r ∧ r < ((m : ℚ) + 1 / 2) * 2 ^ q

theorem lowerGap_pos (m : ℕ) (q : ℤ) : 0 < f.lowerGap m q := by
  unfold lowerGap
  split_ifs <;> norm_num

theorem lowerGap_le_half (m : ℕ) (q : ℤ) : f.lowerGap m q ≤ 1 / 2 := by
  unfold lowerGap
  split_ifs <;> norm_num

theorem RoundsTo.bounds {m : ℕ} {q : ℤ} {r : ℚ} (h : f.RoundsTo m q r) :
    ((m : ℚ) - f.lowerGap m q) * 2 ^ q ≤ r ∧ r ≤ ((m : ℚ) + 1 / 2) * 2 ^ q ∧
      (r = ((m : ℚ) - f.lowerGap m q) * 2 ^ q → m % 2 = 0) ∧
      (r = ((m : ℚ) + 1 / 2) * 2 ^ q → m % 2 = 0) := by
  unfold RoundsTo at h
  split_ifs at h with hm
  · exact ⟨h.1, h.2, fun _ => hm, fun _ => hm⟩
  · exact ⟨h.1.le, h.2.le, fun he => absurd he (ne_of_gt h.1), fun he => absurd he (ne_of_lt h.2)⟩

/-- Division rounded to even gives `k` when the quotient lies within a half of `k`, and at
exactly a half only when `k` is even. -/
theorem divRoundEven_eq {n d k : ℕ} (hd : 0 < d) (hlo : (k : ℚ) - 1 / 2 ≤ n / d)
    (hhi : (n : ℚ) / d ≤ k + 1 / 2)
    (htie : (n : ℚ) / d = k - 1 / 2 ∨ (n : ℚ) / d = k + 1 / 2 → k % 2 = 0) :
    divRoundEven n d = k := by
  have hdq : (0 : ℚ) < d := by exact_mod_cast hd
  have hsplit : (n : ℚ) / d = (n / d : ℕ) + ((n % d : ℕ) : ℚ) / d := by
    have hn : (n : ℚ) = d * (n / d : ℕ) + (n % d : ℕ) := by
      exact_mod_cast (Nat.div_add_mod n d).symm
    rw [hn, add_div, mul_div_cancel_left₀ _ hdq.ne']
  have hR0 : (0 : ℚ) ≤ ((n % d : ℕ) : ℚ) / d := by positivity
  have hR1 : ((n % d : ℕ) : ℚ) / d < 1 :=
    (div_lt_one hdq).2 (by exact_mod_cast Nat.mod_lt n hd)
  have hupper : n / d < k + 1 := by
    have : ((n / d : ℕ) : ℚ) < k + 1 := by linarith
    exact_mod_cast this
  have hlower : k < n / d + 2 := by
    have : (k : ℚ) < (n / d : ℕ) + 2 := by linarith
    exact_mod_cast this
  -- twice the remainder against `d` decides, as the fraction against a half
  have hhalf : ((n % d : ℕ) : ℚ) / d = 1 / 2 ↔ 2 * (n % d) = d := by
    rw [div_eq_iff hdq.ne']
    constructor
    · intro h
      have : ((2 * (n % d) : ℕ) : ℚ) = d := by push_cast; linarith
      exact_mod_cast this
    · intro h
      have : ((2 * (n % d) : ℕ) : ℚ) = d := by exact_mod_cast h
      push_cast at this
      linarith
  have hlt : ((n % d : ℕ) : ℚ) / d < 1 / 2 ↔ 2 * (n % d) < d := by
    rw [div_lt_iff₀ hdq]
    constructor
    · intro h
      have : ((2 * (n % d) : ℕ) : ℚ) < d := by push_cast; linarith
      exact_mod_cast this
    · intro h
      have : ((2 * (n % d) : ℕ) : ℚ) < d := by exact_mod_cast h
      push_cast at this
      linarith
  simp only [divRoundEven]
  rcases (by omega : n / d = k ∨ n / d + 1 = k) with hq | hq
  · -- the quotient is `k`: the fraction is at most a half, and a half only if `k` is even
    have hle : ((n % d : ℕ) : ℚ) / d ≤ 1 / 2 := by
      rw [hq] at hsplit
      linarith
    have h2 : 2 * (n % d) ≤ d := by
      rcases lt_or_eq_of_le hle with h | h
      · exact (hlt.1 h).le
      · exact (hhalf.1 h).le
    rw [if_neg, hq]
    rintro (hgt | ⟨heq, hodd⟩)
    · omega
    · have hk := htie (.inr (by rw [hsplit, hq, hhalf.2 heq]))
      omega
  · -- the quotient is `k - 1`: the fraction is at least a half, and a half only if `k` is even
    have hge : 1 / 2 ≤ ((n % d : ℕ) : ℚ) / d := by
      have : ((n / d : ℕ) : ℚ) + 1 = k := by exact_mod_cast hq
      linarith
    rw [if_pos, hq]
    rcases lt_or_eq_of_le hge with h | h
    · left
      have h2 : ¬2 * (n % d) < d := fun h' => absurd (hlt.2 h') (by linarith)
      have h3 : 2 * (n % d) ≠ d := fun h' => absurd (hhalf.2 h') (by linarith)
      omega
    · right
      refine ⟨(hhalf.1 h.symm), ?_⟩
      have hk := htie (.inl (by
        rw [hsplit, ← h]
        have : ((n / d : ℕ) : ℚ) + 1 = k := by exact_mod_cast hq
        linarith))
      omega

theorem two_zpow_le_div_iff {num den : ℕ} (hden : 0 < den) (k : ℤ) :
    (2 : ℚ) ^ k ≤ num / den ↔ twoPow k.toNat * den ≤ num * twoPow (-k).toNat := by
  have hdq : (0 : ℚ) < den := by exact_mod_cast hden
  have hpos : (0 : ℚ) < twoPow (-k).toNat := by exact_mod_cast twoPow_pos _
  rw [two_zpow_eq, div_le_div_iff₀ hpos hdq, ← Nat.cast_mul, ← Nat.cast_mul, Nat.cast_le]

theorem ratioAtLeastPow2_iff {num den : ℕ} (hden : 0 < den) (k : ℤ) :
    ratioAtLeastPow2 num den k = true ↔ (2 : ℚ) ^ k ≤ num / den := by
  rw [two_zpow_le_div_iff hden]
  unfold ratioAtLeastPow2
  split_ifs with hk
  · rw [decide_eq_true_iff, Int.toNat_of_nonpos (show -k ≤ 0 by omega)]
    simp [twoPow, Nat.mul_comm]
  · rw [decide_eq_true_iff, Int.toNat_of_nonpos (show k ≤ 0 by omega)]
    simp [twoPow]

theorem floorLog2Ratio_spec {num den : ℕ} (hnum : 0 < num) (hden : 0 < den) :
    (2 : ℚ) ^ floorLog2Ratio num den ≤ num / den ∧
      (num : ℚ) / den < 2 ^ (floorLog2Ratio num den + 1) := by
  have hdq : (0 : ℚ) < den := by exact_mod_cast hden
  -- the bit lengths bound the ratio within a factor of two either side of their difference
  have ha := Nat.log2_self_le (Nat.pos_iff_ne_zero.1 hnum)
  have ha' := Nat.lt_log2_self (n := num)
  have hb := Nat.log2_self_le (Nat.pos_iff_ne_zero.1 hden)
  have hb' := Nat.lt_log2_self (n := den)
  set a := num.log2
  set b := den.log2
  have hnumq : (2 : ℚ) ^ (a : ℤ) ≤ num ∧ (num : ℚ) < 2 ^ ((a : ℤ) + 1) := by
    constructor
    · rw [zpow_natCast]
      exact_mod_cast ha
    · rw [show (a : ℤ) + 1 = ((a + 1 : ℕ) : ℤ) by push_cast; ring, zpow_natCast]
      exact_mod_cast ha'
  have hdenq : (2 : ℚ) ^ (b : ℤ) ≤ den ∧ (den : ℚ) < 2 ^ ((b : ℤ) + 1) := by
    constructor
    · rw [zpow_natCast]
      exact_mod_cast hb
    · rw [show (b : ℤ) + 1 = ((b + 1 : ℕ) : ℤ) by push_cast; ring, zpow_natCast]
      exact_mod_cast hb'
  have hupper : (num : ℚ) / den < 2 ^ ((a : ℤ) - b + 1) := by
    rw [div_lt_iff₀ hdq, show (a : ℤ) - b + 1 = ((a : ℤ) + 1) - b by ring,
      zpow_sub₀ (by norm_num)]
    calc (num : ℚ) < 2 ^ ((a : ℤ) + 1) := hnumq.2
      _ = 2 ^ ((a : ℤ) + 1) / 2 ^ (b : ℤ) * 2 ^ (b : ℤ) := by field_simp
      _ ≤ 2 ^ ((a : ℤ) + 1) / 2 ^ (b : ℤ) * den := by gcongr; exact hdenq.1
  have hlower : (2 : ℚ) ^ ((a : ℤ) - b - 1) ≤ num / den := by
    rw [le_div_iff₀ hdq, show (a : ℤ) - b - 1 = (a : ℤ) - ((b : ℤ) + 1) by ring,
      zpow_sub₀ (by norm_num)]
    calc 2 ^ (a : ℤ) / 2 ^ ((b : ℤ) + 1) * (den : ℚ)
        ≤ 2 ^ (a : ℤ) / 2 ^ ((b : ℤ) + 1) * 2 ^ ((b : ℤ) + 1) := by gcongr; exact hdenq.2.le
      _ = 2 ^ (a : ℤ) := by field_simp
      _ ≤ num := hnumq.1
  unfold floorLog2Ratio
  simp only
  split_ifs with h
  · exact ⟨(ratioAtLeastPow2_iff hden _).1 h, hupper⟩
  · refine ⟨hlower, ?_⟩
    rw [show (a : ℤ) - b - 1 + 1 = (a : ℤ) - b by ring]
    rw [ratioAtLeastPow2_iff hden] at h
    exact lt_of_not_ge h

/-- A ratio between `2^k` and `2^(k+1)` has binade `k`. -/
theorem floorLog2Ratio_eq {num den : ℕ} (hnum : 0 < num) (hden : 0 < den) {k : ℤ}
    (hlo : (2 : ℚ) ^ k ≤ num / den) (hhi : (num : ℚ) / den < 2 ^ (k + 1)) :
    floorLog2Ratio num den = k := by
  obtain ⟨h1, h2⟩ := floorLog2Ratio_spec hnum hden
  have hmono : ∀ {i j : ℤ}, i ≤ j → (2 : ℚ) ^ i ≤ 2 ^ j :=
    fun h => zpow_le_zpow_right₀ (by norm_num) h
  by_contra hne
  rcases lt_or_gt_of_ne hne with h | h
  · have := hmono (show floorLog2Ratio num den + 1 ≤ k by omega)
    linarith
  · have := hmono (show k + 1 ≤ floorLog2Ratio num den by omega)
    linarith

theorem scaled_eq {num den k : ℕ} (hden : 0 < den) (q : ℤ)
    (hlo : (k : ℚ) - 1 / 2 ≤ num / den / 2 ^ q) (hhi : (num : ℚ) / den / 2 ^ q ≤ k + 1 / 2)
    (htie : (num : ℚ) / den / 2 ^ q = k - 1 / 2 ∨ (num : ℚ) / den / 2 ^ q = k + 1 / 2 →
      k % 2 = 0) :
    (if 0 ≤ q then divRoundEven num (den * twoPow q.toNat)
      else divRoundEven (num * twoPow (-q).toNat) den) = k := by
  have hdq : (0 : ℚ) < den := by exact_mod_cast hden
  have hpos : ∀ j, (0 : ℚ) < twoPow j := fun j => by exact_mod_cast twoPow_pos j
  split_ifs with hq
  · have hratio : ((num : ℕ) : ℚ) / ((den * twoPow q.toNat : ℕ) : ℚ) = num / den / 2 ^ q := by
      rw [two_zpow_eq, Int.toNat_of_nonpos (show -q ≤ 0 by omega), cast_twoPow 0, pow_zero,
        div_one, Nat.cast_mul, cast_twoPow, div_div]
    rw [← hratio] at hlo hhi htie
    exact divRoundEven_eq (Nat.mul_pos hden (twoPow_pos _)) hlo hhi htie
  · have hratio : ((num * twoPow (-q).toNat : ℕ) : ℚ) / (den : ℚ) = num / den / 2 ^ q := by
      rw [two_zpow_eq, show q.toNat = 0 by omega, cast_twoPow 0, pow_zero, Nat.cast_mul,
        cast_twoPow]
      have := hpos (-q).toNat
      rw [cast_twoPow] at this
      field_simp
    rw [← hratio] at hlo hhi htie
    exact divRoundEven_eq hden hlo hhi htie

theorem round_of_scaled {num den : ℕ} (hnum : 0 < num) {e : ℤ}
    (he : max (floorLog2Ratio num den - f.fractionBits) f.minExponent = e) {k : ℕ}
    (hk : (if 0 ≤ e then divRoundEven num (den * twoPow e.toNat)
      else divRoundEven (num * twoPow (-e).toNat) den) = k) :
    f.round num den =
      if k = twoPow f.precision then
        (if e + 1 > f.maxExponent then none else some (k / 2, e + 1))
      else if e > f.maxExponent then none else some (k, e) := by
  simp only [round, Nat.pos_iff_ne_zero.1 hnum, if_false, he, hk]
  split_ifs <;> rfl

/-- Every rational in the rounding interval of a positive finite value rounds to it. -/
theorem round_eq_of_roundsTo (hf : f.Sane) {m : ℕ} {q : ℤ} (hc : f.Canonical m q) (hm : 0 < m)
    {num den : ℕ} (hnum : 0 < num) (hden : 0 < den) (hr : f.RoundsTo m q (num / den)) :
    f.round num den = some (m, q) := by
  obtain ⟨hlow, hhigh, hlowTie, hhighTie⟩ := hr.bounds
  set r : ℚ := (num : ℚ) / den with hrdef
  have hfb : 1 ≤ f.fractionBits := by
    have := hf.precision
    simp only [fractionBits]
    omega
  have hH : (f.hidden : ℚ) = 2 ^ (f.fractionBits : ℤ) := by
    rw [zpow_natCast]
    exact cast_twoPow _
  have hHeven : f.hidden % 2 = 0 := by
    simp only [hidden, twoPow, Nat.pow_eq]
    exact Nat.mod_eq_zero_of_dvd (dvd_pow_self 2 (by omega))
  have hHge : (2 : ℚ) ≤ f.hidden := by
    have : 2 ≤ f.hidden := by
      have := hidden_pos (f := f)
      omega
    exact_mod_cast this
  have h2q : (0 : ℚ) < 2 ^ q := by positivity
  have hgap := lowerGap_le_half (f := f) m q
  have hmax : q ≤ f.maxExponent := by
    rcases hc with ⟨_, rfl⟩ | ⟨_, _, _, hq⟩
    · simp only [maxExponent]
      omega
    · exact hq
  have hpow : ∀ j : ℤ, (2 : ℚ) ^ ((f.fractionBits : ℤ) + j) = f.hidden * 2 ^ j := fun j => by
    rw [zpow_add₀ (by norm_num), hH]
  have hprec := twoPow_precision hf
  by_cases hbig : (f.hidden : ℚ) * 2 ^ q ≤ r
  · -- the ratio lies in the binade of `m`, so `round` works at exponent `q`
    have hnormal : f.hidden ≤ m := by
      by_contra hlt
      have : ((m : ℚ) + 1 / 2) < f.hidden := by
        have : m + 1 ≤ f.hidden := by omega
        have : ((m + 1 : ℕ) : ℚ) ≤ f.hidden := by exact_mod_cast this
        push_cast at this
        linarith
      nlinarith
    have hm2 : m < 2 * f.hidden := by
      rcases hc with ⟨h, _⟩ | ⟨_, h, _, _⟩ <;> omega
    have hqmin : f.minExponent ≤ q := by
      rcases hc with ⟨h, _⟩ | ⟨_, _, h, _⟩
      · omega
      · exact h
    have hL : floorLog2Ratio num den = f.fractionBits + q := by
      apply floorLog2Ratio_eq hnum hden
      · rw [hpow]
        exact hbig
      · rw [show (f.fractionBits : ℤ) + q + 1 = f.fractionBits + (q + 1) by ring, hpow,
          zpow_add_one₀ (by norm_num)]
        have : ((m : ℚ) + 1 / 2) < 2 * f.hidden := by
          have : ((m + 1 : ℕ) : ℚ) ≤ ((2 * f.hidden : ℕ) : ℚ) := by exact_mod_cast hm2
          push_cast at this
          linarith
        nlinarith
    rw [round_of_scaled hnum (e := q) (by rw [hL]; omega) (k := m)]
    · rw [if_neg (by omega), if_neg (by omega)]
    · apply scaled_eq hden
      · rw [le_div_iff₀ h2q]
        nlinarith
      · rw [div_le_iff₀ h2q]
        linarith
      · rintro (h | h)
        · rw [div_eq_iff h2q.ne'] at h
          by_cases hg : f.lowerGap m q = 1 / 2
          · exact hlowTie (by rw [hg]; exact h)
          · have : f.lowerGap m q = 1 / 4 := by
              unfold lowerGap at hg ⊢
              split_ifs at hg ⊢ <;> simp_all
            nlinarith
        · rw [div_eq_iff h2q.ne'] at h
          exact hhighTie h
  · rw [not_le] at hbig
    have hLhi : r < 2 ^ ((f.fractionBits : ℤ) + q) := by rw [hpow]; exact hbig
    by_cases hsub : m < f.hidden
    · -- a subnormal value: `round` works at the least exponent
      have hq : q = f.minExponent := by
        rcases hc with ⟨_, h⟩ | ⟨h, _, _, _⟩
        · exact h
        · omega
      have hL : floorLog2Ratio num den < f.fractionBits + q := by
        obtain ⟨h1, _⟩ := floorLog2Ratio_spec hnum hden
        by_contra hge
        have := zpow_le_zpow_right₀ (show (1 : ℚ) ≤ 2 by norm_num)
          (show (f.fractionBits : ℤ) + q ≤ floorLog2Ratio num den by omega)
        linarith
      rw [round_of_scaled hnum (e := q) (by omega) (k := m)]
      · rw [if_neg (by omega), if_neg (by omega)]
      · apply scaled_eq hden
        · rw [le_div_iff₀ h2q]
          nlinarith
        · rw [div_le_iff₀ h2q]
          linarith
        · rintro (h | h)
          · rw [div_eq_iff h2q.ne'] at h
            have hg : f.lowerGap m q = 1 / 2 := by
              unfold lowerGap
              rw [if_neg (by omega)]
            exact hlowTie (by rw [hg]; exact h)
          · rw [div_eq_iff h2q.ne'] at h
            exact hhighTie h
    · -- below the binade of a normal `m`: only the bottom significand reaches there
      have hmH : m = f.hidden := by
        have : (m : ℚ) < f.hidden + 1 := by nlinarith
        have : m < f.hidden + 1 := by exact_mod_cast this
        omega
      subst hmH
      have hL : floorLog2Ratio num den = f.fractionBits + (q - 1) := by
        apply floorLog2Ratio_eq hnum hden
        · rw [hpow, zpow_sub_one₀ (by norm_num)]
          have : (f.hidden : ℚ) * (2 ^ q * 2⁻¹) ≤ ((f.hidden : ℚ) - f.lowerGap f.hidden q) * 2 ^ q := by
            nlinarith
          linarith
        · rw [show (f.fractionBits : ℤ) + (q - 1) + 1 = f.fractionBits + q by ring]
          exact hLhi
      by_cases hq : f.minExponent < q
      · -- the rounding interval reaches into the binade below: round there, and carry
        have hg : f.lowerGap f.hidden q = 1 / 4 := by
          unfold lowerGap
          rw [if_pos ⟨rfl, hq⟩]
        have h2q' : (0 : ℚ) < 2 ^ (q - 1) := by positivity
        have hsplit : (2 : ℚ) ^ q = 2 ^ (q - 1) * 2 := by
          rw [← zpow_add_one₀ (by norm_num), sub_add_cancel]
        rw [round_of_scaled hnum (e := q - 1) (by rw [hL]; omega) (k := 2 * f.hidden)]
        · rw [if_pos hprec.symm, if_neg (by omega), Nat.mul_div_cancel_left _ (by decide),
            sub_add_cancel]
        · apply scaled_eq hden
          · rw [le_div_iff₀ h2q']
            push_cast
            rw [hg, hsplit] at hlow
            nlinarith
          · rw [div_le_iff₀ h2q']
            push_cast
            rw [hsplit] at hbig
            nlinarith
          · intro _
            omega
      · -- at the least exponent the binade below is the subnormal range, as finely spaced
        have hqeq : q = f.minExponent := by
          rcases hc with ⟨_, h⟩ | ⟨_, _, h, _⟩
          · exact h
          · omega
        have hg : f.lowerGap f.hidden q = 1 / 2 := by
          unfold lowerGap
          rw [if_neg (by omega)]
        rw [round_of_scaled hnum (e := q) (by rw [hL]; omega) (k := f.hidden)]
        · rw [if_neg (by omega), if_neg (by omega)]
        · apply scaled_eq hden
          · rw [le_div_iff₀ h2q]
            rw [hg] at hlow
            nlinarith
          · rw [div_le_iff₀ h2q]
            nlinarith
          · intro _
            exact hHeven

theorem roundsTo_self (m : ℕ) (q : ℤ) : f.RoundsTo m q ((m : ℚ) * 2 ^ q) := by
  have h2q : (0 : ℚ) < 2 ^ q := by positivity
  have hgap := lowerGap_pos (f := f) m q
  unfold RoundsTo
  split_ifs <;> constructor <;> nlinarith

theorem round_exact (hf : f.Sane) {m : ℕ} {q : ℤ} (hc : f.Canonical m q) (hm : 0 < m)
    {num den : ℕ} (hnum : 0 < num) (hden : 0 < den) (hv : (num : ℚ) / den = m * 2 ^ q) :
    f.round num den = some (m, q) :=
  round_eq_of_roundsTo hf hc hm hnum hden (hv ▸ roundsTo_self m q)

theorem unpack_eq_infinite {w : ℕ} (hw : w < twoPow (f.signShift + 1)) {neg : Bool}
    (h : f.unpack w = .infinite neg) : f.packInfinite neg = w := by
  have hword := word_eq w hw
  simp only [unpack] at h
  split_ifs at h with htop hzero
  · simp only [Unpacked.infinite.injEq] at h
    subst h
    simp only [packInfinite, assemble]
    rw [htop, hzero] at hword
    omega

theorem unpack_packInfinite (neg : Bool) :
    f.unpack (f.packInfinite neg) = .infinite neg ∧ f.packInfinite neg < twoPow (f.signShift + 1) := by
  have htop := topExponent_succ (f := f)
  obtain ⟨hbit, hst, hfr, hlt⟩ :=
    fields_assemble (f := f) neg (show f.topExponent < twoPow f.exponentBits by omega) hidden_pos
  refine ⟨?_, hlt⟩
  simp only [packInfinite, unpack, hbit, hst, hfr, if_true]

theorem unpack_eq_nan {w : ℕ} (hw : w < twoPow (f.signShift + 1)) {neg : Bool} {p : ℕ}
    (h : f.unpack w = .nan neg p) :
    f.assemble neg f.topExponent p = w ∧ 0 < p ∧ p < f.hidden := by
  have hword := word_eq w hw
  simp only [unpack] at h
  split_ifs at h with htop hzero
  simp only [Unpacked.nan.injEq] at h
  obtain ⟨rfl, rfl⟩ := h
  refine ⟨?_, Nat.pos_of_ne_zero hzero, Nat.mod_lt _ hidden_pos⟩
  simp only [assemble]
  rw [htop] at hword
  omega

theorem unpack_assemble_nan (neg : Bool) {p : ℕ} (hp : 0 < p) (hph : p < f.hidden) :
    f.unpack (f.assemble neg f.topExponent p) = .nan neg p ∧
      f.assemble neg f.topExponent p < twoPow (f.signShift + 1) := by
  have htop := topExponent_succ (f := f)
  obtain ⟨hbit, hst, hfr, hlt⟩ :=
    fields_assemble (f := f) neg (show f.topExponent < twoPow f.exponentBits by omega) hph
  refine ⟨?_, hlt⟩
  simp only [unpack, hbit, hst, hfr, if_true, if_neg (Nat.pos_iff_ne_zero.mp hp)]

theorem assemble_or (neg : Bool) (s : ℕ) {p b : ℕ} (hp : p < f.hidden) (hb : b < f.hidden) :
    f.assemble neg s p ||| b = f.assemble neg s (p ||| b) := by
  have hsign : (if neg then twoPow f.signShift else 0) + s * f.hidden =
      2 ^ f.fractionBits * ((if neg then twoPow f.exponentBits else 0) + s) := by
    rw [twoPow_signShift]
    split_ifs <;> simp only [hidden, twoPow, Nat.pow_eq] <;> ring
  have hpb : p ||| b < 2 ^ f.fractionBits := Nat.or_lt_two_pow hp hb
  simp only [assemble]
  rw [hsign, Nat.two_pow_add_eq_or_of_lt hp, Nat.two_pow_add_eq_or_of_lt hpb, Nat.or_assoc]

/-- The fraction `num / den` the conversions between formats give the value `m * 2 ^ q`. -/
def scaled (m : ℕ) (q : ℤ) : ℕ × ℕ :=
  if 0 ≤ q then (m * twoPow q.toNat, 1) else (m, twoPow (-q).toNat)

theorem scaled_value (m : ℕ) (q : ℤ) : ((scaled m q).1 : ℚ) / (scaled m q).2 = m * 2 ^ q := by
  rw [two_zpow_eq, scaled]
  split_ifs with hq
  · simp [Int.toNat_of_nonpos (show -q ≤ 0 by omega), cast_twoPow]
  · simp [show q.toNat = 0 by omega, cast_twoPow, div_eq_mul_inv]

theorem scaled_num_pos {m : ℕ} (hm : 0 < m) (q : ℤ) : 0 < (scaled m q).1 := by
  unfold scaled
  split_ifs
  · exact Nat.mul_pos hm (twoPow_pos _)
  · exact hm

theorem scaled_den_pos (m : ℕ) (q : ℤ) : 0 < (scaled m q).2 := by
  unfold scaled
  split_ifs
  · exact Nat.one_pos
  · exact twoPow_pos _

@[simp] theorem scaled_zero (q : ℤ) : (scaled 0 q).1 = 0 := by
  unfold scaled
  split_ifs <;> simp

end BinaryFormat

namespace Binary64

open BinaryFormat

theorem bits_lt (x : Binary64) : x.bits.toNat < twoPow (binary64.signShift + 1) :=
  UInt64.toNat_lt x.bits

theorem unpack_ofWord {w : ℕ} (hw : w < twoPow (binary64.signShift + 1)) :
    (⟨w.toUInt64⟩ : Binary64).unpack = binary64.unpack w := by
  rw [show twoPow (binary64.signShift + 1) = 2 ^ 64 by decide] at hw
  simp only [Binary64.unpack]
  rw [Nat.toUInt64, UInt64.toNat_ofNat_of_lt' hw]

@[simp] theorem unpack_infinity (neg : Bool) : (infinity neg).unpack = .infinite neg := by
  obtain ⟨hu, hlt⟩ := unpack_packInfinite (f := binary64) neg
  unfold infinity
  rw [unpack_ofWord hlt]
  exact hu

theorem eq_of_unpack_finite {x : Binary64} {neg : Bool} {m : ℕ} {q : ℤ}
    (h : x.unpack = .finite neg m q) : (⟨(binary64.packFinite neg m q).toUInt64⟩ : Binary64) = x := by
  rw [(unpack_eq_finite x.bits_lt h).2]
  exact congrArg Binary64.mk (UInt64.ofNat_toNat)

theorem ofRatio_eq {x : Binary64} {neg : Bool} {m : ℕ} {q : ℤ} (h : x.unpack = .finite neg m q)
    (hm : 0 < m) {num den : ℕ} (hnum : 0 < num) (hden : 0 < den)
    (hr : binary64.RoundsTo m q (num / den)) : ofRatio neg num den = x := by
  have hc := (unpack_eq_finite x.bits_lt h).1
  rw [ofRatio, nearest, round_eq_of_roundsTo binary64_sane hc hm hnum hden hr]
  exact eq_of_unpack_finite h

theorem eq_zero_of_unpack {x : Binary64} {neg : Bool} {q : ℤ} (h : x.unpack = .finite neg 0 q) :
    x = if neg then negZero else zero := by
  rw [← eq_of_unpack_finite h]
  cases neg <;> rfl

theorem eq_infinity_of_unpack {x : Binary64} {neg : Bool} (h : x.unpack = .infinite neg) :
    x = infinity neg := by
  rw [infinity, unpack_eq_infinite x.bits_lt h]
  exact (congrArg Binary64.mk UInt64.ofNat_toNat).symm

end Binary64

namespace Binary32

open BinaryFormat

theorem bits_lt (x : Binary32) : x.bits.toNat < twoPow (binary32.signShift + 1) :=
  UInt32.toNat_lt x.bits

theorem unpack_ofWord {w : ℕ} (hw : w < twoPow (binary32.signShift + 1)) :
    (⟨w.toUInt32⟩ : Binary32).unpack = binary32.unpack w := by
  rw [show twoPow (binary32.signShift + 1) = 2 ^ 32 by decide] at hw
  simp only [Binary32.unpack]
  rw [Nat.toUInt32, UInt32.toNat_ofNat_of_lt' hw]

theorem eq_of_unpack_finite {x : Binary32} {neg : Bool} {m : ℕ} {q : ℤ}
    (h : x.unpack = .finite neg m q) : (⟨(binary32.packFinite neg m q).toUInt32⟩ : Binary32) = x := by
  rw [(unpack_eq_finite x.bits_lt h).2]
  exact congrArg Binary32.mk UInt32.ofNat_toNat

theorem canonical64_of_canonical32 {m : ℕ} {q : ℤ} (hc : binary32.Canonical m q) (hm : 0 < m) :
    ∃ m' q', binary64.Canonical m' q' ∧ 0 < m' ∧ (m' : ℚ) * 2 ^ q' = m * 2 ^ q := by
  have hm32 : m < 2 ^ 24 := by
    rcases hc with ⟨h, _⟩ | ⟨_, h, _, _⟩ <;> simp only [show binary32.hidden = 2 ^ 23 by decide] at h <;> omega
  have hq32 : -149 ≤ q ∧ q ≤ 104 := by
    rcases hc with ⟨_, h⟩ | ⟨_, _, h1, h2⟩
    · rw [h]
      decide
    · rw [show binary32.minExponent = -149 by decide] at h1
      rw [show binary32.maxExponent = 104 by decide] at h2
      exact ⟨h1, h2⟩
  have hlog := Nat.log2_self_le (Nat.pos_iff_ne_zero.1 hm)
  have hlog' := Nat.lt_log2_self (n := m)
  have hl : m.log2 ≤ 23 := by
    by_contra h
    have : 2 ^ 24 ≤ 2 ^ m.log2 := Nat.pow_le_pow_right (by decide) (by omega)
    omega
  refine ⟨m * 2 ^ (52 - m.log2), q - (52 - m.log2 : ℕ), .inr ⟨?_, ?_, ?_, ?_⟩, ?_, ?_⟩
  · rw [show binary64.hidden = 2 ^ 52 by decide]
    calc 2 ^ 52 = 2 ^ m.log2 * 2 ^ (52 - m.log2) := by rw [← Nat.pow_add]; congr 1; omega
      _ ≤ m * 2 ^ (52 - m.log2) := Nat.mul_le_mul_right _ hlog
  · rw [show binary64.hidden = 2 ^ 52 by decide]
    calc m * 2 ^ (52 - m.log2) < 2 ^ (m.log2 + 1) * 2 ^ (52 - m.log2) :=
          Nat.mul_lt_mul_of_pos_right hlog' (by positivity)
      _ = 2 * 2 ^ 52 := by rw [← Nat.pow_add, ← Nat.pow_succ']; congr 1; omega
  · rw [show binary64.minExponent = -1074 by decide]
    omega
  · rw [show binary64.maxExponent = 971 by decide]
    omega
  · positivity
  · push_cast
    rw [zpow_sub₀ (by norm_num), zpow_natCast]
    field_simp

theorem widened_payload {p : ℕ} (hp : p < binary32.hidden) :
    0 < p * twoPow 29 ||| twoPow 51 ∧ p * twoPow 29 ||| twoPow 51 < binary64.hidden := by
  have hp52 : p * twoPow 29 < 2 ^ 52 := by
    have h23 : binary32.hidden = 2 ^ 23 := by decide
    rw [h23] at hp
    calc p * twoPow 29 < 2 ^ 23 * 2 ^ 29 := Nat.mul_lt_mul_of_pos_right hp (twoPow_pos 29)
      _ = 2 ^ 52 := by norm_num
  exact ⟨Nat.or_pos_iff.2 (.inr (twoPow_pos _)), Nat.or_lt_two_pow hp52 (by decide)⟩

theorem narrowed_payload {p : ℕ} (hp : p < binary64.hidden) :
    0 < p / twoPow 29 ||| twoPow 22 ∧ p / twoPow 29 ||| twoPow 22 < binary32.hidden := by
  have hp23 : p / twoPow 29 < 2 ^ 23 := by
    have h52 : binary64.hidden = 2 ^ 23 * twoPow 29 := by decide
    rw [h52] at hp
    exact Nat.div_lt_of_lt_mul hp
  exact ⟨Nat.or_pos_iff.2 (.inr (twoPow_pos _)), Nat.or_lt_two_pow hp23 (by decide)⟩

theorem unpack_toBinary64_nan {x : Binary32} {neg : Bool} {p : ℕ} (h : x.unpack = .nan neg p) :
    x.toBinary64.unpack = .nan neg (p * twoPow 29 ||| twoPow 51) := by
  obtain ⟨-, -, hp⟩ := unpack_eq_nan x.bits_lt h
  obtain ⟨hwide0, hwide⟩ := widened_payload hp
  obtain ⟨hu, hlt⟩ := unpack_assemble_nan (f := binary64) neg hwide0 hwide
  rw [toBinary64, h]
  dsimp only
  rw [Binary64.unpack_ofWord hlt, hu]

theorem isNaN_of_ofBinary64? {x : Binary64} {y : Binary32} (hx : x.isNaN = true)
    (h : ofBinary64? x = some y) : y.isNaN = true := by
  unfold Binary64.isNaN at hx
  split at hx
  · next neg p hu =>
    obtain ⟨-, -, hp⟩ := unpack_eq_nan x.bits_lt hu
    obtain ⟨hnarrow0, hnarrow⟩ := narrowed_payload hp
    obtain ⟨hu', hlt⟩ := unpack_assemble_nan (f := binary32) neg hnarrow0 hnarrow
    rw [ofBinary64?, hu, Option.some.injEq] at h
    subst h
    rw [isNaN, unpack_ofWord hlt, hu']
  · contradiction

theorem ofBinary64?_toBinary64_nan {x : Binary32} {neg : Bool} {p : ℕ}
    (h : x.unpack = .nan neg p) :
    ofBinary64? (⟨(binary64.assemble neg binary64.topExponent
      ((p * twoPow 29) ||| twoPow 51)).toUInt64⟩ : Binary64) = some x.quiet := by
  obtain ⟨hx, -, hp⟩ := unpack_eq_nan x.bits_lt h
  -- the payload moves up past the quiet bit of the double, and back down
  obtain ⟨hwide0, hwide⟩ := widened_payload hp
  have hnarrow : (p * twoPow 29 ||| twoPow 51) / twoPow 29 ||| twoPow 22 = p ||| twoPow 22 := by
    have h51 : twoPow 51 / twoPow 29 = twoPow 22 := by decide
    rw [show twoPow 29 = 2 ^ 29 from rfl, Nat.or_div_two_pow, ← show twoPow 29 = 2 ^ 29 from rfl,
      Nat.mul_div_cancel _ (twoPow_pos 29), h51, Nat.or_assoc, Nat.or_self]
  obtain ⟨hu, hlt⟩ := unpack_assemble_nan (f := binary64) neg hwide0 hwide
  have hisNaN : x.isNaN = true := by simp [isNaN, h]
  rw [ofBinary64?, Binary64.unpack_ofWord hlt, hu]
  dsimp only
  rw [hnarrow, ← assemble_or neg _ hp (by decide), hx, quiet, if_pos hisNaN]
  congr 2
  apply UInt32.toNat.inj
  rw [UInt32.toNat_or, Nat.toUInt32, UInt32.toNat_ofNat_of_lt']
  · rfl
  · exact Nat.or_lt_two_pow (UInt32.toNat_lt x.bits) (by decide)

/-- Widening a single to a double and narrowing it back gives the single, a NaN made
quiet: the double holds the single's value exactly, or the sign and payload of its NaN. -/
theorem ofBinary64?_toBinary64 (x : Binary32) : ofBinary64? x.toBinary64 = some x.quiet := by
  unfold toBinary64
  split
  · next neg p h => exact ofBinary64?_toBinary64_nan h
  · -- an infinity widens to the infinity of its sign
    next neg h =>
    have hq : x.quiet = x := by simp [quiet, isNaN, h]
    rw [ofBinary64?, Binary64.unpack_infinity, hq]
    dsimp only
    rw [unpack_eq_infinite x.bits_lt h]
    exact congrArg (some ∘ Binary32.mk) UInt32.ofNat_toNat
  · -- a finite single widens exactly, and the exact value narrows back to it
    next neg m q h =>
    have hq : x.quiet = x := by simp [quiet, isNaN, h]
    rw [hq]
    have hc := (unpack_eq_finite x.bits_lt h).1
    have hx := eq_of_unpack_finite h
    have hwide : (if 0 ≤ q then Binary64.ofRatio neg (m * twoPow q.toNat) 1
        else Binary64.ofRatio neg m (twoPow (-q).toNat)) =
          Binary64.ofRatio neg (scaled m q).1 (scaled m q).2 := by
      unfold scaled
      split_ifs <;> rfl
    have hnarrow : ∀ y : Binary64, ∀ m' q', y.unpack = .finite neg m' q' →
        ofBinary64? y = (binary32.round (scaled m' q').1 (scaled m' q').2).map
          fun mq => ⟨(binary32.packFinite neg mq.1 mq.2).toUInt32⟩ := by
      intro y m' q' hy
      simp only [ofBinary64?, hy, scaled]
    rw [hwide]
    rcases Nat.eq_zero_or_pos m with rfl | hm
    · -- zero of either sign
      have hq : q = binary32.minExponent := by
        rcases hc with ⟨_, h⟩ | ⟨h, _, _, _⟩
        · exact h
        · exact absurd h (Nat.not_le.mpr hidden_pos)
      obtain ⟨hu, hlt⟩ := unpack_packFinite binary64_sane neg (f := binary64)
        (.inl ⟨hidden_pos, rfl⟩)
      have hzero (f : BinaryFormat) (den : ℕ) : f.round 0 den = some (0, f.minExponent) := by
        simp [BinaryFormat.round]
      simp only [Binary64.ofRatio, nearest, scaled_zero, hzero]
      rw [hnarrow _ 0 _ (by rw [Binary64.unpack_ofWord hlt, hu]), scaled_zero, hzero,
        Option.map_some, ← hx, hq]
    · -- a positive value: exact in the wider format, and exact again back in this one
      obtain ⟨m', q', hc', hm', hv⟩ := canonical64_of_canonical32 hc hm
      obtain ⟨hu, hlt⟩ := unpack_packFinite binary64_sane neg hc'
      have hround := round_exact binary64_sane hc' hm' (scaled_num_pos hm q) (scaled_den_pos m q)
        ((scaled_value m q).trans hv.symm)
      have hround' := round_exact binary32_sane hc hm (scaled_num_pos hm' q') (scaled_den_pos m' q')
        ((scaled_value m' q').trans hv)
      simp only [Binary64.ofRatio, nearest, hround]
      rw [hnarrow _ m' q' (by rw [Binary64.unpack_ofWord hlt, hu]), hround', Option.map_some]
      exact congrArg some hx

theorem isNaN_toBinary64 (x : Binary32) : x.toBinary64.isNaN = x.isNaN := by
  cases hx : x.isNaN
  · -- a number or an infinity: its double narrows back to it, so it is no NaN
    by_contra hy
    have hq : x.quiet = x := by simp [quiet, hx]
    have := isNaN_of_ofBinary64? (Bool.not_eq_false _ ▸ hy) (ofBinary64?_toBinary64 x)
    rw [hq, hx] at this
    contradiction
  · unfold isNaN at hx
    split at hx
    · next neg p h => simp [Binary64.isNaN, unpack_toBinary64_nan h]
    · contradiction

/-- A NaN made the canonical quiet NaN, without payload and with a clear sign; every other
single unchanged. This is what a single becomes when its text has one token for every
NaN. -/
def canon (x : Binary32) : Binary32 := if x.isNaN then ⟨0x7fc00000⟩ else x

theorem toBinary64_canonNaN : (⟨0x7fc00000⟩ : Binary32).toBinary64 = Binary64.nan := by
  decide

theorem quiet_canon (x : Binary32) : x.canon.quiet = x.canon := by
  unfold canon
  split
  · decide
  · simp [quiet, *]

theorem canon_of_isNaN_eq_false {x : Binary32} (hx : x.isNaN = false) : x.canon = x := by
  simp [canon, hx]

end Binary32

end VirtualMocap
