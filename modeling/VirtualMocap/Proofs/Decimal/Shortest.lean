import VirtualMocap.Decimal.Shortest
import VirtualMocap.Proofs.Number.Rounding

/-!
# Shortest decimal digits read back

The digits `Decimal.shortest` finds for a positive finite double denote a decimal in its
rounding interval (`Decimal.shortest_roundsTo`). Every test of the search is an exact
comparison (`compareScaled_eq`), and the search returns: from seventeen digits on one
neighbour of the value falls inside the interval (`grid_hits`).
-/

namespace VirtualMocap

theorem cast_tenPow (k : ℕ) : ((tenPow k : ℕ) : ℚ) = 10 ^ k := by
  simp [tenPow, Nat.pow_eq]

theorem tenPow_pos (k : ℕ) : 0 < tenPow k := Nat.pow_pos (by norm_num)

theorem ten_zpow_eq (e : ℤ) : (10 : ℚ) ^ e = (tenPow e.toNat : ℚ) / tenPow (-e).toNat := by
  rw [cast_tenPow, cast_tenPow]
  rcases le_total 0 e with he | he
  · rw [Int.toNat_of_nonpos (show -e ≤ 0 by omega), pow_zero, div_one, ← zpow_natCast,
      Int.toNat_of_nonneg he]
  · rw [Int.toNat_of_nonpos he, pow_zero, one_div, ← zpow_natCast,
      Int.toNat_of_nonneg (show 0 ≤ -e by omega), zpow_neg, inv_inv]

namespace BinaryFormat

variable {f : BinaryFormat}

theorem roundsTo_of_lt {m : ℕ} {q : ℤ} {r : ℚ} (hlo : ((m : ℚ) - f.lowerGap m q) * 2 ^ q < r)
    (hhi : r < ((m : ℚ) + 1 / 2) * 2 ^ q) : f.RoundsTo m q r := by
  unfold RoundsTo
  split_ifs
  · exact ⟨hlo.le, hhi.le⟩
  · exact ⟨hlo, hhi⟩

theorem roundsTo_of_grid {m : ℕ} {q : ℤ} {a s : ℚ}
    (hs : s < (f.lowerGap m q + 1 / 2) * 2 ^ q) (ha : a ≤ m * 2 ^ q)
    (has : (m : ℚ) * 2 ^ q < a + s) : f.RoundsTo m q a ∨ f.RoundsTo m q (a + s) := by
  have h2q : (0 : ℚ) < 2 ^ q := by positivity
  by_cases hnear : (m : ℚ) * 2 ^ q - a < f.lowerGap m q * 2 ^ q
  · -- the point below is within the lower half-width
    left
    exact roundsTo_of_lt (by linarith) (by linarith)
  · -- otherwise the point above is within the upper half-width
    right
    rw [not_lt] at hnear
    exact roundsTo_of_lt (by nlinarith [lowerGap_pos (f := f) m q]) (by linarith)

theorem canonical64_bounds {m : ℕ} {q : ℤ} (hc : binary64.Canonical m q) :
    m < 2 ^ 53 ∧ -1074 ≤ q ∧ q ≤ 971 := by
  have h := show 2 * binary64.hidden = 2 ^ 53 by decide
  rw [← show binary64.minExponent = -1074 by decide, ← show binary64.maxExponent = 971 by decide]
  rcases hc with ⟨hlt, rfl⟩ | ⟨-, hlt, h1, h2⟩
  · exact ⟨by omega, le_rfl, by decide⟩
  · exact ⟨by omega, h1, h2⟩

end BinaryFormat

namespace Decimal

open BinaryFormat

/-! ## Exact comparisons -/

theorem compare_eq_of_iff {a b : ℕ} {x y : ℚ} (hlt : a < b ↔ x < y) (heq : a = b ↔ x = y) :
    compare a b = compare x y := by
  rcases lt_trichotomy a b with h | h | h
  · rw [Nat.compare_eq_lt.2 h, compare_lt_iff_lt.2 (hlt.1 h)]
  · rw [Nat.compare_eq_eq.2 h, compare_eq_iff_eq.2 (heq.1 h)]
  · have hyx : y < x := by
      rcases lt_trichotomy x y with h' | h' | h'
      · exact absurd (hlt.2 h') (by omega)
      · exact absurd (heq.2 h') (by omega)
      · exact h'
    rw [Nat.compare_eq_gt.2 h, compare_gt_iff_gt.2 hyx]

/-- `compareScaled a e b f` compares `a · 10^e` with `b · 2^f`. -/
theorem compareScaled_eq (a : ℕ) (e : ℤ) (b : ℕ) (f : ℤ) :
    compareScaled a e b f = compare ((a : ℚ) * 10 ^ e) ((b : ℚ) * 2 ^ f) := by
  -- both products are the rationals scaled by `10^(-e) · 2^(-f)`, made naturals
  set S : ℚ := (tenPow (-e).toNat : ℚ) * twoPow (-f).toNat with hS
  have hSpos : 0 < S := mul_pos (by exact_mod_cast tenPow_pos _) (by exact_mod_cast twoPow_pos _)
  have hten : (0 : ℚ) < tenPow (-e).toNat := by exact_mod_cast tenPow_pos _
  have htwo : (0 : ℚ) < twoPow (-f).toNat := by exact_mod_cast twoPow_pos _
  have hA : ((a * tenPow e.toNat * twoPow (-f).toNat : ℕ) : ℚ) = a * 10 ^ e * S := by
    rw [ten_zpow_eq, hS]
    push_cast
    field_simp
  have hB : ((b * twoPow f.toNat * tenPow (-e).toNat : ℕ) : ℚ) = b * 2 ^ f * S := by
    rw [two_zpow_eq, hS]
    push_cast
    field_simp
  unfold compareScaled
  apply compare_eq_of_iff
  · rw [← Nat.cast_lt (α := ℚ), hA, hB]
    exact mul_lt_mul_iff_of_pos_right hSpos
  · rw [← Nat.cast_inj (R := ℚ), hA, hB]
    exact mul_left_inj' hSpos.ne'

/-! ## The interval the search tests -/

theorem above_iff (closed : Bool) (u v : ℚ) :
    (compare v u == .gt || (closed && compare v u == .eq)) = true ↔
      if closed then u ≤ v else u < v := by
  cases closed
  · simp [compare_gt_iff_gt]
  · simp only [beq_iff_eq, compare_gt_iff_gt, compare_eq_iff_eq, Bool.true_and,
      Bool.or_eq_true, if_true]
    rw [le_iff_lt_or_eq, eq_comm]

theorem below_iff (closed : Bool) (v w : ℚ) :
    (compare v w == .lt || (closed && compare v w == .eq)) = true ↔
      if closed then v ≤ w else v < w := by
  cases closed
  · simp [compare_lt_iff_lt]
  · simp only [beq_iff_eq, compare_lt_iff_lt, compare_eq_iff_eq, Bool.true_and,
      Bool.or_eq_true, if_true]
    rw [le_iff_lt_or_eq]

theorem Interval.low_value {m : ℕ} (hm : 0 < m) (q : ℤ) :
    ((Interval.of m q).low : ℚ) * 2 ^ (q - 2) = ((m : ℚ) - binary64.lowerGap m q) * 2 ^ q := by
  have hsplit : (2 : ℚ) ^ (q - 2) = 2 ^ q / 4 := by
    rw [zpow_sub₀ (by norm_num)]
    norm_num
  have hgap : (m = twoPow 52 ∧ q > -1074) ↔ (m = binary64.hidden ∧ binary64.minExponent < q) := by
    rw [show binary64.hidden = twoPow 52 from rfl, show binary64.minExponent = -1074 by decide]
  simp only [Interval.of, lowerGap, hsplit]
  split_ifs with h1 h2 h2
  · rw [Nat.cast_sub (by omega)]
    push_cast
    ring
  · exact absurd (hgap.1 h1) h2
  · exact absurd (hgap.2 h2) h1
  · rw [Nat.cast_sub (by omega)]
    push_cast
    ring

theorem Interval.high_value (m : ℕ) (q : ℤ) :
    ((Interval.of m q).high : ℚ) * 2 ^ (q - 2) = ((m : ℚ) + 1 / 2) * 2 ^ q := by
  rw [zpow_sub₀ (by norm_num)]
  simp only [Interval.of]
  push_cast
  ring

/-- The search's test of a decimal `c · 10^e` is membership in the rounding interval of
the positive double `m · 2^q`. -/
theorem Interval.contains_iff {m : ℕ} (hm : 0 < m) (q : ℤ) (c : ℕ) (e : ℤ) :
    (Interval.of m q).contains q c e = true ↔ binary64.RoundsTo m q (c * 10 ^ e) := by
  simp only [Interval.contains, compareScaled_eq, Bool.and_eq_true, above_iff, below_iff,
    Interval.low_value hm, Interval.high_value, RoundsTo]
  simp only [Interval.of, decide_eq_true_eq]
  split_ifs <;> rfl

/-! ## The estimate of the decimal exponent -/

/-- The estimate `⌊L · 0.30103⌋` of `⌊log₁₀ 2^L⌋`, lowered by one, is at most it over the
binary exponents of doubles. Above zero, `2^196 ≥ 10^59` bounds `log₁₀ 2` from below
closely enough; below zero, `2^93 ≤ 10^28` from above. -/
theorem guess_le {L : ℤ} (hlo : -1074 ≤ L) (hhi : L ≤ 1023) :
    (10 : ℚ) ^ (Int.fdiv (L * 30103) 100000 - 1) ≤ 2 ^ L := by
  rw [Int.fdiv_eq_ediv_of_nonneg _ (by norm_num)]
  rcases le_or_gt 0 L with hL | hL
  · -- `L = l ≥ 0`: compare `196`-th powers
    obtain ⟨l, rfl⟩ := Int.eq_ofNat_of_zero_le hL
    have hg : (l : ℤ) * 30103 / 100000 = ((l * 30103 / 100000 : ℕ) : ℤ) := by omega
    rw [hg]
    set g := l * 30103 / 100000 with hgdef
    rcases Nat.eq_zero_or_pos g with hg0 | hgpos
    · rw [hg0]
      calc (10 : ℚ) ^ ((0 : ℕ) - 1 : ℤ) ≤ 1 := by norm_num
        _ ≤ 2 ^ (l : ℤ) := one_le_zpow₀ (by norm_num) (by omega)
    · have hnat : 10 ^ (g - 1) ≤ 2 ^ l := by
        rw [← Nat.pow_le_pow_iff_left (show 196 ≠ 0 by norm_num), ← Nat.pow_mul,
          ← Nat.pow_mul, Nat.mul_comm l, Nat.pow_mul 2]
        calc 10 ^ ((g - 1) * 196) ≤ 10 ^ (59 * l) := Nat.pow_le_pow_right (by norm_num) (by omega)
          _ = (10 ^ 59) ^ l := Nat.pow_mul _ _ _
          _ ≤ (2 ^ 196) ^ l := Nat.pow_le_pow_left (by norm_num) l
      have hcast : ((g : ℤ) - 1) = ((g - 1 : ℕ) : ℤ) := by omega
      rw [hcast, zpow_natCast, zpow_natCast]
      exact_mod_cast hnat
  · -- `L = -K < 0`: compare `93`-th powers of `2^K` and `10^(1 - guess)`
    obtain ⟨K, hK⟩ := Int.eq_ofNat_of_zero_le (show 0 ≤ -L by omega)
    set G := (K * 30103 + 99999) / 100000 with hGdef
    have hg : L * 30103 / 100000 - 1 = -((G + 1 : ℕ) : ℤ) := by omega
    have hnat : 2 ^ K ≤ 10 ^ (G + 1) := by
      rw [← Nat.pow_le_pow_iff_left (show 93 ≠ 0 by norm_num), ← Nat.pow_mul,
        ← Nat.pow_mul, Nat.mul_comm K, Nat.pow_mul 2]
      calc (2 ^ 93) ^ K ≤ (10 ^ 28) ^ K := Nat.pow_le_pow_left (by norm_num) K
        _ = 10 ^ (28 * K) := (Nat.pow_mul _ _ _).symm
        _ ≤ 10 ^ ((G + 1) * 93) := Nat.pow_le_pow_right (by norm_num) (by omega)
    have hL' : L = -(K : ℤ) := by omega
    rw [hg, hL', zpow_neg, zpow_neg, zpow_natCast, zpow_natCast]
    apply inv_anti₀ (by positivity)
    exact_mod_cast hnat

/-- The exponent the search starts from is at most `⌊log₁₀ (m · 2^q)⌋`. -/
theorem floorLog10_le {m : ℕ} {q : ℤ} (hc : binary64.Canonical m q) (hm : 0 < m) :
    (10 : ℚ) ^ floorLog10 m q ≤ m * 2 ^ q := by
  obtain ⟨hm53, hq⟩ := canonical64_bounds hc
  have hlog : m.log2 ≤ 52 := by
    have := (Nat.log2_lt (Nat.pos_iff_ne_zero.1 hm)).2 hm53
    omega
  have hlead : (2 : ℚ) ^ ((m.log2 : ℤ) + q) ≤ m * 2 ^ q := by
    rw [zpow_add₀ (by norm_num), zpow_natCast]
    have : ((2 ^ m.log2 : ℕ) : ℚ) ≤ m := by exact_mod_cast Nat.log2_self_le (Nat.pos_iff_ne_zero.1 hm)
    push_cast at this
    exact mul_le_mul_of_nonneg_right this (by positivity)
  unfold floorLog10
  simp only [compareScaled_eq, Nat.cast_one, one_mul]
  split_ifs with h1 h2
  · -- the next power of ten is still below the value
    simpa [bne_iff_ne, ne_eq, compare_gt_iff_gt, not_lt] using h1
  · -- the estimate was too large by one, which `guess_le` allows for
    exact (guess_le (by omega) (by omega)).trans hlead
  · simpa [compare_gt_iff_gt, not_lt] using h2

/-! ## The search -/

theorem neighbours_spec (m : ℕ) (q n : ℤ) (k : ℕ) :
    (neighbours m q n k).2.1 = (neighbours m q n k).1 + 1 ∧
      (neighbours m q n k).2.2 = n - k + 1 ∧
      ((neighbours m q n k).1 : ℚ) * 10 ^ (n - k + 1) ≤ m * 2 ^ q ∧
      (m : ℚ) * 2 ^ q < ((neighbours m q n k).1 + 1) * 10 ^ (n - k + 1) := by
  set e := n - k + 1 with he
  set N := m * twoPow q.toNat * tenPow (-e).toNat with hN
  set D := twoPow (-q).toNat * tenPow e.toNat with hD
  have hDpos : (0 : ℚ) < D := by
    rw [hD]
    push_cast
    exact mul_pos (by exact_mod_cast twoPow_pos _) (by exact_mod_cast tenPow_pos _)
  have h10 : (0 : ℚ) < 10 ^ e := by positivity
  -- `N / D` is the value on the grid's scale
  have hscale : (N : ℚ) / D = m * 2 ^ q / 10 ^ e := by
    rw [two_zpow_eq, ten_zpow_eq, hN, hD]
    have : (0 : ℚ) < twoPow (-q).toNat := by exact_mod_cast twoPow_pos _
    have : (0 : ℚ) < tenPow (-e).toNat := by exact_mod_cast tenPow_pos _
    have : (0 : ℚ) < tenPow e.toNat := by exact_mod_cast tenPow_pos _
    push_cast
    field_simp
  have hfloor : ((N / D : ℕ) : ℚ) ≤ N / D ∧ (N : ℚ) / D < (N / D : ℕ) + 1 := by
    constructor
    · rw [le_div_iff₀ hDpos]
      exact_mod_cast Nat.div_mul_le_self N D
    · rw [div_lt_iff₀ hDpos]
      have h : N < (N / D + 1) * D := by
        rw [Nat.add_mul, Nat.one_mul]
        exact Nat.lt_div_mul_add (Nat.cast_pos.1 hDpos)
      exact_mod_cast h
  refine ⟨rfl, rfl, ?_, ?_⟩
  · have h := hfloor.1
    rw [hscale, le_div_iff₀ h10] at h
    exact h
  · have h := hfloor.2
    rw [hscale, div_lt_iff₀ h10] at h
    exact h

/-- From seventeen digits on, one of the two neighbours lies in the rounding interval:
the grid step is at most the value over `10^16`, shorter than the interval is wide. -/
theorem grid_hits {m : ℕ} {q : ℤ} (hc : binary64.Canonical m q) (hm : 0 < m) {n : ℤ}
    (hn : (10 : ℚ) ^ n ≤ m * 2 ^ q) {k : ℕ} (hk : 17 ≤ k) :
    (Interval.of m q).contains q (neighbours m q n k).1 (neighbours m q n k).2.2 = true ∨
      (Interval.of m q).contains q (neighbours m q n k).2.1 (neighbours m q n k).2.2 = true := by
  obtain ⟨hhi, he, hbelow, habove⟩ := neighbours_spec m q n k
  rw [he, hhi, Interval.contains_iff hm, Interval.contains_iff hm]
  have h2q : (0 : ℚ) < 2 ^ q := by positivity
  -- the step is at most the value over `10^16`
  have hstep : (10 : ℚ) ^ (n - k + 1) * 10 ^ 16 ≤ m * 2 ^ q := by
    calc (10 : ℚ) ^ (n - k + 1) * 10 ^ 16 = 10 ^ (n - k + 1 + 16) := by
          rw [zpow_add₀ (by norm_num : (10 : ℚ) ≠ 0) (n - k + 1) 16]
          norm_num
      _ ≤ 10 ^ n := zpow_le_zpow_right₀ (by norm_num) (by omega)
      _ ≤ m * 2 ^ q := hn
  -- and the value over `10^16` is less than the width of the interval
  have hwidth : (m : ℚ) * 2 ^ q < (binary64.lowerGap m q + 1 / 2) * 2 ^ q * 10 ^ 16 := by
    have hm53 : (m : ℚ) < 2 ^ 53 := by exact_mod_cast (canonical64_bounds hc).1
    unfold lowerGap
    split_ifs with hgap
    · rw [hgap.1, show binary64.hidden = 2 ^ 52 by decide]
      push_cast
      nlinarith
    · nlinarith
  have hs : (10 : ℚ) ^ (n - k + 1) < (binary64.lowerGap m q + 1 / 2) * 2 ^ q := by
    nlinarith
  have h := roundsTo_of_grid hs hbelow (by linarith)
  push_cast
  rcases h with h | h
  · exact .inl h
  · right
    convert h using 1
    ring

theorem search_sound {m : ℕ} {q : ℤ} {I : Interval} {n : ℤ} {c : ℕ} {e : ℤ} :
    ∀ {fuel k : ℕ}, search m q I n fuel k = some (c, e) → I.contains q c e = true := by
  intro fuel
  induction fuel with
  | zero => intro k h; simp [search] at h
  | succ fuel ih =>
    intro k h
    rcases hN : neighbours m q n k with ⟨lo, hi, e'⟩
    rw [search, hN] at h
    dsimp only at h
    cases hlo : I.contains q lo e' <;> cases hhi : I.contains q hi e' <;>
      simp only [hlo, hhi] at h
    · exact ih h
    · obtain ⟨rfl, rfl⟩ := Prod.mk.inj (Option.some.inj h).symm
      exact hhi
    · obtain ⟨rfl, rfl⟩ := Prod.mk.inj (Option.some.inj h).symm
      exact hlo
    · -- both neighbours inside: the nearer one, or the even one at a tie
      split at h <;> obtain ⟨rfl, rfl⟩ := Prod.mk.inj (Option.some.inj h).symm
      · exact hlo
      · exact hhi
      · split_ifs
        · exact hlo
        · exact hhi

theorem search_isSome {m : ℕ} {q : ℤ} {I : Interval} {n : ℤ}
    (hgrid : ∀ k, 17 ≤ k → I.contains q (neighbours m q n k).1 (neighbours m q n k).2.2 = true ∨
      I.contains q (neighbours m q n k).2.1 (neighbours m q n k).2.2 = true) :
    ∀ fuel k, 17 ≤ k + fuel → (search m q I n (fuel + 1) k).isSome := by
  intro fuel
  induction fuel with
  | zero =>
    intro k hk
    rcases hN : neighbours m q n k with ⟨lo, hi, e⟩
    have hhit := hgrid k (by omega)
    rw [hN] at hhit
    rw [search, hN]
    dsimp only
    rcases hhit with hlo | hhi
    · rw [hlo]
      cases I.contains q hi e <;> simp only [Option.isSome_some]
      split <;> rfl
    · rw [hhi]
      cases I.contains q lo e <;> simp only [Option.isSome_some]
      split <;> rfl
  | succ fuel ih =>
    intro k hk
    rcases hN : neighbours m q n k with ⟨lo, hi, e⟩
    rw [search, hN]
    dsimp only
    cases I.contains q lo e <;> cases I.contains q hi e
    · exact ih (k + 1) (by omega)
    · rfl
    · rfl
    · dsimp only
      split <;> rfl

theorem trimZeros_value : ∀ (fuel c : ℕ) (e : ℤ),
    ((trimZeros fuel c e).1 : ℚ) * 10 ^ (trimZeros fuel c e).2 = c * 10 ^ e ∧
      (0 < c → 0 < (trimZeros fuel c e).1)
  | 0, c, e => ⟨rfl, id⟩
  | fuel + 1, c, e => by
    rw [trimZeros]
    split_ifs with h
    · obtain ⟨hv, hp⟩ := trimZeros_value fuel (c / 10) (e + 1)
      refine ⟨?_, fun _ => hp (by omega)⟩
      rw [hv, zpow_add₀ (by norm_num)]
      have hc : (c : ℚ) = (c / 10 : ℕ) * 10 := by exact_mod_cast (Nat.div_mul_cancel (by omega)).symm
      rw [hc]
      ring
    · exact ⟨rfl, id⟩

/-- The shortest digits of a positive finite double: a positive significand whose decimal
lies in the double's rounding interval. -/
theorem shortest_roundsTo {m : ℕ} {q : ℤ} (hc : binary64.Canonical m q) (hm : 0 < m) :
    0 < (shortest m q).1 ∧
      binary64.RoundsTo m q ((shortest m q).1 * 10 ^ (shortest m q).2) := by
  have hsome := search_isSome (I := Interval.of m q)
    (fun k hk => grid_hits hc hm (floorLog10_le hc hm) hk) 16 1 (by omega)
  obtain ⟨⟨c, e⟩, hce⟩ := Option.isSome_iff_exists.1 hsome
  have hin := (Interval.contains_iff hm q c e).1 (search_sound hce)
  have hcpos : 0 < c := by
    have hlow := hin.bounds.1
    have hgap := lowerGap_le_half (f := binary64) m q
    have h1 : (1 : ℚ) ≤ m := by exact_mod_cast hm
    have hpos : (0 : ℚ) < (c : ℚ) * 10 ^ e := by
      have : (0 : ℚ) < ((m : ℚ) - binary64.lowerGap m q) * 2 ^ q :=
        mul_pos (by linarith) (by positivity)
      linarith
    rcases Nat.eq_zero_or_pos c with rfl | h
    · simp at hpos
    · exact h
  obtain ⟨hv, hp⟩ := trimZeros_value 20 c e
  unfold shortest
  simp only [hce]
  exact ⟨hp hcpos, hv ▸ hin⟩

end Decimal

end VirtualMocap
