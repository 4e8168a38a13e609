import VirtualMocap.Text.Utf8
import Mathlib

/-!
# Strict UTF-8 reads back what UTF-8 writes

`Text.decodeUtf8` undoes `Text.encodeUtf8` (`decodeUtf8_of_encodeUtf8`) and accepts
nothing else: what it reads is the UTF-8 of what it gives (`decodeUtf8Onto_sound`). Both
rest on one step per length of character in each direction.
-/

namespace VirtualMocap.Text

/-! ## Bytes as numbers -/

theorem toNat_byte {n : Nat} (h : n < 256) : (UInt8.ofNat n).toNat = n :=
  UInt8.toNat_ofNat_of_lt' h

theorem toNat_and_mask (b : UInt8) (k : Nat) (hk : k ≤ 8) :
    (b &&& UInt8.ofNat (2 ^ k - 1)).toNat = b.toNat % 2 ^ k := by
  have hpow : 2 ^ k ≤ 2 ^ 8 := Nat.pow_le_pow_right (by decide) hk
  rw [UInt8.toNat_and, toNat_byte (by omega)]
  exact Nat.and_two_pow_sub_one_eq_mod b.toNat k

theorem low6_eq (b : UInt8) : low6 b = b.toNat % 64 := toNat_and_mask b 6 (by decide)

theorem toNat_and_1F (b : UInt8) : (b &&& 0x1F).toNat = b.toNat % 32 :=
  toNat_and_mask b 5 (by decide)

theorem toNat_and_0F (b : UInt8) : (b &&& 0x0F).toNat = b.toNat % 16 :=
  toNat_and_mask b 4 (by decide)

theorem toNat_and_07 (b : UInt8) : (b &&& 0x07).toNat = b.toNat % 8 :=
  toNat_and_mask b 3 (by decide)

set_option maxRecDepth 4000 in
theorem isContinuation_iff (b : UInt8) : isContinuation b = true ↔ b.toNat / 64 = 2 := by
  have h : ∀ n < 256, isContinuation (UInt8.ofNat n) = decide (n / 64 = 2) := by decide
  have hb := h b.toNat b.toNat_lt
  rw [UInt8.ofNat_toNat] at hb
  simp [hb]

theorem secondOfThree_iff (b1 b2 : UInt8) : secondOfThree b1 b2 = true ↔
    b2.toNat / 64 = 2 ∧ (b1.toNat = 0xE0 → 0xA0 ≤ b2.toNat) ∧
      (b1.toNat = 0xED → b2.toNat < 0xA0) := by
  unfold secondOfThree
  rw [← isContinuation_iff]
  by_cases h0 : b1.toNat = 0xE0
  · obtain rfl : b1 = 0xE0 := UInt8.toNat_inj.mp (by simpa using h0)
    simp [UInt8.le_iff_toNat_le]
  · by_cases h1 : b1.toNat = 0xED
    · obtain rfl : b1 = 0xED := UInt8.toNat_inj.mp (by simpa using h1)
      simp [UInt8.lt_iff_toNat_lt]
    · have n0 : (b1 == 0xE0) = false := by simp [← UInt8.toNat_inj]; omega
      have n1 : (b1 == 0xED) = false := by simp [← UInt8.toNat_inj]; omega
      simp [n0, n1, h0, h1]

theorem secondOfFour_iff (b1 b2 : UInt8) : secondOfFour b1 b2 = true ↔
    b2.toNat / 64 = 2 ∧ (b1.toNat = 0xF0 → 0x90 ≤ b2.toNat) ∧
      (b1.toNat = 0xF4 → b2.toNat < 0x90) := by
  unfold secondOfFour
  rw [← isContinuation_iff]
  by_cases h0 : b1.toNat = 0xF0
  · obtain rfl : b1 = 0xF0 := UInt8.toNat_inj.mp (by simpa using h0)
    simp [UInt8.le_iff_toNat_le]
  · by_cases h1 : b1.toNat = 0xF4
    · obtain rfl : b1 = 0xF4 := UInt8.toNat_inj.mp (by simpa using h1)
      simp [UInt8.lt_iff_toNat_lt]
    · have n0 : (b1 == 0xF0) = false := by simp [← UInt8.toNat_inj]; omega
      have n1 : (b1 == 0xF4) = false := by simp [← UInt8.toNat_inj]; omega
      simp [n0, n1, h0, h1]

/-! ## One character of the decoder -/

section Steps

variable {rest : List UInt8} {pos : Nat} {acc : List Char}

theorem decodeUtf8Onto_one {b1 : UInt8} (h1 : b1.toNat < 0x80) :
    decodeUtf8Onto (b1 :: rest) pos acc =
      decodeUtf8Onto rest (pos + 1) (Char.ofNat b1.toNat :: acc) := by
  rw [decodeUtf8Onto.eq_def]
  have p1 : b1 < 0x80 := by rw [UInt8.lt_iff_toNat_lt]; simpa using h1
  simp only [if_pos p1]

theorem decodeUtf8Onto_two {b1 b2 : UInt8} (h1 : 0xC2 ≤ b1.toNat) (h1' : b1.toNat < 0xE0)
    (h2 : isContinuation b2 = true) :
    decodeUtf8Onto (b1 :: b2 :: rest) pos acc =
      decodeUtf8Onto rest (pos + 2) (Char.ofNat ((b1 &&& 0x1F).toNat * 64 + low6 b2) :: acc) := by
  rw [decodeUtf8Onto.eq_def]
  have n1 : ¬ b1 < 0x80 := by rw [UInt8.lt_iff_toNat_lt]; simp; omega
  have n2 : ¬ b1 < 0xC2 := by rw [UInt8.lt_iff_toNat_lt]; simp; omega
  have p3 : b1 < 0xE0 := by rw [UInt8.lt_iff_toNat_lt]; simpa using h1'
  simp only [if_neg n1, if_neg n2, if_pos p3, h2, if_true]

theorem decodeUtf8Onto_three {b1 b2 b3 : UInt8} (h1 : 0xE0 ≤ b1.toNat) (h1' : b1.toNat < 0xF0)
    (h2 : secondOfThree b1 b2 = true) (h3 : isContinuation b3 = true) :
    decodeUtf8Onto (b1 :: b2 :: b3 :: rest) pos acc =
      decodeUtf8Onto rest (pos + 3)
        (Char.ofNat ((b1 &&& 0x0F).toNat * 4096 + low6 b2 * 64 + low6 b3) :: acc) := by
  rw [decodeUtf8Onto.eq_def]
  have n1 : ¬ b1 < 0x80 := by rw [UInt8.lt_iff_toNat_lt]; simp; omega
  have n2 : ¬ b1 < 0xC2 := by rw [UInt8.lt_iff_toNat_lt]; simp; omega
  have n3 : ¬ b1 < 0xE0 := by rw [UInt8.lt_iff_toNat_lt]; simp; omega
  have p4 : b1 < 0xF0 := by rw [UInt8.lt_iff_toNat_lt]; simpa using h1'
  simp only [if_neg n1, if_neg n2, if_neg n3, if_pos p4, h2, h3, Bool.not_true,
    Bool.false_eq_true, if_false]

theorem decodeUtf8Onto_four {b1 b2 b3 b4 : UInt8} (h1 : 0xF0 ≤ b1.toNat) (h1' : b1.toNat < 0xF5)
    (h2 : secondOfFour b1 b2 = true) (h3 : isContinuation b3 = true)
    (h4 : isContinuation b4 = true) :
    decodeUtf8Onto (b1 :: b2 :: b3 :: b4 :: rest) pos acc =
      decodeUtf8Onto rest (pos + 4)
        (Char.ofNat ((b1 &&& 0x07).toNat * 262144 + low6 b2 * 4096 + low6 b3 * 64 + low6 b4)
          :: acc) := by
  rw [decodeUtf8Onto.eq_def]
  have n1 : ¬ b1 < 0x80 := by rw [UInt8.lt_iff_toNat_lt]; simp; omega
  have n2 : ¬ b1 < 0xC2 := by rw [UInt8.lt_iff_toNat_lt]; simp; omega
  have n3 : ¬ b1 < 0xE0 := by rw [UInt8.lt_iff_toNat_lt]; simp; omega
  have n4 : ¬ b1 < 0xF0 := by rw [UInt8.lt_iff_toNat_lt]; simp; omega
  have p5 : b1 < 0xF5 := by rw [UInt8.lt_iff_toNat_lt]; simpa using h1'
  simp only [if_neg n1, if_neg n2, if_neg n3, if_neg n4, if_pos p5, h2, h3, h4, Bool.not_true,
    Bool.false_eq_true, if_false]

end Steps

/-! ## One character of the encoder -/

section Encoder

variable {c : Char}

theorem utf8EncodeChar_one (h : c.toNat < 0x80) :
    String.utf8EncodeChar c = [UInt8.ofNat c.toNat] := by
  have h1 : c.val.toNat ≤ 0x7f := Nat.le_of_lt_succ h
  simp only [String.utf8EncodeChar]
  rw [if_pos h1]
  rfl

theorem utf8EncodeChar_two (h1 : 0x80 ≤ c.toNat) (h2 : c.toNat < 0x800) :
    String.utf8EncodeChar c =
      [UInt8.ofNat (c.toNat / 64 % 32 + 0xC0), UInt8.ofNat (c.toNat % 64 + 0x80)] := by
  have n1 : ¬ c.val.toNat ≤ 0x7f := by simp only [Char.toNat] at h1; omega
  have p2 : c.val.toNat ≤ 0x7ff := by simp only [Char.toNat] at h2; omega
  simp only [String.utf8EncodeChar]
  rw [if_neg n1, if_pos p2]
  rfl

theorem utf8EncodeChar_three (h1 : 0x800 ≤ c.toNat) (h2 : c.toNat < 0x10000) :
    String.utf8EncodeChar c =
      [UInt8.ofNat (c.toNat / 4096 % 16 + 0xE0), UInt8.ofNat (c.toNat / 64 % 64 + 0x80),
        UInt8.ofNat (c.toNat % 64 + 0x80)] := by
  have n1 : ¬ c.val.toNat ≤ 0x7f := by simp only [Char.toNat] at h1; omega
  have n2 : ¬ c.val.toNat ≤ 0x7ff := by simp only [Char.toNat] at h1; omega
  have p3 : c.val.toNat ≤ 0xffff := by simp only [Char.toNat] at h2; omega
  simp only [String.utf8EncodeChar]
  rw [if_neg n1, if_neg n2, if_pos p3]
  rfl

theorem utf8EncodeChar_four (h1 : 0x10000 ≤ c.toNat) :
    String.utf8EncodeChar c =
      [UInt8.ofNat (c.toNat / 262144 % 8 + 0xF0), UInt8.ofNat (c.toNat / 4096 % 64 + 0x80),
        UInt8.ofNat (c.toNat / 64 % 64 + 0x80), UInt8.ofNat (c.toNat % 64 + 0x80)] := by
  have n1 : ¬ c.val.toNat ≤ 0x7f := by simp only [Char.toNat] at h1; omega
  have n2 : ¬ c.val.toNat ≤ 0x7ff := by simp only [Char.toNat] at h1; omega
  have n3 : ¬ c.val.toNat ≤ 0xffff := by simp only [Char.toNat] at h1; omega
  simp only [String.utf8EncodeChar]
  rw [if_neg n1, if_neg n2, if_neg n3]
  rfl

end Encoder

/-! ## Reading back what was written -/

theorem toNat_lt_of_valid (c : Char) :
    c.toNat < 0xd800 ∨ (0xdfff < c.toNat ∧ c.toNat < 0x110000) := c.valid

theorem decodeUtf8Onto_utf8EncodeChar (c : Char) (rest : List UInt8) (pos : Nat)
    (acc : List Char) :
    decodeUtf8Onto (String.utf8EncodeChar c ++ rest) pos acc =
      decodeUtf8Onto rest (pos + (String.utf8EncodeChar c).length) (c :: acc) := by
  have hv := toNat_lt_of_valid c
  -- one case per length of the written form; each byte is a number below 256
  by_cases h1 : c.toNat < 0x80
  · rw [utf8EncodeChar_one h1]
    have hb : (UInt8.ofNat c.toNat).toNat = c.toNat := toNat_byte (by omega)
    rw [List.cons_append, List.nil_append, decodeUtf8Onto_one (by rw [hb]; exact h1), hb,
      Char.ofNat_toNat]
    rfl
  by_cases h2 : c.toNat < 0x800
  · rw [utf8EncodeChar_two (by omega) h2]
    have hb1 : (UInt8.ofNat (c.toNat / 64 % 32 + 0xC0)).toNat = c.toNat / 64 % 32 + 0xC0 :=
      toNat_byte (by omega)
    have hb2 : (UInt8.ofNat (c.toNat % 64 + 0x80)).toNat = c.toNat % 64 + 0x80 :=
      toNat_byte (by omega)
    have hn : (UInt8.ofNat (c.toNat / 64 % 32 + 0xC0) &&& 0x1F).toNat * 64 +
        low6 (UInt8.ofNat (c.toNat % 64 + 0x80)) = c.toNat := by
      rw [toNat_and_1F, low6_eq, hb1, hb2]
      omega
    rw [List.cons_append, List.cons_append, List.nil_append,
      decodeUtf8Onto_two (by rw [hb1]; omega) (by rw [hb1]; omega)
        ((isContinuation_iff _).2 (by rw [hb2]; omega)), hn, Char.ofNat_toNat]
    rfl
  by_cases h3 : c.toNat < 0x10000
  · rw [utf8EncodeChar_three (by omega) h3]
    have hb1 : (UInt8.ofNat (c.toNat / 4096 % 16 + 0xE0)).toNat = c.toNat / 4096 % 16 + 0xE0 :=
      toNat_byte (by omega)
    have hb2 : (UInt8.ofNat (c.toNat / 64 % 64 + 0x80)).toNat = c.toNat / 64 % 64 + 0x80 :=
      toNat_byte (by omega)
    have hb3 : (UInt8.ofNat (c.toNat % 64 + 0x80)).toNat = c.toNat % 64 + 0x80 :=
      toNat_byte (by omega)
    have hn : (UInt8.ofNat (c.toNat / 4096 % 16 + 0xE0) &&& 0x0F).toNat * 4096 +
        low6 (UInt8.ofNat (c.toNat / 64 % 64 + 0x80)) * 64 +
        low6 (UInt8.ofNat (c.toNat % 64 + 0x80)) = c.toNat := by
      rw [toNat_and_0F, low6_eq, low6_eq, hb1, hb2, hb3]
      omega
    -- no overlong form after `E0`, no surrogate after `ED`
    have hs : secondOfThree (UInt8.ofNat (c.toNat / 4096 % 16 + 0xE0))
        (UInt8.ofNat (c.toNat / 64 % 64 + 0x80)) = true := by
      rw [secondOfThree_iff, hb1, hb2]
      omega
    rw [List.cons_append, List.cons_append, List.cons_append, List.nil_append,
      decodeUtf8Onto_three (by rw [hb1]; omega) (by rw [hb1]; omega) hs
        ((isContinuation_iff _).2 (by rw [hb3]; omega)), hn, Char.ofNat_toNat]
    rfl
  · rw [utf8EncodeChar_four (by omega)]
    have hb1 : (UInt8.ofNat (c.toNat / 262144 % 8 + 0xF0)).toNat =
        c.toNat / 262144 % 8 + 0xF0 := toNat_byte (by omega)
    have hb2 : (UInt8.ofNat (c.toNat / 4096 % 64 + 0x80)).toNat = c.toNat / 4096 % 64 + 0x80 :=
      toNat_byte (by omega)
    have hb3 : (UInt8.ofNat (c.toNat / 64 % 64 + 0x80)).toNat = c.toNat / 64 % 64 + 0x80 :=
      toNat_byte (by omega)
    have hb4 : (UInt8.ofNat (c.toNat % 64 + 0x80)).toNat = c.toNat % 64 + 0x80 :=
      toNat_byte (by omega)
    have hn : (UInt8.ofNat (c.toNat / 262144 % 8 + 0xF0) &&& 0x07).toNat * 262144 +
        low6 (UInt8.ofNat (c.toNat / 4096 % 64 + 0x80)) * 4096 +
        low6 (UInt8.ofNat (c.toNat / 64 % 64 + 0x80)) * 64 +
        low6 (UInt8.ofNat (c.toNat % 64 + 0x80)) = c.toNat := by
      rw [toNat_and_07, low6_eq, low6_eq, low6_eq, hb1, hb2, hb3, hb4]
      omega
    -- no overlong form after `F0`, nothing past U+10FFFF after `F4`
    have hs : secondOfFour (UInt8.ofNat (c.toNat / 262144 % 8 + 0xF0))
        (UInt8.ofNat (c.toNat / 4096 % 64 + 0x80)) = true := by
      rw [secondOfFour_iff, hb1, hb2]
      omega
    rw [List.cons_append, List.cons_append, List.cons_append, List.cons_append, List.nil_append,
      decodeUtf8Onto_four (by rw [hb1]; omega) (by rw [hb1]; omega) hs
        ((isContinuation_iff _).2 (by rw [hb3]; omega))
        ((isContinuation_iff _).2 (by rw [hb4]; omega)), hn, Char.ofNat_toNat]
    rfl

theorem decodeUtf8Onto_flatMap (cs : List Char) (pos : Nat) (acc : List Char) :
    decodeUtf8Onto (cs.flatMap String.utf8EncodeChar) pos acc = .ok (acc.reverse ++ cs) := by
  induction cs generalizing pos acc with
  | nil => simp [decodeUtf8Onto]
  | cons c cs ih =>
    rw [List.flatMap_cons, decodeUtf8Onto_utf8EncodeChar, ih]
    simp

/-! ## Nothing read but what was written -/

section Assemble

variable {b1 b2 b3 b4 : UInt8}

theorem utf8EncodeChar_assemble_one (h1 : b1.toNat < 0x80) :
    String.utf8EncodeChar (Char.ofNat b1.toNat) = [b1] := by
  have hn : (Char.ofNat b1.toNat).toNat = b1.toNat := toNat_charOfNat _ (by omega)
  rw [utf8EncodeChar_one (by rw [hn]; exact h1), hn, UInt8.ofNat_toNat]

theorem utf8EncodeChar_assemble_two (h1 : 0xC2 ≤ b1.toNat) (h1' : b1.toNat < 0xE0)
    (h2 : isContinuation b2 = true) :
    String.utf8EncodeChar (Char.ofNat ((b1 &&& 0x1F).toNat * 64 + low6 b2)) = [b1, b2] := by
  rw [isContinuation_iff] at h2
  rw [toNat_and_1F, low6_eq]
  have hn : (Char.ofNat (b1.toNat % 32 * 64 + b2.toNat % 64)).toNat =
      b1.toNat % 32 * 64 + b2.toNat % 64 := toNat_charOfNat _ (by omega)
  rw [utf8EncodeChar_two (by rw [hn]; omega) (by rw [hn]; omega), hn]
  have e1 : (b1.toNat % 32 * 64 + b2.toNat % 64) / 64 % 32 + 0xC0 = b1.toNat := by omega
  have e2 : (b1.toNat % 32 * 64 + b2.toNat % 64) % 64 + 0x80 = b2.toNat := by omega
  rw [e1, e2, UInt8.ofNat_toNat, UInt8.ofNat_toNat]

theorem utf8EncodeChar_assemble_three (h1 : 0xE0 ≤ b1.toNat) (h1' : b1.toNat < 0xF0)
    (h2 : secondOfThree b1 b2 = true) (h3 : isContinuation b3 = true) :
    String.utf8EncodeChar (Char.ofNat ((b1 &&& 0x0F).toNat * 4096 + low6 b2 * 64 + low6 b3)) =
      [b1, b2, b3] := by
  rw [secondOfThree_iff] at h2
  rw [isContinuation_iff] at h3
  rw [toNat_and_0F, low6_eq, low6_eq]
  have hn : (Char.ofNat (b1.toNat % 16 * 4096 + b2.toNat % 64 * 64 + b3.toNat % 64)).toNat =
      b1.toNat % 16 * 4096 + b2.toNat % 64 * 64 + b3.toNat % 64 :=
    toNat_charOfNat _ (by omega)
  rw [utf8EncodeChar_three (by rw [hn]; omega) (by rw [hn]; omega), hn]
  have e1 : (b1.toNat % 16 * 4096 + b2.toNat % 64 * 64 + b3.toNat % 64) / 4096 % 16 + 0xE0 =
      b1.toNat := by omega
  have e2 : (b1.toNat % 16 * 4096 + b2.toNat % 64 * 64 + b3.toNat % 64) / 64 % 64 + 0x80 =
      b2.toNat := by omega
  have e3 : (b1.toNat % 16 * 4096 + b2.toNat % 64 * 64 + b3.toNat % 64) % 64 + 0x80 =
      b3.toNat := by omega
  rw [e1, e2, e3, UInt8.ofNat_toNat, UInt8.ofNat_toNat, UInt8.ofNat_toNat]

theorem utf8EncodeChar_assemble_four (h1 : 0xF0 ≤ b1.toNat) (h1' : b1.toNat < 0xF5)
    (h2 : secondOfFour b1 b2 = true) (h3 : isContinuation b3 = true)
    (h4 : isContinuation b4 = true) :
    String.utf8EncodeChar (Char.ofNat ((b1 &&& 0x07).toNat * 262144 + low6 b2 * 4096 +
      low6 b3 * 64 + low6 b4)) = [b1, b2, b3, b4] := by
  rw [secondOfFour_iff] at h2
  rw [isContinuation_iff] at h3 h4
  rw [toNat_and_07, low6_eq, low6_eq, low6_eq]
  have hn : (Char.ofNat (b1.toNat % 8 * 262144 + b2.toNat % 64 * 4096 + b3.toNat % 64 * 64 +
      b4.toNat % 64)).toNat =
      b1.toNat % 8 * 262144 + b2.toNat % 64 * 4096 + b3.toNat % 64 * 64 + b4.toNat % 64 :=
    toNat_charOfNat _ (by omega)
  rw [utf8EncodeChar_four (by rw [hn]; omega), hn]
  have e1 : (b1.toNat % 8 * 262144 + b2.toNat % 64 * 4096 + b3.toNat % 64 * 64 +
      b4.toNat % 64) / 262144 % 8 + 0xF0 = b1.toNat := by omega
  have e2 : (b1.toNat % 8 * 262144 + b2.toNat % 64 * 4096 + b3.toNat % 64 * 64 +
      b4.toNat % 64) / 4096 % 64 + 0x80 = b2.toNat := by omega
  have e3 : (b1.toNat % 8 * 262144 + b2.toNat % 64 * 4096 + b3.toNat % 64 * 64 +
      b4.toNat % 64) / 64 % 64 + 0x80 = b3.toNat := by omega
  have e4 : (b1.toNat % 8 * 262144 + b2.toNat % 64 * 4096 + b3.toNat % 64 * 64 +
      b4.toNat % 64) % 64 + 0x80 = b4.toNat := by omega
  rw [e1, e2, e3, e4, UInt8.ofNat_toNat, UInt8.ofNat_toNat, UInt8.ofNat_toNat, UInt8.ofNat_toNat]

end Assemble

/-- Whatever the decoder reads is the UTF-8 of the characters it gives. -/
theorem decodeUtf8Onto_sound {bytes : List UInt8} {pos : Nat} {acc out : List Char}
    (h : decodeUtf8Onto bytes pos acc = .ok out) :
    ∃ cs, out = acc.reverse ++ cs ∧ cs.flatMap String.utf8EncodeChar = bytes := by
  fun_induction decodeUtf8Onto bytes pos acc with
  | case1 acc => exact ⟨[], by simpa using h.symm, rfl⟩
  | case2 b1 rest pos acc p1 ih =>
    have t1 : b1.toNat < 0x80 := by simpa [UInt8.lt_iff_toNat_lt] using p1
    obtain ⟨cs, rfl, hcs⟩ := ih h
    refine ⟨Char.ofNat b1.toNat :: cs, by simp, ?_⟩
    rw [List.flatMap_cons, utf8EncodeChar_assemble_one t1, hcs]
    rfl
  | case5 b1 pos acc n1 n2 p3 b2 rest hc ih =>
    have t2 : 0xC2 ≤ b1.toNat := by simpa [UInt8.lt_iff_toNat_lt] using n2
    have t3 : b1.toNat < 0xE0 := by simpa [UInt8.lt_iff_toNat_lt] using p3
    obtain ⟨cs, rfl, hcs⟩ := ih h
    refine ⟨Char.ofNat ((b1 &&& 0x1F).toNat * 64 + low6 b2) :: cs, by simp, ?_⟩
    rw [List.flatMap_cons, utf8EncodeChar_assemble_two t2 t3 hc, hcs]
    rfl
  | case12 b1 pos acc n1 n2 n3 p4 b2 b3 rest hs hc ih =>
    have t3 : 0xE0 ≤ b1.toNat := by simpa [UInt8.lt_iff_toNat_lt] using n3
    have t4 : b1.toNat < 0xF0 := by simpa [UInt8.lt_iff_toNat_lt] using p4
    obtain ⟨cs, rfl, hcs⟩ := ih h
    refine ⟨Char.ofNat ((b1 &&& 0x0F).toNat * 4096 + low6 b2 * 64 + low6 b3) :: cs, by simp, ?_⟩
    rw [List.flatMap_cons, utf8EncodeChar_assemble_three t3 t4 (by simpa using hs)
      (by simpa using hc), hcs]
    rfl
  | case22 b1 pos acc n1 n2 n3 n4 p5 b2 b3 b4 rest hs hc hc' ih =>
    have t4 : 0xF0 ≤ b1.toNat := by simpa [UInt8.lt_iff_toNat_lt] using n4
    have t5 : b1.toNat < 0xF5 := by simpa [UInt8.lt_iff_toNat_lt] using p5
    obtain ⟨cs, rfl, hcs⟩ := ih h
    refine ⟨Char.ofNat ((b1 &&& 0x07).toNat * 262144 + low6 b2 * 4096 + low6 b3 * 64 +
      low6 b4) :: cs, by simp, ?_⟩
    rw [List.flatMap_cons, utf8EncodeChar_assemble_four t4 t5 (by simpa using hs)
      (by simpa using hc) (by simpa using hc'), hcs]
    rfl
  | _ => simp +zetaDelta at h

/-! ## Held texts -/

/-- A held text: the characters `ofCodePoints` writes for its own code points. Every text
the program reads or makes is held; other strings stand for no text. -/
def Held (s : String) : Prop := ofCodePoints (codePoints s) = s

theorem codePoints_ofCodePoints (ps : List CodePoint)
    (hps : ∀ u, CodePoint.surrogate u ∈ ps → isSurrogate u = true) :
    codePoints (ofCodePoints ps) = ps := by
  unfold codePoints ofCodePoints
  rw [String.toList_ofList]
  induction ps with
  | nil => simp [codePointsOf]
  | cons p ps ih =>
    have hp : ∀ u, p = .surrogate u → isSurrogate u = true := by
      rintro u rfl
      exact hps u (List.mem_cons_self ..)
    rw [List.flatMap_cons, codePointsOf_held p _ hp,
      ih fun u hu => hps u (List.mem_cons_of_mem _ hu)]

theorem held_ofCodePoints (ps : List CodePoint)
    (hps : ∀ u, CodePoint.surrogate u ∈ ps → isSurrogate u = true) : Held (ofCodePoints ps) := by
  unfold Held
  rw [codePoints_ofCodePoints ps hps]

theorem held_ofScalars (cs : List Char) : Held (ofCodePoints (cs.map .scalar)) :=
  held_ofCodePoints _ (by simp)

theorem mem_held_scalar {c d : Char} :
    d ∈ (CodePoint.scalar c).held ↔ d = c ∨ (needsEscape c = true ∧ d = escapeChar) := by
  unfold CodePoint.held
  by_cases h : needsEscape c = true <;> simp [h, or_comm]

theorem escapeChar_ne_nul : escapeChar ≠ '\x00' := by decide

theorem nul_mem_ofScalars {cs : List Char} :
    '\x00' ∈ (ofCodePoints (cs.map .scalar)).toList ↔ '\x00' ∈ cs := by
  simp only [ofCodePoints, String.toList_ofList, List.flatMap_map, List.mem_flatMap,
    mem_held_scalar]
  constructor
  · rintro ⟨c, hc, rfl | ⟨-, h⟩⟩
    · exact hc
    · exact absurd h.symm escapeChar_ne_nul
  · intro h
    exact ⟨_, h, .inl rfl⟩

theorem surrogateRun?_eq_none_iff {s : String} :
    surrogateRun? s = none ↔ ∀ p ∈ codePoints s, p.isSurrogate = false := by
  have hdrop : ∀ (l : List CodePoint) (f : CodePoint → Bool),
      l.drop (l.takeWhile f).length = l.dropWhile f := by
    intro l f
    have h : (l.takeWhile f ++ l.dropWhile f).drop (l.takeWhile f).length = l.dropWhile f :=
      List.drop_left
    rwa [List.takeWhile_append_dropWhile] at h
  unfold surrogateRun?
  simp only [hdrop]
  split
  · next h =>
    simpa [List.dropWhile_eq_nil_iff] using h
  · next p rest h =>
    simp only [reduceCtorEq, false_iff, not_forall, Bool.not_eq_false]
    have hp : p ∈ (codePoints s).dropWhile fun p => !p.isSurrogate := h ▸ List.mem_cons_self ..
    have hne : (codePoints s).dropWhile (fun p => !p.isSurrogate) ≠ [] := by simp [h]
    rw [Ne, List.dropWhile_eq_nil_iff] at hne
    simpa using hne

theorem exists_scalars {ps : List CodePoint} (h : ∀ p ∈ ps, p.isSurrogate = false) :
    ∃ cs : List Char, ps = cs.map .scalar := by
  induction ps with
  | nil => exact ⟨[], rfl⟩
  | cons p ps ih =>
    obtain ⟨cs, rfl⟩ := ih fun q hq => h q (List.mem_cons_of_mem _ hq)
    cases p with
    | scalar c => exact ⟨c :: cs, rfl⟩
    | surrogate u => simp [CodePoint.isSurrogate] at h

theorem utf8_of_scalars {s : String} {cs : List Char} (h : codePoints s = cs.map .scalar) :
    utf8 s = cs.flatMap String.utf8EncodeChar := by
  rw [utf8, h, List.flatMap_map]

theorem encodeUtf8_ok_iff {s : String} : (∃ raw, encodeUtf8 s = .ok raw) ↔ hasSurrogate s = false := by
  have hnone : hasSurrogate s = false ↔ surrogateRun? s = none := by
    rw [surrogateRun?_eq_none_iff, hasSurrogate, List.any_eq_false]
    simp
  rw [hnone]
  unfold encodeUtf8
  cases surrogateRun? s <;> simp

/-- A text that UTF-8 can write reads back as itself. -/
theorem decodeUtf8_of_encodeUtf8 {s : String} {bytes : List UInt8} (hs : Held s)
    (he : encodeUtf8 s = .ok bytes) : decodeUtf8 bytes = .ok s := by
  unfold encodeUtf8 at he
  split at he
  · cases he
  · next hn =>
    cases he
    obtain ⟨cs, hcs⟩ := exists_scalars (surrogateRun?_eq_none_iff.1 hn)
    rw [decodeUtf8, utf8_of_scalars hcs, decodeUtf8Onto_flatMap]
    simp only [List.reverse_nil, List.nil_append, Except.map]
    rw [← hcs, hs]

theorem le_toNat_of_mem_utf8EncodeChar {c : Char} {b : UInt8} (hb : b ∈ String.utf8EncodeChar c)
    (hc : 0x80 ≤ c.toNat) : 0x80 ≤ b.toNat := by
  have hv := toNat_lt_of_valid c
  by_cases h2 : c.toNat < 0x800
  · rw [utf8EncodeChar_two hc h2] at hb
    simp only [List.mem_cons, List.not_mem_nil, or_false] at hb
    rcases hb with rfl | rfl <;> rw [toNat_byte (by omega)] <;> omega
  by_cases h3 : c.toNat < 0x10000
  · rw [utf8EncodeChar_three (by omega) h3] at hb
    simp only [List.mem_cons, List.not_mem_nil, or_false] at hb
    rcases hb with rfl | rfl | rfl <;> rw [toNat_byte (by omega)] <;> omega
  · rw [utf8EncodeChar_four (by omega)] at hb
    simp only [List.mem_cons, List.not_mem_nil, or_false] at hb
    rcases hb with rfl | rfl | rfl | rfl <;> rw [toNat_byte (by omega)] <;> omega

theorem eq_nul_of_zero_mem {c : Char} (h : (0 : UInt8) ∈ String.utf8EncodeChar c) :
    c = '\x00' := by
  by_cases h1 : c.toNat < 0x80
  · rw [utf8EncodeChar_one h1, List.mem_singleton] at h
    have h0 : c.toNat = 0 := by
      have := congrArg UInt8.toNat h
      rw [toNat_byte (by omega)] at this
      exact this.symm
    rw [← Char.ofNat_toNat c, h0]
  · have := le_toNat_of_mem_utf8EncodeChar h (by omega)
    simp at this

theorem zero_not_mem_of_encodeUtf8 {s : String} {bytes : List UInt8} (hs : Held s)
    (hnul : '\x00' ∉ s.toList) (he : encodeUtf8 s = .ok bytes) : 0 ∉ bytes := by
  unfold encodeUtf8 at he
  split at he
  · cases he
  · next hn =>
    cases he
    obtain ⟨cs, hcs⟩ := exists_scalars (surrogateRun?_eq_none_iff.1 hn)
    have hcs' : '\x00' ∉ cs := by
      rw [← hs, hcs, nul_mem_ofScalars] at hnul
      exact hnul
    rw [utf8_of_scalars hcs, List.mem_flatMap]
    rintro ⟨c, hc, h0⟩
    exact hcs' (eq_nul_of_zero_mem h0 ▸ hc)

theorem held_of_decodeUtf8 {bytes : List UInt8} {s : String} (h : decodeUtf8 bytes = .ok s) :
    Held s := by
  unfold decodeUtf8 at h
  cases hd : decodeUtf8Onto bytes 0 [] with
  | error e => simp [hd, Except.map] at h
  | ok cs =>
    simp only [hd, Except.map, Except.ok.injEq] at h
    rw [← h]
    exact held_ofScalars cs

theorem nul_not_mem_of_decodeUtf8 {bytes : List UInt8} {s : String}
    (h : decodeUtf8 bytes = .ok s) (h0 : 0 ∉ bytes) : '\x00' ∉ s.toList := by
  unfold decodeUtf8 at h
  cases hd : decodeUtf8Onto bytes 0 [] with
  | error e => simp [hd, Except.map] at h
  | ok out =>
    simp only [hd, Except.map, Except.ok.injEq] at h
    obtain ⟨cs, hout, hcs⟩ := decodeUtf8Onto_sound hd
    rw [List.reverse_nil, List.nil_append] at hout
    subst hout
    rw [← h, nul_mem_ofScalars]
    intro hc
    apply h0
    rw [← hcs, List.mem_flatMap]
    refine ⟨_, hc, ?_⟩
    rw [utf8EncodeChar_one (by decide)]
    exact List.mem_singleton_self _

theorem decodeUtf8_eq_ok {bytes : List UInt8} {s : String} (h : decodeUtf8 bytes = .ok s) :
    ∃ cs : List Char, s = ofCodePoints (cs.map .scalar) ∧ cs.flatMap String.utf8EncodeChar = bytes := by
  unfold decodeUtf8 at h
  cases hd : decodeUtf8Onto bytes 0 [] with
  | error e => simp [hd, Except.map] at h
  | ok out =>
    simp only [hd, Except.map, Except.ok.injEq] at h
    obtain ⟨cs, hout, hcs⟩ := decodeUtf8Onto_sound hd
    rw [List.reverse_nil, List.nil_append] at hout
    exact ⟨cs, by rw [← h, hout], hcs⟩

theorem encodeUtf8_of_decodeUtf8 {bytes : List UInt8} {s : String} (h : decodeUtf8 bytes = .ok s) :
    encodeUtf8 s = .ok bytes := by
  obtain ⟨cs, rfl, hcs⟩ := decodeUtf8_eq_ok h
  have hcp : codePoints (ofCodePoints (cs.map .scalar)) = cs.map .scalar :=
    codePoints_ofCodePoints _ (by simp)
  have hnone : surrogateRun? (ofCodePoints (cs.map .scalar)) = none := by
    rw [surrogateRun?_eq_none_iff, hcp]
    simp [CodePoint.isSurrogate]
  rw [encodeUtf8, hnone, utf8_of_scalars hcp, hcs]

end VirtualMocap.Text
