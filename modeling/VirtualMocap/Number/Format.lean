import VirtualMocap.Number.Power

/-!
# Binary interchange formats

An IEEE 754 binary format is fixed by its significand precision and its exponent
width. A word of the format unpacks to a NaN, an infinity, or a finite value
`± m · 2^q`; a positive ratio of naturals rounds to the nearest finite value, ties to
an even significand, or overflows. Everything here is exact `Nat`/`Int` arithmetic
on words, so no runtime floating-point operation is involved.
-/

namespace VirtualMocap

/-- An IEEE 754 binary interchange format: `precision` significand bits, hidden bit
included, and `exponentBits` bits of biased exponent. -/
structure BinaryFormat where
  precision : Nat
  exponentBits : Nat
  deriving DecidableEq, Repr

/-- A word of a binary format, read as a number. -/
inductive Unpacked where
  /-- Not a number; `payload` holds the fraction field. -/
  | nan (negative : Bool) (payload : Nat)
  | infinite (negative : Bool)
  /-- The value `± significand · 2 ^ exponent`. -/
  | finite (negative : Bool) (significand : Nat) (exponent : Int)
  deriving DecidableEq, Repr

namespace BinaryFormat

def binary32 : BinaryFormat := ⟨24, 8⟩

def binary64 : BinaryFormat := ⟨53, 11⟩

def fractionBits (f : BinaryFormat) : Nat := f.precision - 1

def bias (f : BinaryFormat) : Nat := twoPow (f.exponentBits - 1) - 1

def topExponent (f : BinaryFormat) : Nat := twoPow f.exponentBits - 1

def minExponent (f : BinaryFormat) : Int := 1 - (f.bias : Int) - f.fractionBits

/-- Exponent of the last significand bit of the largest finite values. -/
def maxExponent (f : BinaryFormat) : Int := f.minExponent + (f.topExponent - 2 : Nat)

def signShift (f : BinaryFormat) : Nat := f.fractionBits + f.exponentBits

def hidden (f : BinaryFormat) : Nat := twoPow f.fractionBits

def unpack (f : BinaryFormat) (word : Nat) : Unpacked :=
  let negative := word.testBit f.signShift
  let stored := word / f.hidden % twoPow f.exponentBits
  let fraction := word % f.hidden
  if stored = f.topExponent then
    if fraction = 0 then .infinite negative else .nan negative fraction
  else if stored = 0 then .finite negative fraction f.minExponent
  else .finite negative (f.hidden + fraction) (f.minExponent + (stored - 1 : Nat))

/-- Write a sign, a biased exponent and a fraction field as a word. -/
def assemble (f : BinaryFormat) (negative : Bool) (stored fraction : Nat) : Nat :=
  (if negative then twoPow f.signShift else 0) + stored * f.hidden + fraction

/-- The word of `± m · 2^q` for a significand and exponent as `round` returns them:
either `m` is below the hidden bit and `q` is the least exponent (a subnormal or zero),
or `m` has exactly `precision` bits. -/
def packFinite (f : BinaryFormat) (negative : Bool) (m : Nat) (q : Int) : Nat :=
  if m < f.hidden then f.assemble negative 0 m
  else f.assemble negative ((q - f.minExponent).toNat + 1) (m - f.hidden)

def packInfinite (f : BinaryFormat) (negative : Bool) : Nat :=
  f.assemble negative f.topExponent 0

def ratioAtLeastPow2 (num den : Nat) (k : Int) : Bool :=
  if 0 ≤ k then decide (den * twoPow k.toNat ≤ num) else decide (den ≤ num * twoPow (-k).toNat)

/-- `⌊log₂ (num / den)⌋` for positive `num` and `den`: the estimate from bit lengths is
exact or one too large. -/
def floorLog2Ratio (num den : Nat) : Int :=
  let guess : Int := (num.log2 : Int) - den.log2
  if ratioAtLeastPow2 num den guess then guess else guess - 1

def divRoundEven (n d : Nat) : Nat :=
  let q := n / d
  let r := n % d
  if 2 * r > d ∨ (2 * r = d ∧ q % 2 = 1) then q + 1 else q

/-- Round the positive ratio `num / den` to the format: the significand and exponent of
the nearest value (ties to an even significand), or `none` when that value exceeds the
largest finite one. A zero numerator gives zero. -/
def round (f : BinaryFormat) (num den : Nat) : Option (Nat × Int) :=
  if num = 0 then some (0, f.minExponent)
  else
    let q := max (floorLog2Ratio num den - f.fractionBits) f.minExponent
    let m :=
      if 0 ≤ q then divRoundEven num (den * twoPow q.toNat)
      else divRoundEven (num * twoPow (-q).toNat) den
    let (m, q) := if m = twoPow f.precision then (m / 2, q + 1) else (m, q)
    if q > f.maxExponent then none else some (m, q)

/-- The word nearest to `± num / den`, an overflow giving the infinity of that sign. -/
def nearest (f : BinaryFormat) (negative : Bool) (num den : Nat) : Nat :=
  match f.round num den with
  | some (m, q) => f.packFinite negative m q
  | none => f.packInfinite negative

end BinaryFormat

end VirtualMocap
