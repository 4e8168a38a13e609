import VirtualMocap.Decimal.Shortest

/-!
# Writing doubles as text

A double is written with its shortest round-trip digits (`Decimal.shortest`) laid out
by a `Layout`: a record of the decisions a number format makes beyond the digits. The
one format this library writes, `Layout.standard`, is positional for scientific
exponents from -4 to 15 and keeps `.0` on integral values; otherwise it writes a
mantissa, `e`, a sign and at least two exponent digits.
-/

namespace VirtualMocap

namespace Decimal

/-- The decisions of a number format beyond its digits. -/
structure Layout where
  /-- Smallest scientific exponent written positionally. -/
  minPositional : Int
  /-- Largest scientific exponent written positionally. -/
  maxPositional : Int
  /-- Text after the digits of an integral value written positionally. -/
  integralSuffix : String
  /-- The exponent mark. -/
  exponentMark : String
  /-- Fewest digits of an exponent. -/
  exponentDigits : Nat
  /-- Texts of NaN, positive infinity and negative infinity. -/
  nanText : String
  infinityText : String
  negInfinityText : String

/-- Positional from `1e-4` up to below `1e16`, `.0` on integral values, `1e+16` and
`1e-05` beyond, `nan`, `inf`, `-inf`. -/
def Layout.standard : Layout where
  minPositional := -4
  maxPositional := 15
  integralSuffix := ".0"
  exponentMark := "e"
  exponentDigits := 2
  nanText := "nan"
  infinityText := "inf"
  negInfinityText := "-inf"

def zeros (n : Nat) : String := String.ofList (List.replicate n '0')

/-- Lay out the digit string `ds` (no trailing zeros, not empty) of the value
`0.ds · 10^point`. -/
def Layout.render (L : Layout) (ds : String) (point : Int) : String :=
  let sci := point - 1
  let len := ds.length
  if L.minPositional ≤ sci ∧ sci ≤ L.maxPositional then
    if point ≤ 0 then "0." ++ zeros (-point).toNat ++ ds
    else if point.toNat < len then
      String.ofList (ds.toList.take point.toNat) ++ "." ++ String.ofList (ds.toList.drop point.toNat)
    else ds ++ zeros (point.toNat - len) ++ L.integralSuffix
  else
    let mantissa :=
      if len ≤ 1 then ds
      else String.ofList (ds.toList.take 1) ++ "." ++ String.ofList (ds.toList.drop 1)
    let digits := toString sci.natAbs
    let digits := zeros (L.exponentDigits - digits.length) ++ digits
    mantissa ++ L.exponentMark ++ (if sci < 0 then "-" else "+") ++ digits

def Layout.ofBinary64 (L : Layout) (x : Binary64) : String :=
  match x.unpack with
  | .nan .. => L.nanText
  | .infinite negative => if negative then L.negInfinityText else L.infinityText
  | .finite negative m q =>
    let sign := if negative then "-" else ""
    if m = 0 then sign ++ L.render "0" 1
    else
      let (c, e) := shortest m q
      let ds := toString c
      sign ++ L.render ds (e + ds.length)

end Decimal

namespace Binary64

/-- The standard text of a double: shortest digits that read back, positional for
scientific exponents from -4 to 15. -/
def toText (x : Binary64) : String := Decimal.Layout.standard.ofBinary64 x

end Binary64

end VirtualMocap
