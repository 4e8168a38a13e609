import VirtualMocap.Number.Format

/-!
# Double-precision numbers as words

`Binary64` is a 64-bit word of the binary64 format. Reading, comparing and the four
arithmetic operations below are exact integer arithmetic on the word followed by one
rounding, which is what IEEE 754 prescribes for round-to-nearest; only the
transcendental functions go through the runtime's `Float`.
-/

namespace VirtualMocap

/-- A double-precision floating-point number, kept as its word so that every bit,
NaN payloads included, survives. -/
structure Binary64 where
  bits : UInt64
  deriving DecidableEq, Repr, Inhabited

namespace Binary64

def unpack (x : Binary64) : Unpacked := BinaryFormat.binary64.unpack x.bits.toNat

def ofFinite (negative : Bool) (m : Nat) (q : Int) : Binary64 :=
  ⟨(BinaryFormat.binary64.packFinite negative m q).toUInt64⟩

def zero : Binary64 := ⟨0⟩

def negZero : Binary64 := ⟨0x8000000000000000⟩

def infinity (negative : Bool) : Binary64 :=
  ⟨(BinaryFormat.binary64.packInfinite negative).toUInt64⟩

def nan : Binary64 := ⟨0x7ff8000000000000⟩

/-- The number nearest to `± num / den`; too large a ratio gives an infinity. -/
def ofRatio (negative : Bool) (num den : Nat) : Binary64 :=
  ⟨(BinaryFormat.binary64.nearest negative num den).toUInt64⟩

/-- The number nearest to an integer, or `none` when the integer rounds beyond the
largest finite number. -/
def ofInt? (n : Int) : Option Binary64 :=
  (BinaryFormat.binary64.round n.natAbs 1).map fun (m, q) => ofFinite (n < 0) m q

def ofNat (n : Nat) : Binary64 := ofRatio false n 1

def signBit (x : Binary64) : Bool := x.bits.toNat.testBit 63

def isNaN (x : Binary64) : Bool :=
  match x.unpack with
  | .nan .. => true
  | _ => false

def isFinite (x : Binary64) : Bool :=
  match x.unpack with
  | .finite .. => true
  | _ => false

def neg (x : Binary64) : Binary64 := ⟨x.bits ^^^ 0x8000000000000000⟩

/-- A finite number as an exact signed ratio `num / 2^shift` with `num : Int`. -/
def exact (negative : Bool) (m : Nat) (q : Int) (shift : Nat) : Int :=
  let mag : Nat := if 0 ≤ q + shift then m * twoPow (q + shift).toNat else m / twoPow (-(q + shift)).toNat
  if negative then -(mag : Int) else mag

def ofSignedRatio (num : Int) (den : Nat) (zeroNegative : Bool) : Binary64 :=
  if num = 0 then (if zeroNegative then negZero else zero)
  else ofRatio (num < 0) num.natAbs den

def scaleOf (q r : Int) : Nat := (-(min q r)).toNat

def add (x y : Binary64) : Binary64 :=
  match x.unpack, y.unpack with
  | .nan .., _ => x
  | _, .nan .. => y
  | .infinite a, .infinite b => if a = b then x else nan
  | .infinite _, _ => x
  | _, .infinite _ => y
  | .finite a m q, .finite b n r =>
    let s := scaleOf q r
    ofSignedRatio (exact a m q s + exact b n r s) (twoPow s) (a && b)

def sub (x y : Binary64) : Binary64 := x.add y.neg

def mul (x y : Binary64) : Binary64 :=
  match x.unpack, y.unpack with
  | .nan .., _ => x
  | _, .nan .. => y
  | .infinite a, .finite b n _ => if n = 0 then nan else infinity (a != b)
  | .finite a m _, .infinite b => if m = 0 then nan else infinity (a != b)
  | .infinite a, .infinite b => infinity (a != b)
  | .finite a m q, .finite b n r =>
    let s := scaleOf (q + r) 0
    let p : Int := exact false (m * n) (q + r) s
    ofSignedRatio (if a != b then -p else p) (twoPow s) (a != b)

def div (x y : Binary64) : Binary64 :=
  match x.unpack, y.unpack with
  | .nan .., _ => x
  | _, .nan .. => y
  | .infinite _, .infinite _ => nan
  | .infinite a, .finite b _ _ => infinity (a != b)
  | .finite a _ _, .infinite b => if a != b then negZero else zero
  | .finite a m q, .finite b n r =>
    if n = 0 then (if m = 0 then nan else infinity (a != b))
    else if m = 0 then (if a != b then negZero else zero)
    else
      -- m·2^q / (n·2^r) = m·2^(q-r) / n
      let d := q - r
      if 0 ≤ d then ofRatio (a != b) (m * twoPow d.toNat) n
      else ofRatio (a != b) m (n * twoPow (-d).toNat)

def isPositive (x : Binary64) : Bool :=
  match x.unpack with
  | .finite false m _ => m != 0
  | .infinite false => true
  | _ => false

def isNegative (x : Binary64) : Bool :=
  match x.unpack with
  | .finite true m _ => m != 0
  | .infinite true => true
  | _ => false

/-- The integer part, rounded toward zero; `none` for NaN and the infinities. -/
def truncate? (x : Binary64) : Option Int :=
  match x.unpack with
  | .finite neg m q =>
    let mag : Nat := if 0 ≤ q then m * twoPow q.toNat else m / twoPow (-q).toNat
    some (if neg then -(mag : Int) else mag)
  | _ => none

def isIntegral (x : Binary64) : Bool :=
  match x.unpack with
  | .finite _ m q => 0 ≤ q || m % twoPow (-q).toNat == 0
  | _ => false

/-- The nearest integer, a half going to the even one; `none` for NaN and the
infinities. -/
def roundEven? (x : Binary64) : Option Int :=
  match x.unpack with
  | .finite neg m q =>
    let mag : Nat := if 0 ≤ q then m * twoPow q.toNat else BinaryFormat.divRoundEven m (twoPow (-q).toNat)
    some (if neg then -(mag : Int) else mag)
  | _ => none

def toFloat (x : Binary64) : Float := Float.ofBits x.bits

def ofFloat (x : Float) : Binary64 := ⟨x.toBits⟩

def sin (x : Binary64) : Binary64 := ofFloat (Float.sin x.toFloat)

def cos (x : Binary64) : Binary64 := ofFloat (Float.cos x.toFloat)

instance : Add Binary64 := ⟨add⟩
instance : Sub Binary64 := ⟨sub⟩
instance : Mul Binary64 := ⟨mul⟩
instance : Div Binary64 := ⟨div⟩
instance : Neg Binary64 := ⟨neg⟩

end Binary64

end VirtualMocap
