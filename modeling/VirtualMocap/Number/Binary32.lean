import VirtualMocap.Number.Binary64

/-!
# Single-precision numbers as words

`Binary32` is a 32-bit word of the binary32 format. Narrowing a double rounds to
nearest, ties to even, and refuses a finite double that rounds beyond the largest
finite single; infinities stay infinities and a NaN keeps its sign and the leading
bits of its payload, with the quiet bit set. Widening is exact.
-/

namespace VirtualMocap

/-- A single-precision floating-point number, kept as its word. -/
structure Binary32 where
  bits : UInt32
  deriving DecidableEq, Repr, Inhabited

namespace Binary32

def unpack (x : Binary32) : Unpacked := BinaryFormat.binary32.unpack x.bits.toNat

def quietBit : UInt32 := 0x00400000

def isNaN (x : Binary32) : Bool :=
  match x.unpack with
  | .nan .. => true
  | _ => false

/-- A NaN with its quiet bit set; every other word unchanged. This is what a word read
off the wire looks like once it has been held as a double. -/
def quiet (x : Binary32) : Binary32 :=
  if x.isNaN then ⟨x.bits ||| quietBit⟩ else x

/-- The exact double of a single; a NaN keeps sign and payload and is quiet. -/
def toBinary64 (x : Binary32) : Binary64 :=
  match x.unpack with
  | .nan negative payload =>
    ⟨(BinaryFormat.binary64.assemble negative BinaryFormat.binary64.topExponent
      ((payload * twoPow 29) ||| twoPow 51)).toUInt64⟩
  | .infinite negative => Binary64.infinity negative
  | .finite negative m q =>
    if 0 ≤ q then Binary64.ofRatio negative (m * twoPow q.toNat) 1
    else Binary64.ofRatio negative m (twoPow (-q).toNat)

/-- The single nearest to a double, or `none` when a finite double rounds beyond the
largest finite single. -/
def ofBinary64? (x : Binary64) : Option Binary32 :=
  match x.unpack with
  | .nan negative payload =>
    some ⟨(BinaryFormat.binary32.assemble negative BinaryFormat.binary32.topExponent
      ((payload / twoPow 29) ||| twoPow 22)).toUInt32⟩
  | .infinite negative => some ⟨(BinaryFormat.binary32.packInfinite negative).toUInt32⟩
  | .finite negative m q =>
    let (num, den) := if 0 ≤ q then (m * twoPow q.toNat, 1) else (m, twoPow (-q).toNat)
    (BinaryFormat.binary32.round num den).map fun (m, q) =>
      ⟨(BinaryFormat.binary32.packFinite negative m q).toUInt32⟩

/-- The single nearest to a double, a finite double beyond the largest finite single
giving the infinity of its sign, as the default rounding of the standard does. -/
def ofBinary64 (x : Binary64) : Binary32 :=
  match ofBinary64? x with
  | some y => y
  | none => ⟨(BinaryFormat.binary32.packInfinite x.signBit).toUInt32⟩

end Binary32

end VirtualMocap
