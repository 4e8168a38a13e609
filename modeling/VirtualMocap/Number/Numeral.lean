import VirtualMocap.Number.Binary64

/-!
# Numbers as given

A caller gives a number as an integer of any size or as a double (`Numeral`). Turning an
integer into a double rounds it to nearest and fails when it rounds beyond the largest
double; halving an integer rounds the exact half once, and fails the same way. Sine and
cosine have no value at the infinities (`MathError`).
-/

namespace VirtualMocap

/-- A number as given: an integer of any size, or a double. -/
inductive Numeral where
  | int (n : Int)
  | float (x : Binary64)
  deriving DecidableEq, Repr

/-- Why a computation on numbers has no value. -/
inductive MathError where
  /-- A sine or cosine of an infinity. -/
  | domain
  /-- An integer beyond the largest double. -/
  | intTooLarge
  /-- A quotient of integers beyond the largest double. -/
  | quotientTooLarge
  deriving DecidableEq, Repr

def MathError.message : MathError → String
  | .domain => "math domain error"
  | .intTooLarge => "int too large to convert to float"
  | .quotientTooLarge => "integer division result too large for a float"

def MathError.isOverflow : MathError → Bool
  | .domain => false
  | _ => true

namespace Numeral

def toBinary64 : Numeral → Except MathError Binary64
  | .int n =>
    match Binary64.ofInt? n with
    | some x => .ok x
    | none => .error .intTooLarge
  | .float x => .ok x

/-- Half the number: the exact half of an integer rounded once, or a double halved. -/
def half : Numeral → Except MathError Binary64
  | .int n =>
    let x := Binary64.ofRatio (n < 0) n.natAbs 2
    if x.isFinite then .ok x else .error .quotientTooLarge
  | .float x => .ok (x / Binary64.ofNat 2)

end Numeral

namespace Binary64

def sin? (x : Binary64) : Except MathError Binary64 :=
  if !x.isFinite && !x.isNaN then .error .domain else .ok x.sin

def cos? (x : Binary64) : Except MathError Binary64 :=
  if !x.isFinite && !x.isNaN then .error .domain else .ok x.cos

end Binary64

end VirtualMocap
