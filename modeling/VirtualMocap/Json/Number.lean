import VirtualMocap.Json.Write
import VirtualMocap.Decimal.Read

/-!
# Values read as numbers

`Json.asFloat?` reads a value as a floating-point number the way a loose numeric
conversion does: floats as they are, integers rounded to nearest, `true` and `false`
as one and zero, texts through `Decimal.readFloat?`. Everything else is refused, and
so is an integer too large for a double.
-/

namespace VirtualMocap

namespace Json

/-- Why a value is not a floating-point number. -/
inductive FloatError where
  /-- A text that is not the text of a number. -/
  | unreadable (text : String)
  /-- A value of a kind that has no number. -/
  | notNumeric (kind : String)
  /-- An integer beyond the largest double. -/
  | tooLarge
  deriving DecidableEq, Repr

def FloatError.message : FloatError → String
  | .unreadable text => "could not convert string to float: " ++ Text.quoted text
  | .notNumeric kind => s!"float() argument must be a string or a real number, not '{kind}'"
  | .tooLarge => "int too large to convert to float"

/-- A value read as a floating-point number. -/
def asFloat? : Json → Except FloatError Binary64
  | .float x => .ok x
  | .int n =>
    match Binary64.ofInt? n with
    | some x => .ok x
    | none => .error .tooLarge
  | .bool b => .ok (if b then Binary64.ofNat 1 else Binary64.zero)
  | .str s =>
    match Decimal.readFloat? s with
    | some x => .ok x
    | none => .error (.unreadable s)
  | v => .error (.notNumeric v.typeName)

end Json

end VirtualMocap
