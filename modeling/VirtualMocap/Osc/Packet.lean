import VirtualMocap.Osc.TimeTag
import VirtualMocap.Number.Binary32
import VirtualMocap.Json.Number

/-!
# OSC arguments and packets

An argument is an integer, a single, a text, a blob, a truth value or a time tag, each
with a one-letter type tag; a packet is a message or a bundle of packets. Arguments made
from loosely typed values are checked as each kind asks.
-/

namespace VirtualMocap

namespace Osc

/-- One argument of an OSC message. -/
inductive Arg where
  | int (v : Int32)
  | float (v : Binary32)
  | str (s : String)
  | blob (bytes : List UInt8)
  | bool (b : Bool)
  | time (t : TimeTag)
  deriving DecidableEq, Repr

/-- An OSC packet. -/
inductive Packet where
  | message (address : String) (args : List Arg)
  | bundle (time : TimeTag) (elements : List Packet)
  deriving Repr

namespace Arg

def tag : Arg → Char
  | .int _ => 'i'
  | .float _ => 'f'
  | .str _ => 's'
  | .blob _ => 'b'
  | .bool true => 'T'
  | .bool false => 'F'
  | .time _ => 't'

end Arg

def tagsOf (args : List Arg) : String := String.ofList (args.map Arg.tag)

/-- Why an argument cannot be made from a value. -/
inductive ArgError where
  /-- An integer argument from a value that is not an integer. -/
  | intExpected (kind : String)
  | intRange (n : Int)
  /-- A number argument from a value that is not a number. -/
  | float (e : Json.FloatError)
  /-- A number beyond single precision; `literal` is the value as messages quote it. -/
  | floatRange (literal : String)
  | strExpected (kind : String)
  | strNul
  | time (e : TimeError)
  /-- A value of a kind that no argument holds. -/
  | noKind (kind : String)
  deriving DecidableEq, Repr

namespace ArgError

def wrongKind : ArgError → Bool
  | .intExpected _ | .strExpected _ | .noKind _ => true
  | .float (.notNumeric _) => true
  | _ => false

def overflow : ArgError → Bool
  | .float .tooLarge => true
  | _ => false

def message : ArgError → String
  | .intExpected kind => s!"OSCInt expects int, got {kind}"
  | .intRange n => s!"{n} is out of int32 range"
  | .float e => e.message
  | .floatRange literal => s!"{literal} does not fit in a float32"
  | .strExpected kind => s!"OSCString expects str, got {kind}"
  | .strNul => "OSC strings cannot contain NUL characters"
  | .time e => e.message
  | .noKind kind => s!"no OSC argument type for {kind}"

end ArgError

/-- A value rounded to single precision: read as a double, then narrowed; an overflow
on the way is reported with the value as given. -/
def single? (v : Json) : Except ArgError Binary32 :=
  match v.asFloat? with
  | .error .tooLarge => .error (.floatRange v.literal)
  | .error e => .error (.float e)
  | .ok x =>
    match Binary32.ofBinary64? x with
    | some y => .ok y
    | none => .error (.floatRange v.literal)

def intArg? (n : Int) : Except ArgError Arg :=
  if -(twoPow 31 : Int) ≤ n ∧ n < (twoPow 31 : Int) then .ok (.int (Int32.ofInt n)) else .error (.intRange n)

def strArg? (s : String) : Except ArgError Arg :=
  if s.toList.contains '\x00' then .error .strNul else .ok (.str s)

def intArgOf? : Json → Except ArgError Arg
  | .int n => intArg? n
  | v => .error (.intExpected v.typeName)

def floatArgOf? (v : Json) : Except ArgError Arg := (single? v).map .float

def strArgOf? : Json → Except ArgError Arg
  | .str s => strArg? s
  | v => .error (.strExpected v.typeName)

def argOf? : Json → Except ArgError Arg
  | .bool b => .ok (.bool b)
  | .int n => intArg? n
  | .float x => floatArgOf? (.float x)
  | .str s => strArg? s
  | .bytes data => .ok (.blob data)
  | v => .error (.noKind v.typeName)

end Osc

end VirtualMocap
