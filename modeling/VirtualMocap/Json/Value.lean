import VirtualMocap.Number.Binary64

/-!
# JSON values

A JSON document read into values: integers of any size apart from floating-point
numbers, and objects as lists of fields in the order their keys first appeared. A
repeated key keeps its first position and takes its last value, as a dictionary
filled field by field does. Configuration documents may also hold raw bytes, which a
JSON text never does.
-/

namespace VirtualMocap

/-- A JSON value. -/
inductive Json where
  | null
  | bool (b : Bool)
  | int (n : Int)
  | float (x : Binary64)
  | str (s : String)
  | arr (items : List Json)
  | obj (fields : List (String × Json))
  /-- Raw bytes, from a configuration document. -/
  | bytes (data : List UInt8)
  deriving Inhabited

namespace Json

/-- Set a field: replace the value of an existing key in place, or append. -/
def setField (fields : List (String × Json)) (key : String) (value : Json) :
    List (String × Json) :=
  if fields.any (·.1 == key) then fields.map fun kv => if kv.1 == key then (key, value) else kv
  else fields ++ [(key, value)]

def lookup (fields : List (String × Json)) (key : String) : Option Json :=
  (fields.find? (·.1 == key)).map (·.2)

def get? : Json → String → Option Json
  | .obj fields, key => lookup fields key
  | _, _ => none

def typeName : Json → String
  | .null => "NoneType"
  | .bool _ => "bool"
  | .int _ => "int"
  | .float _ => "float"
  | .str _ => "str"
  | .arr _ => "list"
  | .obj _ => "dict"
  | .bytes _ => "bytes"

end Json

end VirtualMocap
