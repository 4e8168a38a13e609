import VirtualMocap.Json.Value

/-!
# Values read as mappings

`Json.toMapping` builds a mapping from a value as a dictionary is built from one: an
object is its own fields, and any other iterable value (`Json.elements`) gives one entry
per element that is a pair. Keys compare as a dictionary compares them (`sameKey`), and a
later entry replaces an earlier one's value in the earlier one's place.
-/

namespace VirtualMocap

namespace Json

/-- Why a value does not give a mapping. -/
inductive MappingError where
  /-- A value of this kind cannot be iterated over. -/
  | notIterable (kind : String)
  /-- The element at this index is not a sequence. -/
  | notSequence (index : Nat)
  /-- The element at this index is a sequence of this length, not a pair. -/
  | wrongLength (index length : Nat)
  /-- A key of this kind has no hash. -/
  | unhashable (kind : String)
  deriving DecidableEq, Repr

def MappingError.message : MappingError → String
  | .notIterable kind => s!"'{kind}' object is not iterable"
  | .notSequence index => s!"cannot convert dictionary update sequence element #{index} to a sequence"
  | .wrongLength index length =>
    s!"dictionary update sequence element #{index} has length {length}; 2 is required"
  | .unhashable kind => s!"unhashable type: '{kind}'"

def MappingError.isValueError : MappingError → Bool
  | .wrongLength .. => true
  | _ => false

/-- The elements that iterating over a value visits. -/
def elements : Json → Except MappingError (List Json)
  | .arr items => .ok items
  | .obj fields => .ok (fields.map fun kv => .str kv.1)
  | .str s => .ok (s.toList.map fun c => .str (String.singleton c))
  | .bytes data => .ok (data.map fun b => .int b.toNat)
  | v => .error (.notIterable v.typeName)

def pairOf (index : Nat) : Json → Except MappingError (Json × Json)
  | .arr [k, v] => .ok (k, v)
  | .arr items => .error (.wrongLength index items.length)
  | .str s =>
    match s.toList with
    | [a, b] => .ok (.str (String.singleton a), .str (String.singleton b))
    | cs => .error (.wrongLength index cs.length)
  | .obj [(a, _), (b, _)] => .ok (.str a, .str b)
  | .obj fields => .error (.wrongLength index fields.length)
  | _ => .error (.notSequence index)

def isZeroFloat (x : Binary64) : Bool := x.bits &&& 0x7fffffffffffffff == 0

def numberKey? : Json → Option (Int ⊕ Binary64)
  | .int n => some (.inl n)
  | .bool b => some (.inl (if b then 1 else 0))
  | .float x => some (.inr x)
  | _ => none

def floatIsInt (x : Binary64) (n : Int) : Bool := x.isIntegral && x.truncate? == some n

/-- Whether two keys name the same entry. Every `NaN` a document holds is one and the
same constant, so `NaN` keys name one entry. -/
def sameKey (a b : Json) : Bool :=
  match a, b with
  | .str s, .str t => s == t
  | .bytes s, .bytes t => s == t
  | .null, .null => true
  | _, _ =>
    match numberKey? a, numberKey? b with
    | some (.inl m), some (.inl n) => m == n
    | some (.inl n), some (.inr x) => floatIsInt x n
    | some (.inr x), some (.inl n) => floatIsInt x n
    | some (.inr x), some (.inr y) =>
      x.bits == y.bits || (isZeroFloat x && isZeroFloat y) || (x.isNaN && y.isNaN)
    | _, _ => false

def setEntry (entries : List (Json × Json)) (key value : Json) : List (Json × Json) :=
  if entries.any (sameKey ·.1 key) then
    entries.map fun kv => if sameKey kv.1 key then (kv.1, value) else kv
  else entries ++ [(key, value)]

def addEntries (acc : List (Json × Json)) (index : Nat) :
    List Json → Except MappingError (List (Json × Json))
  | [] => .ok acc
  | item :: rest => do
    let (k, v) ← pairOf index item
    match k with
    | .arr _ | .obj _ => throw (.unhashable k.typeName)
    | _ => addEntries (setEntry acc k v) (index + 1) rest

/-- A value read as a mapping: its entries, keys first. -/
def toMapping : Json → Except MappingError (List (Json × Json))
  | .obj fields => .ok (fields.map fun kv => (.str kv.1, kv.2))
  | v => do addEntries [] 0 (← elements v)

end Json

end VirtualMocap
