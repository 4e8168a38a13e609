import VirtualMocap.Json.Value

/-!
# Issues of a validation

A value refused by a validator is described by its issues: what is wrong, and the path
of keys and positions that leads to it.
-/

namespace VirtualMocap

namespace Json

/-- One step of a path into a value: a text key, or a position or integer key. -/
inductive PathPart where
  | key (k : String)
  | index (i : Int)
  deriving DecidableEq, Repr

/-- What is wrong with a value. -/
inductive IssueKind where
  | missing
  | floatParsing
  | floatType
  | intParsing
  | intParsingSize
  | intType
  | intFromFloat
  | finiteNumber
  | greaterThanEqual
  | lessThanEqual
  | boolParsing
  | boolType
  | stringType
  | enum
  | tooLong
  | namedTupleType
  | modelType
  | stringUnicode
  | extraForbidden
  | invalidKey
  | literalError
  | pathType
  /-- A check of the record itself failed with this text. -/
  | valueError (detail : String)
  deriving DecidableEq, Repr

def IssueKind.name : IssueKind → String
  | .missing => "missing"
  | .floatParsing => "float_parsing"
  | .floatType => "float_type"
  | .intParsing => "int_parsing"
  | .intParsingSize => "int_parsing_size"
  | .intType => "int_type"
  | .intFromFloat => "int_from_float"
  | .finiteNumber => "finite_number"
  | .greaterThanEqual => "greater_than_equal"
  | .lessThanEqual => "less_than_equal"
  | .boolParsing => "bool_parsing"
  | .boolType => "bool_type"
  | .stringType => "string_type"
  | .enum => "enum"
  | .tooLong => "too_long"
  | .namedTupleType => "named_tuple_type"
  | .modelType => "model_type"
  | .stringUnicode => "string_unicode"
  | .extraForbidden => "extra_forbidden"
  | .invalidKey => "invalid_key"
  | .literalError => "literal_error"
  | .pathType => "path_type"
  | .valueError _ => "value_error"

/-- An issue and where it lies. -/
structure Issue where
  kind : IssueKind
  path : List PathPart
  deriving DecidableEq, Repr

def PathPart.text : PathPart → String
  | .key k => k
  | .index i => toString i

/-- An issue as one line: the path joined by dots, a colon, the kind. -/
def Issue.line (i : Issue) : String :=
  ".".intercalate (i.path.map PathPart.text) ++ ":" ++ i.kind.name

def issuesLine (issues : List Issue) : String := "; ".intercalate (issues.map Issue.line)

end Json

end VirtualMocap
