import VirtualMocap.Json.Number
import VirtualMocap.Json.Issue
import VirtualMocap.Text.Utf8

/-!
# The program's loose validator

The program's own reading of typed records from loosely typed values, which the
executable's adapters and loaders use: each field is coerced to its type (numbers from
numeric texts, truth values from the usual words), and a value that does not fit becomes
an `Issue` naming the path to it. A record's issues are all collected before it is
refused.
-/

namespace VirtualMocap

namespace Json

abbrev Checked (α : Type) := Except (List Issue) α

def Checked.fail {α : Type} (kind : IssueKind) : Checked α := .error [⟨kind, []⟩]

def Checked.under {α : Type} (p : PathPart) : Checked α → Checked α
  | .ok a => .ok a
  | .error is => .error (is.map fun i => { i with path := p :: i.path })

def Checked.issues {α : Type} : Checked α → List Issue
  | .ok _ => []
  | .error is => is

/-- Two readings together: both values, or the issues of both in order. -/
def both {α β : Type} (a : Checked α) (b : Checked β) : Checked (α × β) :=
  match a, b with
  | .ok x, .ok y => .ok (x, y)
  | _, _ => .error (Checked.issues a ++ Checked.issues b)

def trimmed (s : String) : List Char := Text.trimBy Text.isWhiteSpace s.toList

def hasDoubleUnderscore : List Char → Bool
  | '_' :: '_' :: _ => true
  | _ :: rest => hasDoubleUnderscore rest
  | [] => false

def underscoresDroppable (cs : List Char) : Bool :=
  cs.contains '_' && cs.head? != some '_' && cs.getLast? != some '_' && !hasDoubleUnderscore cs

/-- The text of a value read as text: a text, or bytes that are UTF-8. A text holding
an unpaired surrogate has no such reading; `unreadable` is the issue for bytes that are
not UTF-8. -/
def textOf? (unreadable : IssueKind) : Json → Option (Checked String)
  | .str s => some (if Text.hasSurrogate s then .fail .stringUnicode else .ok s)
  | .bytes data =>
    some (match Text.decodeUtf8 data with
      | .ok s => .ok s
      | .error _ => .fail unreadable)
  | _ => none

def floatText? (s : String) : Option Binary64 :=
  match Decimal.plainFloat? (trimmed s) with
  | some x => some x
  | none =>
    let cs := s.toList
    if underscoresDroppable cs then Decimal.plainFloat? (cs.filter (· != '_')) else none

def looseFloat (v : Json) : Checked Binary64 :=
  match textOf? .floatParsing v with
  | some (.ok s) =>
    match floatText? s with
    | some x => .ok x
    | none => .fail .floatParsing
  | some (.error is) => .error is
  | none =>
    match v with
    | .float x => .ok x
    | .int n =>
      match Binary64.ofInt? n with
      | some x => .ok x
      | none => .fail .floatType
    | .bool b => .ok (if b then Binary64.ofNat 1 else Binary64.zero)
    | _ => .fail .floatType

def fits64 (n : Int) : Bool := -(twoPow 63 : Int) ≤ n && n < (twoPow 63 : Int)

def integralOf (x : Binary64) : Checked Int :=
  if !x.isFinite then .fail .finiteNumber
  else if !x.isIntegral then .fail .intFromFloat
  else
    match x.truncate? with
    | some n => if n ≤ -(twoPow 63 : Int) ∨ n ≥ (twoPow 63 : Int) then .fail .intParsingSize else .ok n
    | none => .fail .finiteNumber

def maxIntDigits : Nat := 4300

/-- Read integer digits in the strict form of a JSON integer: an optional minus, then
`0` or digits that do not start with `0`, at most `maxIntDigits` of them
(`intParsingSize` beyond). -/
def strictInt (cs : List Char) : Checked Int :=
  let (negative, ds) :=
    match cs with
    | '-' :: r => (true, r)
    | r => (false, r)
  if ds.isEmpty || !ds.all Char.isDigit || (ds.length > 1 && ds.head? == some '0') then
    .fail .intParsing
  else if ds.length > maxIntDigits then .fail .intParsingSize
  else
    let n : Int := ds.foldl (fun n c => n * 10 + (c.toNat - '0'.toNat)) 0
    .ok (if negative then -n else n)

def digitsOrUnderscored (cs : List Char) : Checked Int :=
  match strictInt cs with
  | .ok n => .ok n
  | .error is =>
    if is.any (·.kind == .intParsingSize) then .error is
    else if underscoresDroppable cs then strictInt (cs.filter (· != '_'))
    else .error is

def beforeZeroFraction? (cs : List Char) : Option (List Char) :=
  let whole := cs.takeWhile (· != '.')
  match cs.drop whole.length with
  | '.' :: zeros => if !zeros.isEmpty && zeros.all (· == '0') then some whole else none
  | _ => none

/-- The text after leading zeros: a text that starts with a digit other than zero is
kept whole; after zeros (and underscores among them) the text goes on from the first
other digit or sign, or from the last character before a point; text of zeros alone
keeps its last character; text that starts otherwise gives nothing. -/
def afterLeadingZeros (cs : List Char) : Option (List Char) :=
  match cs with
  | '0' :: rest =>
    let skipped := rest.takeWhile (fun c => c == '0' || c == '_')
    match rest.drop skipped.length with
    | [] => some [(cs.getLast?).getD '0']
    | c :: more =>
      if ('1' ≤ c && c ≤ '9') || c == '-' || c == '+' then some (c :: more)
      else if c == '.' then some ((skipped.getLast?).getD '0' :: c :: more)
      else none
  | c :: _ => if '1' ≤ c && c ≤ '9' then some cs else none
  | [] => none

/-- Read integer text loosely. The text is trimmed of white space and loses one leading
sign; what follows must start with a digit and is read after its leading zeros
(`afterLeadingZeros`). That rest is a strict integer, possibly with single
underscores between its characters, or such an integer followed by a point and
zeros. -/
def intText (s : String) : Checked Int :=
  let (negative, cs) :=
    match trimmed s with
    | '-' :: r => (true, r)
    | '+' :: r => (false, r)
    | r => (false, r)
  let value : Checked Int :=
    match afterLeadingZeros cs with
    | none => .fail .intParsing
    | some r =>
      match digitsOrUnderscored r with
      | .ok n => .ok n
      | .error is =>
        if is.any (·.kind == .intParsingSize) then .error is
        else
          match beforeZeroFraction? r with
          | some whole => digitsOrUnderscored whole
          | none => .error is
  value.map fun n => if negative then -n else n

def looseInt (v : Json) : Checked Int :=
  match textOf? .intParsing v with
  | some (.ok s) => intText s
  | some (.error is) => .error is
  | none =>
    match v with
    | .int n => .ok n
    | .bool b => .ok (if b then 1 else 0)
    | .float x => integralOf x
    | _ => .fail .intType

def bounded (lo hi : Option Int) (n : Int) : Checked Int :=
  match lo, hi with
  | some lo, _ => if n < lo then .fail .greaterThanEqual else
    match hi with
    | some hi => if n > hi then .fail .lessThanEqual else .ok n
    | none => .ok n
  | none, some hi => if n > hi then .fail .lessThanEqual else .ok n
  | none, none => .ok n

def boolWord? (s : String) : Option Bool :=
  let w := s.toList.map Char.toLower
  if s == "0" || w == "f".toList || w == "n".toList || w == "no".toList || w == "off".toList ||
      w == "false".toList then some false
  else if s == "1" || w == "t".toList || w == "y".toList || w == "on".toList ||
      w == "yes".toList || w == "true".toList then some true
  else none

/-- Read a truth value loosely: a word, or a number that is `0` or `1`. Another number
that fits 64 bits fails as a truth value that cannot be read; a larger one is no truth
value at all. -/
def looseBool (v : Json) : Checked Bool :=
  match textOf? .boolParsing v with
  | some (.ok s) =>
    match boolWord? s with
    | some b => .ok b
    | none => .fail .boolParsing
  | some (.error is) => .error is
  | none =>
    match v with
    | .bool b => .ok b
    | .int n =>
      if n = 0 then .ok false else if n = 1 then .ok true
      else if fits64 n then .fail .boolParsing else .fail .boolType
    | .float x =>
      match integralOf x with
      | .ok 0 => .ok false
      | .ok 1 => .ok true
      | .ok _ => .fail .boolParsing
      | .error _ => .fail .boolType
    | _ => .fail .boolType

def strictString : Json → Checked String
  | .str s => .ok s
  | .bytes data =>
    match Text.decodeUtf8 data with
    | .ok s => .ok s
    | .error _ => .fail .stringUnicode
  | _ => .fail .stringType

/-- Read a member of an enumeration by its integer code; an integer beyond 64 bits is
refused as too large. -/
def intMember {α : Type} (ofCode? : Int → Option α) (v : Json) : Checked α :=
  match looseInt v with
  | .ok n =>
    if !fits64 n then .fail .intParsingSize
    else
      match ofCode? n with
      | some a => .ok a
      | none => .fail .enum
  | .error _ => .fail .enum

/-- Read a member of an enumeration by its text; a text holding a surrogate cannot be
compared with the members' texts at all. -/
def strMember {α : Type} (ofText? : String → Option α) : Json → Checked α
  | .str s =>
    if Text.hasSurrogate s then .fail .stringUnicode else
    match ofText? s with
    | some a => .ok a
    | none => .fail .enum
  | _ => .fail .enum

/-- Read the field `k` of an object's fields, or take `default` when it is absent. -/
def fieldOr {α : Type} (fields : List (String × Json)) (k : String) (default : Option α)
    (read : Json → Checked α) : Checked α :=
  match lookup fields k with
  | some v => (read v).under (.key k)
  | none =>
    match default with
    | some d => .ok d
    | none => (Checked.fail .missing).under (.key k)

def required {α : Type} (fields : List (String × Json)) (k : String) (read : Json → Checked α) :
    Checked α :=
  fieldOr fields k none read

def optional {α : Type} (fields : List (String × Json)) (k : String) (read : Json → Checked α) :
    Checked (Option α) :=
  fieldOr fields k (some none) fun
    | .null => .ok none
    | v => (read v).map some

/-- A key of a mapping as a step of an issue's path: an integer that fits 64 bits (a
truth value as `0` or `1`) is a number, a text is itself, and any other key is as
messages quote it. -/
def keyPart : Json → PathPart
  | .int n => if fits64 n then .index n else .key (toString n)
  | .bool b => .index (if b then 1 else 0)
  | .str s => .key s
  | k => k.literal |> .key

/-- The issues of keys that name no field, in order: a key that is not text is an
invalid key, and a text key is an extra one when extras are forbidden. A text key that
holds a surrogate cannot be compared with the names of the fields, and refuses the
whole record at once (`none`). -/
def extraKeyIssues (extraForbidden : Bool) : List Json → Option (List Issue)
  | [] => some []
  | .str s :: rest =>
    if Text.hasSurrogate s then none
    else
      let here := if extraForbidden then [⟨.extraForbidden, [.key s]⟩] else []
      (here ++ ·) <$> extraKeyIssues extraForbidden rest
  | k :: rest => (⟨.invalidKey, [keyPart k]⟩ :: ·) <$> extraKeyIssues extraForbidden rest

end Json

end VirtualMocap
