import VirtualMocap.Json.Value
import VirtualMocap.Decimal.Read

/-!
# Reading JSON

`Json.read` reads one JSON document, with `NaN` and the infinities as numbers; a number
is a floating-point number exactly when it has a fraction or an exponent. A failure names
what was expected and where. `Json.readWithin` also bounds how deep arrays and objects
nest, failing at the bracket that opens one too many.
-/

namespace VirtualMocap

namespace Json

/-- What the reader expected where it stopped. -/
inductive ReadProblem where
  | expectingValue
  | expectingPropertyName
  | expectingColon
  | expectingComma
  | extraData
  | unterminatedString
  | invalidControlCharacter
  | invalidEscape
  | invalidUnicodeEscape
  | unexpectedByteOrderMark
  /-- An integer with this many digits, more than an integer may have. -/
  | tooManyDigits (count : Nat)
  /-- An array (or, if not, an object) nested deeper than allowed. -/
  | tooDeep (array : Bool)
  deriving DecidableEq, Repr

def ReadProblem.text : ReadProblem → String
  | .expectingValue => "Expecting value"
  | .expectingPropertyName => "Expecting property name enclosed in double quotes"
  | .expectingColon => "Expecting ':' delimiter"
  | .expectingComma => "Expecting ',' delimiter"
  | .extraData => "Extra data"
  | .unterminatedString => "Unterminated string starting at"
  | .invalidControlCharacter => "Invalid control character at"
  | .invalidEscape => "Invalid \\escape"
  | .invalidUnicodeEscape => "Invalid \\uXXXX escape"
  | .unexpectedByteOrderMark => "Unexpected UTF-8 BOM (decode using utf-8-sig)"
  | .tooManyDigits n => (Decimal.IntTextError.tooManyDigits n).message "" 10
  | .tooDeep array =>
    let what := if array then "array" else "object"
    s!"maximum recursion depth exceeded while decoding a JSON {what} from a unicode string"

/-- A failure to read a document: the problem and the character position. -/
structure ReadError where
  problem : ReadProblem
  position : Nat
  deriving DecidableEq, Repr

def ReadError.isSyntax (e : ReadError) : Bool :=
  match e.problem with
  | .tooManyDigits _ | .tooDeep _ => false
  | _ => true

/-- The name of a failure: a decoding error for syntax, a value error for a number too
long, a recursion error for nesting too deep. -/
def ReadError.name (e : ReadError) : String :=
  match e.problem with
  | .tooManyDigits _ => "ValueError"
  | .tooDeep _ => "RecursionError"
  | _ => "JSONDecodeError"

/-- The message of a failure in a document: for a failure of syntax the problem, then
the line and column (both counted from one) and the position (counted from zero). -/
def ReadError.message (e : ReadError) (doc : String) : String :=
  if !e.isSyntax then e.problem.text else
  let before := doc.toList.take e.position
  let line := before.count '\n' + 1
  let column := (before.reverse.takeWhile (· != '\n')).length + 1
  s!"{e.problem.text}: line {line} column {column} (char {e.position})"

/-- The unread part of a document and its position. -/
structure Cursor where
  rest : List Char
  pos : Nat

def isSpace (c : Char) : Bool := c == ' ' || c == '\t' || c == '\n' || c == '\r'

def Cursor.skipSpace (c : Cursor) : Cursor :=
  let blanks := c.rest.takeWhile isSpace
  ⟨c.rest.drop blanks.length, c.pos + blanks.length⟩

def Cursor.advance (c : Cursor) (n : Nat) : Cursor := ⟨c.rest.drop n, c.pos + n⟩

def hexValue (c : Char) : Option Nat :=
  if c.isDigit then some (c.toNat - '0'.toNat)
  else if 'a' ≤ c && c ≤ 'f' then some (c.toNat - 'a'.toNat + 10)
  else if 'A' ≤ c && c ≤ 'F' then some (c.toNat - 'A'.toNat + 10)
  else none

def hex4 : List Char → Option Nat
  | [a, b, c, d] => do
    let a ← hexValue a; let b ← hexValue b; let c ← hexValue c; let d ← hexValue d
    pure (((a * 16 + b) * 16 + c) * 16 + d)
  | _ => none

def codePoint (n : Nat) : List Char := (Text.CodePoint.ofNat n).held

def simpleEscape (e : Char) : Option Char :=
  if e == '"' then some '"' else if e == '\\' then some '\\'
  else if e == '/' then some '/' else if e == 'b' then some '\x08'
  else if e == 'f' then some '\x0c' else if e == 'n' then some '\n'
  else if e == 'r' then some '\r' else if e == 't' then some '\t' else none

/-- Read a `\u` escape whose four digits start `cs` at position `pos`: the characters that
hold its code point and how many characters it took, a second escape joining a leading
surrogate to a trailing one. -/
def unicodeEscape (cs : List Char) (pos : Nat) : Except ReadError (List Char × Nat) :=
  if cs.length ≤ 4 then .error ⟨.invalidUnicodeEscape, pos - 1⟩
  else
    match hex4 (cs.take 4) with
    | none => .error ⟨.invalidUnicodeEscape, pos - 1⟩
    | some hi =>
      let after := cs.drop 4
      if 0xD800 ≤ hi ∧ hi < 0xDC00 ∧ after.length > 6 then
        match after with
        | '\\' :: 'u' :: more =>
          match hex4 (more.take 4) with
          | none => .error ⟨.invalidUnicodeEscape, pos + 5⟩
          | some lo =>
            if 0xDC00 ≤ lo ∧ lo < 0xE000 then
              .ok (codePoint (0x10000 + (hi - 0xD800) * 0x400 + (lo - 0xDC00)), 10)
            else .ok (codePoint hi, 4)
        | _ => .ok (codePoint hi, 4)
      else .ok (codePoint hi, 4)

/-- Read the body of a string after its opening quote at `begin`, collecting the
characters in reverse. -/
def readString (begin : Nat) (cs : List Char) (pos : Nat) (acc : List Char) :
    Except ReadError (String × Cursor) :=
  match cs with
  | [] => .error ⟨.unterminatedString, begin⟩
  | c :: rest =>
    if c == '"' then .ok (String.ofList acc.reverse, ⟨rest, pos + 1⟩)
    else if c == '\\' then
      match rest with
      | [] => .error ⟨.unterminatedString, begin⟩
      | e :: rest' =>
        if e == 'u' then
          match unicodeEscape rest' (pos + 2) with
          | .error err => .error err
          | .ok (held, n) => readString begin (rest'.drop n) (pos + 2 + n) (held.reverse ++ acc)
        else
          match simpleEscape e with
          | some ch => readString begin rest' (pos + 2) (ch :: acc)
          | none => .error ⟨.invalidEscape, pos⟩
    else if c.toNat < 0x20 then .error ⟨.invalidControlCharacter, pos⟩
    else readString begin rest (pos + 1) (c :: acc)
termination_by cs.length
decreasing_by all_goals simp only [List.length_cons, List.length_drop]; omega

def digits (cs : List Char) : List Char := cs.takeWhile Char.isDigit

def digitsValue (ds : List Char) : Nat := ds.foldl (fun n ch => n * 10 + (ch.toNat - '0'.toNat)) 0

/-- An exponent part at the start of `cs`: whether it is negative, its digits and the
number of characters it takes; `none` unless a digit follows the mark and sign. -/
def exponentPart (cs : List Char) : Option (Bool × List Char × Nat) :=
  match cs with
  | e :: r =>
    if e == 'e' || e == 'E' then
      let (negative, signLength, r) :=
        match r with
        | '-' :: t => (true, 1, t)
        | '+' :: t => (false, 1, t)
        | t => (false, 0, t)
      let ds := digits r
      if ds.isEmpty then none else some (negative, ds, 1 + signLength + ds.length)
    else none
  | [] => none

/-- Read a number at the cursor: an optional minus, an integer part without leading
zeros, then a fraction and an exponent when they are complete. -/
def readNumber (c : Cursor) : Except ReadError (Json × Cursor) :=
  let (negative, body) :=
    match c.rest with
    | '-' :: r => (true, r)
    | r => (false, r)
  match body with
  | d :: _ =>
    if !d.isDigit then .error ⟨.expectingValue, c.pos⟩
    else
      let whole := if d == '0' then ['0'] else digits body
      let afterWhole := body.drop whole.length
      let fraction :=
        match afterWhole with
        | '.' :: f :: _ => if f.isDigit then digits (afterWhole.drop 1) else []
        | _ => []
      let fractionLength := if fraction.isEmpty then 0 else fraction.length + 1
      let exponent := exponentPart (afterWhole.drop fractionLength)
      let used := (if negative then 1 else 0) + whole.length + fractionLength +
        (match exponent with | some (_, _, n) => n | none => 0)
      let next := c.advance used
      if fraction.isEmpty ∧ exponent.isNone then
        if whole.length > Decimal.maxIntDigits then .error ⟨.tooManyDigits whole.length, c.pos⟩
        else
          let n : Int := digitsValue whole
          .ok (.int (if negative then -n else n), next)
      else
        let exponentValue : Int :=
          match exponent with
          | some (eneg, ds, _) => if eneg then -(digitsValue ds : Int) else digitsValue ds
          | none => 0
        .ok (.float (Binary64.ofDecimal negative (digitsValue (whole ++ fraction))
          (exponentValue - fraction.length)), next)
  | [] => .error ⟨.expectingValue, c.pos⟩

def Cursor.startsWith (c : Cursor) (w : String) : Bool := w.toList.isPrefixOf c.rest

mutual

/-- Read one value at the cursor, where `room` more arrays or objects may open. -/
def readValue : Nat → Nat → Cursor → Except ReadError (Json × Cursor)
  | 0, _, c => .error ⟨.expectingValue, c.pos⟩
  | fuel + 1, room, c =>
    match c.rest with
    | [] => .error ⟨.expectingValue, c.pos⟩
    | ch :: rest =>
      if ch == '"' then
        (readString c.pos rest (c.pos + 1) []).map fun (s, c') => (.str s, c')
      else if ch == '{' then
        if room == 0 then .error ⟨.tooDeep false, c.pos⟩
        else readObject fuel (room - 1) (c.advance 1).skipSpace true []
      else if ch == '[' then
        if room == 0 then .error ⟨.tooDeep true, c.pos⟩
        else readArray fuel (room - 1) (c.advance 1).skipSpace true []
      else if c.startsWith "null" then .ok (.null, c.advance 4)
      else if c.startsWith "true" then .ok (.bool true, c.advance 4)
      else if c.startsWith "false" then .ok (.bool false, c.advance 5)
      else if c.startsWith "NaN" then .ok (.float Binary64.nan, c.advance 3)
      else if c.startsWith "Infinity" then .ok (.float (Binary64.infinity false), c.advance 8)
      else if c.startsWith "-Infinity" then .ok (.float (Binary64.infinity true), c.advance 9)
      else readNumber c

/-- Read the items of an array after its opening bracket and any blanks. -/
def readArray : Nat → Nat → Cursor → Bool → List Json → Except ReadError (Json × Cursor)
  | 0, _, c, _, _ => .error ⟨.expectingValue, c.pos⟩
  | fuel + 1, room, c, first, acc =>
    match c.rest with
    | ']' :: _ =>
      if first then .ok (.arr [], c.advance 1) else .error ⟨.expectingValue, c.pos⟩
    | _ =>
      match readValue fuel room c with
      | .error e => .error e
      | .ok (v, c) =>
        let c := c.skipSpace
        match c.rest with
        | ']' :: _ => .ok (.arr (v :: acc).reverse, c.advance 1)
        | ',' :: _ => readArray fuel room (c.advance 1).skipSpace false (v :: acc)
        | _ => .error ⟨.expectingComma, c.pos⟩

/-- Read the fields of an object after its opening brace and any blanks. -/
def readObject : Nat → Nat → Cursor → Bool → List (String × Json) →
    Except ReadError (Json × Cursor)
  | 0, _, c, _, _ => .error ⟨.expectingValue, c.pos⟩
  | fuel + 1, room, c, first, acc =>
    match c.rest with
    | '}' :: _ =>
      if first then .ok (.obj [], c.advance 1) else .error ⟨.expectingPropertyName, c.pos⟩
    | '"' :: rest =>
      match readString c.pos rest (c.pos + 1) [] with
      | .error e => .error e
      | .ok (key, c) =>
        let c := c.skipSpace
        match c.rest with
        | ':' :: _ =>
          match readValue fuel room (c.advance 1).skipSpace with
          | .error e => .error e
          | .ok (v, c) =>
            let acc := setField acc key v
            let c := c.skipSpace
            match c.rest with
            | '}' :: _ => .ok (.obj acc, c.advance 1)
            | ',' :: _ => readObject fuel room (c.advance 1).skipSpace false acc
            | _ => .error ⟨.expectingComma, c.pos⟩
        | _ => .error ⟨.expectingColon, c.pos⟩
    | _ => .error ⟨.expectingPropertyName, c.pos⟩

end

/-- Read a whole document, one value with blanks around it, in which at most `room`
arrays and objects nest. -/
def readWithin (room : Nat) (doc : String) : Except ReadError Json :=
  let cs := doc.toList
  match cs with
  | '\ufeff' :: _ => .error ⟨.unexpectedByteOrderMark, 0⟩
  | _ =>
    let start : Cursor := Cursor.skipSpace ⟨cs, 0⟩
    match readValue (cs.length + 1) room start with
    | .error e => .error e
    | .ok (v, c) =>
      let c := c.skipSpace
      if c.rest.isEmpty then .ok v else .error ⟨.extraData, c.pos⟩

/-- Read a whole document: one value with blanks around it, nested as deep as its text
allows. -/
def read (doc : String) : Except ReadError Json := readWithin (doc.length + 1) doc

end Json

end VirtualMocap
