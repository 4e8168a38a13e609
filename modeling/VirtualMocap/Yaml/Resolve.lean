/-!
# The types of plain scalars

A plain scalar's text decides its type, by the rules of YAML 1.1 tried in order
(`Yaml.resolve`): a truth value, a floating-point number, an integer in any of its bases
or sexagesimal, the merge key `<<`, null, a timestamp, the value key `=`, and otherwise a
text. Each rule is tried only for texts starting with one of its characters.
-/

namespace VirtualMocap

namespace Yaml

def coreTag (name : String) : String := "tag:yaml.org,2002:" ++ name

def isDigit (c : Char) : Bool := '0' ≤ c && c ≤ '9'

def dropSign : List Char → List Char
  | '-' :: r => r
  | '+' :: r => r
  | r => r

def allNonEmpty (p : Char → Bool) (cs : List Char) : Bool := !cs.isEmpty && cs.all p

/-- The parts after the first of a sexagesimal number: each one digit, or two digits of
which the first is at most 5. -/
def isSexagesimalPart (cs : List Char) : Bool :=
  match cs with
  | [d] => isDigit d
  | [d, e] => '0' ≤ d && d ≤ '5' && isDigit e
  | _ => false

def splitColons (cs : List Char) : List (List Char) := (String.ofList cs).splitOn ":" |>.map String.toList

def isDigitRun (first : Char → Bool) : List Char → Bool
  | c :: rest => first c && rest.all fun c => isDigit c || c == '_'
  | [] => false

def isIntText (text : List Char) : Bool :=
  let cs := dropSign text
  match cs with
  | '0' :: 'b' :: rest => allNonEmpty (fun c => c == '0' || c == '1' || c == '_') rest
  | '0' :: 'x' :: rest => allNonEmpty (fun c => isDigit c || ('a' ≤ c && c ≤ 'f') ||
      ('A' ≤ c && c ≤ 'F') || c == '_') rest
  | ['0'] => true
  | '0' :: rest => allNonEmpty (fun c => ('0' ≤ c && c ≤ '7') || c == '_') rest
  | _ =>
    match splitColons cs with
    | [whole] => isDigitRun (fun c => '1' ≤ c && c ≤ '9') whole
    | whole :: parts => isDigitRun (fun c => '1' ≤ c && c ≤ '9') whole && parts.all isSexagesimalPart
    | [] => false

def isExponent : List Char → Bool
  | [] => true
  | e :: s :: ds => (e == 'e' || e == 'E') && (s == '-' || s == '+') && allNonEmpty isDigit ds
  | _ => false

def isFractionThenExponent (cs : List Char) : Bool :=
  let frac := cs.takeWhile fun c => isDigit c || c == '_'
  isExponent (cs.drop frac.length)

def isFloatText (text : List Char) : Bool :=
  let word := String.ofList text
  if word == ".nan" || word == ".NaN" || word == ".NAN" then true
  else
    let cs := dropSign text
    let unsigned := String.ofList cs
    if unsigned == ".inf" || unsigned == ".Inf" || unsigned == ".INF" then true
    else
      match text with
      | '.' :: d :: rest => isDigit d && isFractionThenExponent rest
      | _ =>
        match cs.idxOf? '.' with
        | none => false
        | some i =>
          let before := cs.take i
          let after := cs.drop (i + 1)
          match splitColons before with
          | [whole] => isDigitRun isDigit whole && isFractionThenExponent after
          | whole :: parts =>
            isDigitRun isDigit whole && parts.all isSexagesimalPart &&
              after.all fun c => isDigit c || c == '_'
          | [] => false

def isDigits (n : Nat) (cs : List Char) : Bool := cs.length == n && cs.all isDigit

def isShortDigits (cs : List Char) : Bool := (cs.length == 1 || cs.length == 2) && cs.all isDigit

def isZone : List Char → Bool
  | ['Z'] => true
  | s :: rest =>
    (s == '-' || s == '+') &&
      match rest.idxOf? ':' with
      | none => isShortDigits rest
      | some i => isShortDigits (rest.take i) && isDigits 2 (rest.drop (i + 1))
  | [] => false

/-- The time part of a timestamp after the date: hours, minutes, seconds, an optional
fraction, and an optional zone after optional blanks. -/
def isTimePart (cs : List Char) : Bool :=
  let hour := cs.takeWhile isDigit
  let r := cs.drop hour.length
  isShortDigits hour &&
  match r with
  | ':' :: m1 :: m2 :: ':' :: s1 :: s2 :: rest =>
    isDigit m1 && isDigit m2 && isDigit s1 && isDigit s2 &&
      let rest := match rest with
        | '.' :: r => r.dropWhile isDigit
        | r => r
      let zone := rest.dropWhile fun c => c == ' ' || c == '\t'
      zone.isEmpty || isZone zone
  | _ => false

def isTimestampText (cs : List Char) : Bool :=
  if cs.length == 10 && isDigits 4 (cs.take 4) && cs[4]? == some '-' &&
      isDigits 2 ((cs.drop 5).take 2) && cs[7]? == some '-' && isDigits 2 (cs.drop 8) then true
  else
    let year := cs.take 4
    match cs.drop 4 with
    | '-' :: rest =>
      let month := rest.takeWhile isDigit
      match rest.drop month.length with
      | '-' :: rest =>
        let day := rest.takeWhile isDigit
        let rest := rest.drop day.length
        let timePart := match rest with
          | 'T' :: r => some r
          | 't' :: r => some r
          | c :: r => if c == ' ' || c == '\t' then some (r.dropWhile fun c => c == ' ' || c == '\t')
            else none
          | [] => none
        isDigits 4 year && isShortDigits month && isShortDigits day &&
          match timePart with
          | some t => isTimePart t
          | none => false
      | _ => false
    | _ => false

def boolWords : List String :=
  ["yes", "Yes", "YES", "no", "No", "NO", "true", "True", "TRUE", "false", "False", "FALSE",
    "on", "On", "ON", "off", "Off", "OFF"]

/-- The tag of a plain scalar, from its text. -/
def resolve (text : String) : String :=
  let cs := text.toList
  let first := cs.headD '\x00'
  if "yYnNtTfFoO".contains first && boolWords.contains text then coreTag "bool"
  else if "-+0123456789.".contains first && isFloatText cs then coreTag "float"
  else if "-+0123456789".contains first && isIntText cs then coreTag "int"
  else if text == "<<" then coreTag "merge"
  else if text == "~" || text == "null" || text == "Null" || text == "NULL" || text.isEmpty then
    coreTag "null"
  else if isDigit first && isTimestampText cs then coreTag "timestamp"
  else if text == "=" then coreTag "value"
  else coreTag "str"

end Yaml

end VirtualMocap
