import VirtualMocap.Number.Binary64
import VirtualMocap.Text.Blank
import VirtualMocap.Text.Digit
import VirtualMocap.Text.Quoted

/-!
# Reading decimal text as numbers

`Binary64.ofDecimal` rounds `± digits · 10^exponent` to the nearest double, ties to even,
by one exact division. `Decimal.readFloat?` and `Decimal.readInt` first make the text
plain (`Decimal.plainNumeral`), then allow blanks around the number and single
underscores between its digits.
-/

namespace VirtualMocap

namespace Binary64

/-- The double nearest to `± digits · 10^exponent`. -/
def ofDecimal (negative : Bool) (digits : Nat) (exponent : Int) : Binary64 :=
  let size : Int := (toString digits).length
  if digits = 0 then (if negative then negZero else zero)
  else if exponent + size > 310 then infinity negative
  else if exponent + size < -330 then (if negative then negZero else zero)
  else if 0 ≤ exponent then ofRatio negative (digits * tenPow exponent.toNat) 1
  else ofRatio negative digits (tenPow (-exponent).toNat)

end Binary64

namespace Decimal

def isAsciiDigit (c : Char) : Bool := '0' ≤ c && c ≤ '9'

/-- The blanks a number's text may have around it: space, tab, line feed, vertical
tab, form feed and carriage return. -/
def isAsciiSpace (c : Char) : Bool := c == ' ' || ('\t' ≤ c && c ≤ '\r')

/-- The text of a number made plain: characters below `\x7f` stay, a blank outside
ASCII becomes a space, a decimal digit of another script becomes its ASCII digit, and
any other character ends the text with a `?`, which no number has. -/
def plainNumeral : List Char → List Char
  | [] => []
  | c :: rest =>
    if c.toNat < 0x7f then c :: plainNumeral rest
    else if Text.isWhiteSpace c then ' ' :: plainNumeral rest
    else
      match Text.digitValue? c with
      | some d => Char.ofNat ('0'.toNat + d) :: plainNumeral rest
      | none => ['?']

def digitRun : List Char → Nat → Nat → Nat × Nat × List Char
  | c :: rest, value, count =>
    if isAsciiDigit c then digitRun rest (value * 10 + (c.toNat - '0'.toNat)) (count + 1)
    else (value, count, c :: rest)
  | [], value, count => (value, count, [])

/-- Read an exponent part: empty, or `e` or `E`, a sign and at least one digit. -/
def exponentPart : List Char → Option Int
  | [] => some 0
  | e :: r =>
    if e == 'e' || e == 'E' then
      let (negative, r) :=
        match r with
        | '-' :: t => (true, t)
        | '+' :: t => (false, t)
        | t => (false, t)
      match digitRun r 0 0 with
      | (v, n, []) => if n = 0 then none else some (if negative then -(v : Int) else v)
      | _ => none
    else none

/-- Read the bare text of a floating-point number: a sign, then `inf`, `infinity` or
`nan` in any case, or digits with an optional point (a digit on at least one side of
it) and an optional exponent. -/
def plainFloat? (cs : List Char) : Option Binary64 :=
  let (negative, cs) :=
    match cs with
    | '-' :: r => (true, r)
    | '+' :: r => (false, r)
    | r => (false, r)
  let word := cs.map Char.toLower
  if word = "inf".toList ∨ word = "infinity".toList then some (Binary64.infinity negative)
  else if word = "nan".toList then
    some (if negative then Binary64.nan.neg else Binary64.nan)
  else
    let (whole, wholeCount, rest) := digitRun cs 0 0
    let (frac, fracCount, rest) :=
      match rest with
      | '.' :: r => digitRun r 0 0
      | r => (0, 0, r)
    if wholeCount + fracCount = 0 then none
    else (exponentPart rest).map fun x =>
      Binary64.ofDecimal negative (whole * tenPow fracCount + frac) (x - fracCount)

def underscoresBetweenDigits : List Char → Bool
  | a :: '_' :: b :: rest => isAsciiDigit a && isAsciiDigit b && underscoresBetweenDigits (b :: rest)
  | '_' :: _ => false
  | [_, '_'] => false
  | _ :: rest => underscoresBetweenDigits rest
  | [] => true

/-- Read the text of a floating-point number as the number conversion of text does:
plain, blanks around it, underscores only between digits. -/
def readFloat? (s : String) : Option Binary64 :=
  let cs := Text.trimBy isAsciiSpace (plainNumeral s.toList)
  if cs.contains '_' then
    if underscoresBetweenDigits cs then plainFloat? (cs.filter (· != '_')) else none
  else plainFloat? cs

/-- The most digits that integer text in a base other than a power of two may have. -/
def maxIntDigits : Nat := 4300

/-- Why integer text is refused. -/
inductive IntTextError where
  /-- The text is not an integer in the base. -/
  | invalid
  /-- The integer has this many digits, more than `maxIntDigits`. -/
  | tooManyDigits (count : Nat)
  deriving DecidableEq, Repr

def IntTextError.message (e : IntTextError) (text : String) (base : Nat) : String :=
  match e with
  | .invalid => s!"invalid literal for int() with base {base}: {Text.quoted text}"
  | .tooManyDigits n =>
    s!"Exceeds the limit ({maxIntDigits} digits) for integer string conversion: value has {n} " ++
      "digits; use sys.set_int_max_str_digits() to increase the limit"

def digitOf? (c : Char) : Option Nat :=
  if isAsciiDigit c then some (c.toNat - '0'.toNat)
  else if 'a' ≤ c && c ≤ 'z' then some (c.toNat - 'a'.toNat + 10)
  else if 'A' ≤ c && c ≤ 'Z' then some (c.toNat - 'A'.toNat + 10)
  else none

/-- Read the digits of `base` as far as they go, single underscores allowed between
them: the digits, last first, and the rest; `none` when two underscores meet or one ends
the run. -/
def baseRun (base : Nat) : List Char → Bool → List Nat → Option (List Nat × List Char)
  | [], afterUnderscore, acc => if afterUnderscore then none else some (acc, [])
  | c :: rest, afterUnderscore, acc =>
    if c == '_' then
      if afterUnderscore then none else baseRun base rest true acc
    else
      match digitOf? c with
      | some d =>
        if d < base then baseRun base rest false (d :: acc)
        else if afterUnderscore then none else some (acc, c :: rest)
      | none => if afterUnderscore then none else some (acc, c :: rest)

def dropBaseMark (base : Nat) (cs : List Char) : List Char :=
  let marked := match cs with
    | '0' :: m :: rest =>
      if (base == 16 && (m == 'x' || m == 'X')) || (base == 8 && (m == 'o' || m == 'O')) ||
          (base == 2 && (m == 'b' || m == 'B')) then some rest
      else none
    | _ => none
  match marked with
  | some ('_' :: rest) => rest
  | some rest => rest
  | none => cs

def isBinaryBase (base : Nat) : Bool :=
  base == 2 || base == 4 || base == 8 || base == 16 || base == 32

/-- Read integer text in a base from 2 to 36 as the integer conversion of text does:
plain, blanks around it, a sign, the mark of the base, and digits with single
underscores between them. -/
def readInt (base : Nat) (s : String) : Except IntTextError Int := do
  let cs := (plainNumeral s.toList).dropWhile isAsciiSpace
  let (negative, cs) :=
    match cs with
    | '-' :: r => (true, r)
    | '+' :: r => (false, r)
    | r => (false, r)
  let cs := dropBaseMark base cs
  if cs.head? == some '_' then throw .invalid
  match baseRun base cs false [] with
  | none => throw .invalid
  | some (ds, rest) =>
    if !isBinaryBase base && ds.length > maxIntDigits then throw (.tooManyDigits ds.length)
    if ds.isEmpty || !rest.all isAsciiSpace then throw .invalid
    let n := ds.reverse.foldl (fun n d => n * base + d) 0
    return if negative then -(n : Int) else n

end Decimal

end VirtualMocap
