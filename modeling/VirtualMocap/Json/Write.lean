import VirtualMocap.Json.Value
import VirtualMocap.Decimal.Text
import VirtualMocap.Text.Quoted
import VirtualMocap.Bytes.Hex

/-!
# Writing JSON

`Json.write` writes a value in a `Json.Style`: texts escaped only where they must be,
floating-point numbers in their shortest round-trip digits. `Json.literal` is the form in
which messages quote a value.
-/

namespace VirtualMocap

namespace Json

/-- How a document writes NaN and the infinities. -/
inductive NonFinite where
  /-- The bare words `NaN`, `Infinity` and `-Infinity`. -/
  | bare
  /-- The strings `"NaN"`, `"-NaN"` (sign bit set), `"Infinity"` and `"-Infinity"`. -/
  | quoted
  deriving DecidableEq, Repr

/-- The layout decisions of a written document. -/
structure Style where
  itemSeparator : String
  keySeparator : String
  nonFinite : NonFinite
  /-- Whether unpaired surrogates are escaped rather than left for the byte encoding to
  refuse. -/
  escapeSurrogates : Bool

/-- Items apart by a comma and a blank, keys by a colon and a blank, bare non-finite
numbers, surrogates left as they are: the layout of recording files. -/
def Style.spaced : Style := ⟨", ", ": ", .bare, false⟩

def Style.compact : Style := ⟨",", ":", .quoted, true⟩

/-- The escaped form of a code point inside a JSON string, as held text. -/
def escapeCodePoint (escapeSurrogates : Bool) : Text.CodePoint → String
  | .surrogate u =>
    if escapeSurrogates then "\\u" ++ Text.hexDigits u 4
    else String.ofList (Text.CodePoint.surrogate u).held
  | .scalar c =>
    if c == '"' then "\\\""
    else if c == '\\' then "\\\\"
    else if c == '\n' then "\\n"
    else if c == '\r' then "\\r"
    else if c == '\t' then "\\t"
    else if c == '\x08' then "\\b"
    else if c == '\x0c' then "\\f"
    else if c.toNat < 0x20 then "\\u" ++ Text.hexDigits c.toNat 4
    else String.ofList (Text.CodePoint.scalar c).held

def writeString (st : Style) (s : String) : String :=
  "\"" ++ String.join ((Text.codePoints s).map (escapeCodePoint st.escapeSurrogates)) ++ "\""

def writeFloat (st : Style) (x : Binary64) : String :=
  if x.isFinite then x.toText
  else
    let word :=
      if x.isNaN then (if st.nonFinite == .quoted && x.signBit then "-NaN" else "NaN")
      else if x.isNegative then "-Infinity" else "Infinity"
    if st.nonFinite == .quoted then "\"" ++ word ++ "\"" else word

mutual

/-- A value in a style. -/
def write (st : Style) : Json → String
  | .null => "null"
  | .bool b => if b then "true" else "false"
  | .int n => toString n
  | .float x => writeFloat st x
  | .str s => writeString st s
  | .arr items => "[" ++ st.itemSeparator.intercalate (writeItems st items) ++ "]"
  | .obj fields => "\x7b" ++ st.itemSeparator.intercalate (writeFields st fields) ++ "\x7d"
  | .bytes data => writeString st (Bytes.toHex data)

def writeItems (st : Style) : List Json → List String
  | [] => []
  | v :: rest => write st v :: writeItems st rest

/-- The fields of an object, each written as key, separator and value. -/
def writeFields (st : Style) : List (String × Json) → List String
  | [] => []
  | (k, v) :: rest => (writeString st k ++ st.keySeparator ++ write st v) :: writeFields st rest

end

/-- One byte inside quoted bytes `q`: printable ASCII as it is, the quote and the
backslash escaped, tab, line feed and carriage return by letter, others in hexadecimal. -/
def quoteByte (q : Char) (b : UInt8) : String :=
  let c := Char.ofNat b.toNat
  if c == q || c == '\\' then String.ofList ['\\', c]
  else if c == '\t' then "\\t"
  else if c == '\n' then "\\n"
  else if c == '\r' then "\\r"
  else if 0x20 ≤ b.toNat && b.toNat < 0x7F then c.toString
  else "\\x" ++ Text.hexDigits b.toNat 2

/-- The quoted form of bytes: `b` and the bytes between single quotes, or between double
quotes when they hold a single quote and no double quote. -/
def bytesLiteral (data : List UInt8) : String :=
  let q := if data.contains 0x27 && !data.contains 0x22 then '"' else '\''
  "b" ++ q.toString ++ String.join (data.map (quoteByte q)) ++ q.toString

mutual

/-- The form in which messages quote a value. -/
def literal : Json → String
  | .null => "None"
  | .bool b => if b then "True" else "False"
  | .int n => toString n
  | .float x => x.toText
  | .str s => Text.quoted s
  | .arr items => "[" ++ ", ".intercalate (literalItems items) ++ "]"
  | .obj fields => "\x7b" ++ ", ".intercalate (literalFields fields) ++ "\x7d"
  | .bytes data => bytesLiteral data

def literalItems : List Json → List String
  | [] => []
  | v :: rest => literal v :: literalItems rest

def literalFields : List (String × Json) → List String
  | [] => []
  | (k, v) :: rest => (Text.quoted k ++ ": " ++ literal v) :: literalFields rest

end

end Json

end VirtualMocap
