import VirtualMocap.Text.Printable
import VirtualMocap.Text.CodePoint

/-!
# Quoted text

The quoted form of a text, as messages show it: between single quotes, or between
double quotes when the text holds a single quote and no double quote. The chosen quote
and the backslash are escaped with a backslash; tab, line feed and carriage return are
written `\t`, `\n`, `\r`; other control characters and characters that are not
printable are written in hexadecimal as `\xNN`, `\uNNNN` or `\UNNNNNNNN`, whichever is
the shortest that holds them. An unpaired surrogate is written `\uNNNN`.
-/

namespace VirtualMocap

namespace Text

/-- The lower-case hexadecimal digits of `n`, at least `width` of them. -/
def hexDigits (n width : Nat) : String :=
  let ds := Nat.toDigits 16 n
  String.ofList (List.replicate (width - ds.length) '0' ++ ds)

def quoteChar (q c : Char) : String :=
  if c == q || c == '\\' then String.ofList ['\\', c]
  else if c == '\t' then "\\t"
  else if c == '\n' then "\\n"
  else if c == '\r' then "\\r"
  else if c.toNat < 0x20 || c.toNat == 0x7F then "\\x" ++ hexDigits c.toNat 2
  else if c.toNat < 0x7F then c.toString
  else if isPrintable c then ofCodePoints [.scalar c]
  else if c.toNat ≤ 0xFF then "\\x" ++ hexDigits c.toNat 2
  else if c.toNat ≤ 0xFFFF then "\\u" ++ hexDigits c.toNat 4
  else "\\U" ++ hexDigits c.toNat 8

def quoteCodePoint (q : Char) : CodePoint → String
  | .scalar c => quoteChar q c
  | .surrogate u => "\\u" ++ hexDigits u 4

def quoteFor (s : String) : Char :=
  if s.toList.contains '\'' && !s.toList.contains '"' then '"' else '\''

def quoted (s : String) : String :=
  let q := quoteFor s
  q.toString ++ String.join ((codePoints s).map (quoteCodePoint q)) ++ q.toString

end Text

end VirtualMocap
