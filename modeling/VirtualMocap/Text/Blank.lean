/-!
# Blank characters

`Text.isWhiteSpace` is the Unicode `White_Space` property; `Text.isBlank` adds the four
ASCII information separators, which count as blank when text is trimmed or read as a
number. `Text.lines` cuts a text into lines.
-/

namespace VirtualMocap

namespace Text

/-- Whether a character has the Unicode `White_Space` property. -/
def isWhiteSpace (c : Char) : Bool :=
  c == ' ' || ('\t' ≤ c && c ≤ '\r') || c == '\x85' ||
  c == '\xa0' || c == '\u1680' || ('\u2000' ≤ c && c ≤ '\u200a') || c == '\u2028' ||
  c == '\u2029' || c == '\u202f' || c == '\u205f' || c == '\u3000'

/-- Whether a character is blank for trimming: white space or an information
separator. -/
def isBlank (c : Char) : Bool :=
  isWhiteSpace c || ('\x1c' ≤ c && c ≤ '\x1f')

def trimBy (p : Char → Bool) (cs : List Char) : List Char :=
  ((cs.dropWhile p).reverse.dropWhile p).reverse

def trimBlanks (cs : List Char) : List Char := trimBy isBlank cs

/-- Split at line ends, a line end being a line feed, a carriage return, or a carriage
return followed by a line feed; `current` holds the line read so far, reversed. -/
def linesFrom : List Char → List Char → List String
  | [], current => [String.ofList current.reverse]
  | '\r' :: '\n' :: rest, current => String.ofList current.reverse :: linesFrom rest []
  | '\r' :: rest, current => String.ofList current.reverse :: linesFrom rest []
  | '\n' :: rest, current => String.ofList current.reverse :: linesFrom rest []
  | c :: rest, current => linesFrom rest (c :: current)

/-- The lines of a text; after a final line end comes one empty line. -/
def lines (s : String) : List String := linesFrom s.toList []

end Text

end VirtualMocap
