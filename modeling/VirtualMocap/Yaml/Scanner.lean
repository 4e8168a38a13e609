import VirtualMocap.Yaml.Token
import VirtualMocap.Text.Utf8
import VirtualMocap.Decimal.Read

/-!
# Scanning YAML text into tokens

`nextToken` hands out tokens one at a time, scanning only as far as it must: indentation
opens and closes block collections, and a scalar becomes a simple key when a `:` follows
it on the same line. Every step that stands for a call runs one level deeper than its
caller (`call`), and a step past `Scanner.limit` fails with `tooDeep`. Every loop
advances through the text.
-/

namespace VirtualMocap

namespace Yaml

/-- A place where a simple key may begin. -/
structure SimpleKey where
  tokenNumber : Nat
  /-- Whether a key must follow: it opens a line of a block mapping. -/
  required : Bool
  mark : Mark
  deriving DecidableEq, Repr

/-- The scanner: the text, the position, and the tokens not yet handed out. -/
structure Scanner where
  /-- The text, followed by a NUL. -/
  buffer : Array Char
  pointer : Nat := 0
  line : Nat := 0
  column : Nat := 0
  /-- Whether the end of the stream has been scanned. -/
  done : Bool := false
  flowLevel : Int := 0
  tokens : List Token := []
  tokensTaken : Nat := 0
  indent : Int := -1
  /-- The indentations of the enclosing block collections, innermost first. -/
  indents : List Int := []
  allowSimpleKey : Bool := true
  /-- The possible simple key of each flow level, oldest first. -/
  simpleKeys : List (Int × SimpleKey) := []
  /-- How deep the calls of reading are nested at this step. -/
  depth : Nat := 0
  /-- The deepest nesting of calls that reading may reach. -/
  limit : Nat := 0

abbrev ScanM := StateT Scanner (Except YamlError)

def isBreak (c : Char) : Bool :=
  c == '\r' || c == '\n' || c == '\x85' || c == '\u2028' || c == '\u2029'

def isBreakZ (c : Char) : Bool := c == '\x00' || isBreak c

def isBlankZ (c : Char) : Bool := c == ' ' || c == '\t' || isBreakZ c

def isWordChar (c : Char) : Bool :=
  ('0' ≤ c && c ≤ '9') || ('A' ≤ c && c ≤ 'Z') || ('a' ≤ c && c ≤ 'z') || c == '-' || c == '_'

def isHexDigit (c : Char) : Bool :=
  ('0' ≤ c && c ≤ '9') || ('A' ≤ c && c ≤ 'F') || ('a' ≤ c && c ≤ 'f')

def hexDigitValue (c : Char) : Nat :=
  if c ≤ '9' then c.toNat - '0'.toNat
  else if c ≤ 'F' then c.toNat - 'A'.toNat + 10
  else c.toNat - 'a'.toNat + 10

def isUriChar (c : Char) : Bool := isWordChar c || "-;/?:@&=+$,_.!~*'()[]%".contains c

def quoteChar (c : Char) : String := Text.quoted (String.singleton c)

namespace Scanner

/-- A scanner at the start of a text, holding the stream-start token, whose calls start
`depth` deep and may nest up to `limit`. -/
def init (text : String) (depth limit : Nat) : Scanner :=
  { buffer := (text.toList ++ ['\x00']).toArray,
    tokens := [⟨.streamStart, ⟨0, 0, 0⟩, ⟨0, 0, 0⟩⟩], depth, limit }

def enter : ScanM Unit := do
  let s ← get
  if s.depth + 1 > s.limit then throw (.tooDeep .enter)
  set { s with depth := s.depth + 1 }

def leave : ScanM Unit := modify fun s => { s with depth := s.depth - 1 }

def makeObject : ScanM Unit := do
  let s ← get
  if s.depth + 1 > s.limit then throw (.tooDeep .construct)
  if s.depth + 2 > s.limit then throw (.tooDeep .enter)

end Scanner

/-- Run a step as a call, one level deeper than the step that runs it. -/
def call {m : Type → Type} [Monad m] [MonadLiftT ScanM m] {α : Type} (body : m α) : m α := do
  monadLift Scanner.enter
  let a ← body
  monadLift Scanner.leave
  return a

/-- Make an object at the current depth. -/
def construct {m : Type → Type} [MonadLiftT ScanM m] : m Unit := monadLift Scanner.makeObject

/-- The character `k` places ahead. -/
def peek (k : Nat := 0) : ScanM Char := call do
  let s ← get
  return s.buffer.getD (s.pointer + k) '\x00'

/-- The call that would read more text when a step reaches the end of what is read; the
whole text is read from the start, so it only nests. -/
def nearEnd : ScanM Unit := call (pure ())

/-- The next `n` characters. -/
def ahead (n : Nat) : ScanM (List Char) := call do
  let s ← get
  if s.pointer + n ≥ s.buffer.size then nearEnd
  return (s.buffer.extract s.pointer (s.pointer + n)).toList

def aheadText (n : Nat) : ScanM String := return String.ofList (← ahead n)

/-- The current position. -/
def getMark : ScanM Mark := call do
  construct
  let s ← get
  return ⟨s.pointer, s.line, s.column⟩

def budget : ScanM Nat := return (← get).buffer.size + 1

def forward1 : ScanM Unit := modify fun s =>
  let c := s.buffer.getD s.pointer '\x00'
  let nextChar := s.buffer.getD (s.pointer + 1) '\x00'
  if c == '\n' || c == '\x85' || c == '\u2028' || c == '\u2029' || (c == '\r' && nextChar != '\n') then
    { s with pointer := s.pointer + 1, line := s.line + 1, column := 0 }
  else if c == '\ufeff' then { s with pointer := s.pointer + 1 }
  else { s with pointer := s.pointer + 1, column := s.column + 1 }

/-- Move over `n` characters. -/
def forward (n : Nat := 1) : ScanM Unit := call do
  let s ← get
  if s.pointer + n + 1 ≥ s.buffer.size then nearEnd
  for _ in [0:n] do forward1

def skipWhile (p : Char → Bool) : ScanM Unit := do
  for _ in [0:(← budget)] do
    if p (← peek) then forward 1 else break

def runLength (p : Char → Bool) (k : Nat := 0) : ScanM Nat := do
  let mut n := 0
  for _ in [0:(← budget)] do
    if p (← peek (k + n)) then n := n + 1 else break
  return n

def take (n : Nat) : ScanM String := do
  let t ← aheadText n
  forward n
  return t

def fail {α : Type} (context : Option (String × Mark)) (problem : String) : ScanM α := do
  let m ← getMark
  construct
  throw (.marked .scanner context problem m)

/-- Move over a line break, if one is next: a carriage return and line feed count as one
line feed, and so do a lone carriage return and a next-line character. -/
def scanLineBreak : ScanM String := call do
  let c ← peek
  if c == '\r' || c == '\n' || c == '\x85' then
    if (← aheadText 2) == "\r\n" then forward 2 else forward 1
    return "\n"
  else if c == '\u2028' || c == '\u2029' then
    forward 1
    return String.singleton c
  else return ""

def push (t : Token) : ScanM Unit := modify fun s => { s with tokens := s.tokens ++ [t] }

def pushOver (kind : TokenKind) (n : Nat) : ScanM Unit := do
  let start ← getMark
  forward n
  let stop ← getMark
  construct
  push ⟨kind, start, stop⟩

def currentKey? : ScanM (Option SimpleKey) := do
  let s ← get
  return (s.simpleKeys.find? (·.1 == s.flowLevel)).map (·.2)

def dropKey (level : Int) : ScanM Unit :=
  modify fun s => { s with simpleKeys := s.simpleKeys.filter (·.1 != level) }

def keyNotFound {α : Type} (key : SimpleKey) : ScanM α :=
  fail (some ("while scanning a simple key", key.mark)) "could not find expected ':'"

def staleSimpleKeys : ScanM Unit := call do
  let s ← get
  for (level, key) in s.simpleKeys do
    if key.mark.line != s.line || s.pointer - key.mark.index > 1024 then
      if key.required then keyNotFound key
      dropKey level

def removeSimpleKey : ScanM Unit := call do
  if let some key ← currentKey? then
    if key.required then keyNotFound key
    dropKey (← get).flowLevel

def saveSimpleKey : ScanM Unit := call do
  let s ← get
  let required := s.flowLevel == 0 && s.indent == (s.column : Int)
  if s.allowSimpleKey then
    removeSimpleKey
    let s ← get
    let m ← getMark
    construct
    let key : SimpleKey := ⟨s.tokensTaken + s.tokens.length, required, m⟩
    modify fun s => { s with simpleKeys := s.simpleKeys ++ [(s.flowLevel, key)] }

def unwindIndent (column : Int) : ScanM Unit := call do
  if (← get).flowLevel != 0 then return
  for _ in [0:(← get).indents.length + 1] do
    if (← get).indent > column then
      let m ← getMark
      modify fun s => { s with indent := s.indents.headD (-1), indents := s.indents.drop 1 }
      construct
      push ⟨.blockEnd, m, m⟩
    else break

def addIndent (column : Int) : ScanM Bool := call do
  let s ← get
  if s.indent < column then
    set { s with indents := s.indent :: s.indents, indent := column }
    return true
  else return false

def scanToNextToken : ScanM Unit := call do
  if (← get).pointer == 0 then
    if (← peek) == '\ufeff' then forward 1
  for _ in [0:(← budget)] do
    skipWhile (· == ' ')
    if (← peek) == '#' then skipWhile fun c => !isBreakZ c
    if (← scanLineBreak) != "" then
      if (← get).flowLevel == 0 then modify fun s => { s with allowSimpleKey := true }
    else break

/-! ## Directives -/

def scanDirectiveName (start : Mark) : ScanM String := call do
  let n ← runLength isWordChar
  if n == 0 then
    fail (some ("while scanning a directive", start))
      s!"expected alphabetic or numeric character, but found {quoteChar (← peek)}"
  let name ← take n
  let c ← peek
  if !(c == '\x00' || c == ' ' || isBreak c) then
    fail (some ("while scanning a directive", start))
      s!"expected alphabetic or numeric character, but found {quoteChar c}"
  return name

def scanVersionNumber (start : Mark) : ScanM Nat := call do
  let c ← peek
  if !('0' ≤ c && c ≤ '9') then
    fail (some ("while scanning a directive", start)) s!"expected a digit, but found {quoteChar c}"
  let n ← runLength fun c => '0' ≤ c && c ≤ '9'
  let digits ← take n
  match Decimal.readInt 10 digits with
  | .ok v => return v.toNat
  | .error e => throw (.badNumber (e.message digits 10))

def scanVersionValue (start : Mark) : ScanM DirectiveValue := call do
  skipWhile (· == ' ')
  let major ← scanVersionNumber start
  if (← peek) != '.' then
    fail (some ("while scanning a directive", start))
      s!"expected a digit or '.', but found {quoteChar (← peek)}"
  forward 1
  let minor ← scanVersionNumber start
  let c ← peek
  if !(c == '\x00' || c == ' ' || isBreak c) then
    fail (some ("while scanning a directive", start))
      s!"expected a digit or ' ', but found {quoteChar c}"
  return .version major minor

def scanTagHandle (what : String) (start : Mark) : ScanM String := call do
  let c ← peek
  if c != '!' then
    fail (some ("while scanning a " ++ what, start)) s!"expected '!', but found {quoteChar c}"
  let mut n := 1
  if (← peek 1) != ' ' then
    n := 1 + (← runLength isWordChar 1)
    let c ← peek n
    if c != '!' then
      forward n
      fail (some ("while scanning a " ++ what, start)) s!"expected '!', but found {quoteChar c}"
    n := n + 1
  take n

def scanUriEscapes (what : String) (start : Mark) : ScanM String := call do
  let m ← getMark
  let mut bytes : List UInt8 := []
  for _ in [0:(← budget)] do
    if (← peek) != '%' then break
    forward 1
    for k in [0:2] do
      let c ← peek k
      if !isHexDigit c then
        fail (some ("while scanning a " ++ what, start))
          s!"expected URI escape sequence of 2 hexadecimal numbers, but found {quoteChar c}"
    let digits ← ahead 2
    let value := digits.foldl (fun v d => v * 16 + hexDigitValue d) 0
    bytes := bytes ++ [value.toUInt8]
    forward 2
  match Text.decodeUtf8 bytes with
  | .ok s => return s
  | .error e =>
    construct
    throw (.marked .scanner (some ("while scanning a " ++ what, start))
      (e.message bytes) m)

def scanTagUri (what : String) (start : Mark) : ScanM String := call do
  let mut chunks : String := ""
  let mut n := 0
  for _ in [0:(← budget)] do
    let c ← peek n
    if !isUriChar c then break
    if c == '%' then
      chunks := chunks ++ (← take n)
      n := 0
      chunks := chunks ++ (← scanUriEscapes what start)
    else n := n + 1
  if n > 0 then chunks := chunks ++ (← take n)
  if chunks.isEmpty then
    fail (some ("while parsing a " ++ what, start)) s!"expected URI, but found {quoteChar (← peek)}"
  return chunks

def scanTagDirectiveValue (start : Mark) : ScanM DirectiveValue := call do
  skipWhile (· == ' ')
  let handle ← call do
    let handle ← scanTagHandle "directive" start
    let c ← peek
    if c != ' ' then
      fail (some ("while scanning a directive", start)) s!"expected ' ', but found {quoteChar c}"
    return handle
  skipWhile (· == ' ')
  let pfx ← call do
    let pfx ← scanTagUri "directive" start
    let c ← peek
    if !(c == '\x00' || c == ' ' || isBreak c) then
      fail (some ("while scanning a directive", start)) s!"expected ' ', but found {quoteChar c}"
    return pfx
  return .tag handle pfx

def scanDirectiveIgnoredLine (start : Mark) : ScanM Unit := call do
  skipWhile (· == ' ')
  if (← peek) == '#' then skipWhile fun c => !isBreakZ c
  let c ← peek
  if !isBreakZ c then
    fail (some ("while scanning a directive", start))
      s!"expected a comment or a line break, but found {quoteChar c}"
  discard scanLineBreak

def scanDirective : ScanM Token := call do
  let start ← getMark
  forward 1
  let name ← scanDirectiveName start
  let value ← if name == "YAML" then scanVersionValue start
    else if name == "TAG" then scanTagDirectiveValue start
    else pure .none
  let stop ← getMark
  if name != "YAML" && name != "TAG" then skipWhile fun c => !isBreakZ c
  scanDirectiveIgnoredLine start
  construct
  return ⟨.directive name value, start, stop⟩

/-! ## Anchors, aliases and tags -/

def scanAnchor (isAlias : Bool) : ScanM Token := call do
  let start ← getMark
  let what := if isAlias then "while scanning an alias" else "while scanning an anchor"
  discard peek
  forward 1
  let n ← runLength isWordChar
  if n == 0 then
    fail (some (what, start)) s!"expected alphabetic or numeric character, but found {quoteChar (← peek)}"
  let name ← take n
  let c ← peek
  if !(isBlankZ c || "?:,]\x7d%@`".contains c) then
    fail (some (what, start)) s!"expected alphabetic or numeric character, but found {quoteChar c}"
  let stop ← getMark
  construct
  return ⟨if isAlias then .alias name else .anchor name, start, stop⟩

def scanTag : ScanM Token := call do
  let start ← getMark
  let c ← peek 1
  let (handle, suffix) ← do
    if c == '<' then
      forward 2
      let suffix ← scanTagUri "tag" start
      if (← peek) != '>' then
        fail (some ("while parsing a tag", start)) s!"expected '>', but found {quoteChar (← peek)}"
      forward 1
      pure (none, suffix)
    else if isBlankZ c then
      forward 1
      pure (none, "!")
    else
      let n ← runLength (fun c => !(c == '\x00' || c == ' ' || isBreak c || c == '!')) 1
      let useHandle := (← peek (n + 1)) == '!'
      let handle ← if useHandle then scanTagHandle "tag" start else do forward 1; pure "!"
      let suffix ← scanTagUri "tag" start
      pure (some handle, suffix)
  let c ← peek
  if !(c == '\x00' || c == ' ' || isBreak c) then
    fail (some ("while scanning a tag", start)) s!"expected ' ', but found {quoteChar c}"
  let stop ← getMark
  construct
  return ⟨.tag handle suffix, start, stop⟩

/-! ## Block scalars -/

def scanBlockIndicators (start : Mark) : ScanM (Option Bool × Option Nat) := call do
  let context := some ("while scanning a block scalar", start)
  let mut chomping : Option Bool := none
  let mut increment : Option Nat := none
  let c ← peek
  if c == '+' || c == '-' then
    chomping := some (c == '+')
    forward 1
    let d ← peek
    if d.isDigit then
      if d == '0' then
        fail context "expected indentation indicator in the range 1-9, but found 0"
      increment := some (d.toNat - '0'.toNat)
      forward 1
  else if c.isDigit then
    if c == '0' then
      fail context "expected indentation indicator in the range 1-9, but found 0"
    increment := some (c.toNat - '0'.toNat)
    forward 1
    let d ← peek
    if d == '+' || d == '-' then
      chomping := some (d == '+')
      forward 1
  let c ← peek
  if !(c == '\x00' || c == ' ' || isBreak c) then
    fail context s!"expected chomping or indentation indicators, but found {quoteChar c}"
  return (chomping, increment)

def scanBlockIgnoredLine (start : Mark) : ScanM Unit := call do
  skipWhile (· == ' ')
  if (← peek) == '#' then skipWhile fun c => !isBreakZ c
  let c ← peek
  if !isBreakZ c then
    fail (some ("while scanning a block scalar", start))
      s!"expected a comment or a line break, but found {quoteChar c}"
  discard scanLineBreak

/-- Leading empty lines of a block scalar without an indentation indicator: the breaks,
the deepest indentation seen, and where they end. -/
def scanBlockIndentation : ScanM (List String × Nat × Mark) := call do
  let mut breaks : List String := []
  let mut maxIndent := 0
  let mut stop ← getMark
  for _ in [0:(← budget)] do
    let c ← peek
    if c == ' ' then
      forward 1
      let col := (← get).column
      if col > maxIndent then maxIndent := col
    else if isBreak c then
      breaks := breaks ++ [← scanLineBreak]
      stop ← getMark
    else break
  return (breaks, maxIndent, stop)

def scanBlockBreaks (indent : Nat) : ScanM (List String × Mark) := call do
  let mut breaks : List String := []
  let mut stop ← getMark
  skipWhile' indent
  for _ in [0:(← budget)] do
    if isBreak (← peek) then
      breaks := breaks ++ [← scanLineBreak]
      stop ← getMark
      skipWhile' indent
    else break
  return (breaks, stop)
where
  /-- Move over spaces up to column `indent`. -/
  skipWhile' (indent : Nat) : ScanM Unit := do
    for _ in [0:(← budget)] do
      if (← get).column < indent && (← peek) == ' ' then forward 1 else break

def scanBlockScalar (folded : Bool) : ScanM Token := call do
  let start ← getMark
  forward 1
  let (chomping, increment) ← scanBlockIndicators start
  scanBlockIgnoredLine start
  let s ← get
  let minIndent : Nat := if s.indent + 1 < 1 then 1 else (s.indent + 1).toNat
  let (firstBreaks, indent, firstStop) ← match increment with
    | none => do
      let (breaks, maxIndent, stop) ← scanBlockIndentation
      pure (breaks, max minIndent maxIndent, stop)
    | some inc => do
      let indent := minIndent + inc - 1
      let (breaks, stop) ← scanBlockBreaks indent
      pure (breaks, indent, stop)
  let mut breaks := firstBreaks
  let mut stop := firstStop
  let mut chunks : String := ""
  let mut lineBreak : String := ""
  for _ in [0:(← budget)] do
    if !((← get).column == indent && (← peek) != '\x00') then break
    chunks := chunks ++ String.join breaks
    let leadingNonSpace := !((← peek) == ' ' || (← peek) == '\t')
    let n ← runLength fun c => !isBreakZ c
    chunks := chunks ++ (← take n)
    lineBreak ← scanLineBreak
    let (bs, st) ← scanBlockBreaks indent
    breaks := bs
    stop := st
    if (← get).column == indent && (← peek) != '\x00' then
      if folded && lineBreak == "\n" && leadingNonSpace && !((← peek) == ' ' || (← peek) == '\t') then
        if breaks.isEmpty then chunks := chunks ++ " "
      else chunks := chunks ++ lineBreak
    else break
  if chomping != some false then chunks := chunks ++ lineBreak
  if chomping == some true then chunks := chunks ++ String.join breaks
  construct
  return ⟨.scalar chunks false (some (if folded then '>' else '|')), start, stop⟩

/-! ## Quoted scalars -/

def escapeReplacement : Char → Option Char
  | '0' => some '\x00'
  | 'a' => some '\x07'
  | 'b' => some '\x08'
  | 't' => some '\t'
  | '\t' => some '\t'
  | 'n' => some '\n'
  | 'v' => some '\x0b'
  | 'f' => some '\x0c'
  | 'r' => some '\r'
  | 'e' => some '\x1b'
  | ' ' => some ' '
  | '"' => some '"'
  | '/' => some '/'
  | '\\' => some '\\'
  | 'N' => some '\x85'
  | '_' => some '\xa0'
  | 'L' => some '\u2028'
  | 'P' => some '\u2029'
  | _ => none

def escapeCodeLength : Char → Option Nat
  | 'x' => some 2
  | 'u' => some 4
  | 'U' => some 8
  | _ => none

def scanQuotedBreaks (start : Mark) : ScanM (List String) := call do
  let mut breaks : List String := []
  for _ in [0:(← budget)] do
    let p ← aheadText 3
    if (p == "---" || p == "...") && isBlankZ (← peek 3) then
      fail (some ("while scanning a quoted scalar", start)) "found unexpected document separator"
    skipWhile fun c => c == ' ' || c == '\t'
    if isBreak (← peek) then breaks := breaks ++ [← scanLineBreak] else break
  return breaks

def scanQuotedNonSpaces (double : Bool) (start : Mark) : ScanM String := call do
  let context := some ("while scanning a double-quoted scalar", start)
  let mut chunks : String := ""
  for _ in [0:(← budget)] do
    let n ← runLength fun c => !(c == '\'' || c == '"' || c == '\\' || isBlankZ c)
    if n > 0 then chunks := chunks ++ (← take n)
    let c ← peek
    if !double && c == '\'' && (← peek 1) == '\'' then
      chunks := chunks.push '\''
      forward 2
    else if (double && c == '\'') || (!double && (c == '"' || c == '\\')) then
      chunks := chunks.push c
      forward 1
    else if double && c == '\\' then
      forward 1
      let e ← peek
      match escapeReplacement e, escapeCodeLength e with
      | some r, _ =>
        chunks := chunks.push r
        forward 1
      | none, some len =>
        forward 1
        for k in [0:len] do
          let d ← peek k
          if !isHexDigit d then
            fail context
              s!"expected escape sequence of {len} hexadecimal numbers, but found {quoteChar d}"
        let digits ← ahead len
        let code := digits.foldl (fun v d => v * 16 + hexDigitValue d) 0
        if code > 0x10FFFF then
          throw (.badNumber "chr() arg not in range(0x110000)")
        chunks := chunks ++ String.ofList (Text.CodePoint.ofNat code).held
        forward len
      | none, none =>
        if isBreak e then
          discard scanLineBreak
          chunks := chunks ++ String.join (← scanQuotedBreaks start)
        else fail context s!"found unknown escape character {quoteChar e}"
    else break
  return chunks

def scanQuotedSpaces (start : Mark) : ScanM String := call do
  let n ← runLength fun c => c == ' ' || c == '\t'
  let spaces ← take n
  let c ← peek
  if c == '\x00' then
    fail (some ("while scanning a quoted scalar", start)) "found unexpected end of stream"
  else if isBreak c then
    let lineBreak ← scanLineBreak
    let breaks ← scanQuotedBreaks start
    let first := if lineBreak != "\n" then lineBreak else if breaks.isEmpty then " " else ""
    return first ++ String.join breaks
  else return spaces

def scanQuoted (double : Bool) : ScanM Token := call do
  let start ← getMark
  let quote ← peek
  forward 1
  let mut chunks ← scanQuotedNonSpaces double start
  for _ in [0:(← budget)] do
    if (← peek) == quote then break
    chunks := chunks ++ (← scanQuotedSpaces start)
    chunks := chunks ++ (← scanQuotedNonSpaces double start)
  forward 1
  let stop ← getMark
  construct
  return ⟨.scalar chunks false (some quote), start, stop⟩

/-! ## Plain scalars -/

def scanPlainSpaces : ScanM (Option String) := call do
  let n ← runLength (· == ' ')
  let spaces ← take n
  if isBreak (← peek) then
    let lineBreak ← scanLineBreak
    modify fun s => { s with allowSimpleKey := true }
    let atMarker : ScanM Bool := do
      let p ← aheadText 3
      return (p == "---" || p == "...") && isBlankZ (← peek 3)
    if ← atMarker then return none
    let mut breaks : List String := []
    for _ in [0:(← budget)] do
      let c ← peek
      if c == ' ' then forward 1
      else if isBreak c then
        breaks := breaks ++ [← scanLineBreak]
        if ← atMarker then return none
      else break
    let first := if lineBreak != "\n" then lineBreak else if breaks.isEmpty then " " else ""
    return some (first ++ String.join breaks)
  else return some spaces

/-- A plain scalar: runs of text joined by folded white space, ended by `: `, ` #`, a
flow indicator in flow context, or a line indented no deeper than the enclosing block. -/
def scanPlain : ScanM Token := call do
  let start ← getMark
  let mut stop := start
  let indent := (← get).indent + 1
  let mut chunks : String := ""
  let mut spaces : String := ""
  for _ in [0:(← budget)] do
    if (← peek) == '#' then break
    let flow := (← get).flowLevel != 0
    let mut n := 0
    for _ in [0:(← budget)] do
      let c ← peek n
      let after ← peek (n + 1)
      if isBlankZ c || (c == ':' && (isBlankZ after || (flow && ",[]\x7b\x7d".contains after))) ||
          (flow && ",?[]\x7b\x7d".contains c) then break
      n := n + 1
    if n == 0 then break
    modify fun s => { s with allowSimpleKey := false }
    chunks := chunks ++ spaces ++ (← take n)
    stop ← getMark
    match ← scanPlainSpaces with
    | none => break
    | some sp =>
      spaces := sp
      let s ← get
      if sp.isEmpty || (← peek) == '#' || (s.flowLevel == 0 && (s.column : Int) < indent) then break
  construct
  return ⟨.scalar chunks true none, start, stop⟩

/-! ## Tokens -/

def checkPlain : ScanM Bool := call do
  let c ← peek
  let next ← peek 1
  let flow := (← get).flowLevel != 0
  return !(isBlankZ c || "-?:,[]\x7b\x7d#&*!|>'\"%@`".contains c) ||
    (!isBlankZ next && (c == '-' || (!flow && (c == '?' || c == ':'))))

def checkDirective : ScanM Bool := call do
  return (← get).column == 0

def checkMarker (marker : String) : ScanM Bool := call do
  if (← get).column != 0 then return false
  if (← aheadText 3) != marker then return false
  return isBlankZ (← peek 3)

def checkBlockEntry : ScanM Bool := call do
  return isBlankZ (← peek 1)

def checkIndicator : ScanM Bool := call do
  if (← get).flowLevel != 0 then return true
  return isBlankZ (← peek 1)

def fetchStreamEnd : ScanM Unit := call do
  unwindIndent (-1)
  removeSimpleKey
  modify fun s => { s with allowSimpleKey := false, simpleKeys := [] }
  let m ← getMark
  construct
  push ⟨.streamEnd, m, m⟩
  modify fun s => { s with done := true }

def fetchDirective : ScanM Unit := call do
  unwindIndent (-1)
  removeSimpleKey
  modify fun s => { s with allowSimpleKey := false }
  push (← scanDirective)

def fetchDocumentIndicator (kind : TokenKind) : ScanM Unit := call <| call do
  unwindIndent (-1)
  removeSimpleKey
  modify fun s => { s with allowSimpleKey := false }
  pushOver kind 3

def fetchFlowStart (kind : TokenKind) : ScanM Unit := call <| call do
  saveSimpleKey
  modify fun s => { s with flowLevel := s.flowLevel + 1, allowSimpleKey := true }
  pushOver kind 1

def fetchFlowEnd (kind : TokenKind) : ScanM Unit := call <| call do
  removeSimpleKey
  modify fun s => { s with flowLevel := s.flowLevel - 1, allowSimpleKey := false }
  pushOver kind 1

def fetchFlowEntry : ScanM Unit := call do
  modify fun s => { s with allowSimpleKey := true }
  removeSimpleKey
  pushOver .flowEntry 1

def fetchBlockEntry : ScanM Unit := call do
  if (← get).flowLevel == 0 then
    if !(← get).allowSimpleKey then fail none "sequence entries are not allowed here"
    if ← addIndent (← get).column then
      let m ← getMark
      construct
      push ⟨.blockSequenceStart, m, m⟩
  modify fun s => { s with allowSimpleKey := true }
  removeSimpleKey
  pushOver .blockEntry 1

def fetchKey : ScanM Unit := call do
  if (← get).flowLevel == 0 then
    if !(← get).allowSimpleKey then fail none "mapping keys are not allowed here"
    if ← addIndent (← get).column then
      let m ← getMark
      construct
      push ⟨.blockMappingStart, m, m⟩
  modify fun s => { s with allowSimpleKey := s.flowLevel == 0 }
  removeSimpleKey
  pushOver .key 1

def insertToken (number : Nat) (t : Token) : ScanM Unit :=
  modify fun s => { s with tokens := s.tokens.insertIdx (number - s.tokensTaken) t }

def fetchValue : ScanM Unit := call do
  match ← currentKey? with
  | some key =>
    dropKey (← get).flowLevel
    construct
    insertToken key.tokenNumber ⟨.key, key.mark, key.mark⟩
    if (← get).flowLevel == 0 then
      if ← addIndent key.mark.column then
        construct
        insertToken key.tokenNumber ⟨.blockMappingStart, key.mark, key.mark⟩
    modify fun s => { s with allowSimpleKey := false }
  | none =>
    if (← get).flowLevel == 0 then
      if !(← get).allowSimpleKey then fail none "mapping values are not allowed here"
      if ← addIndent (← get).column then
        let m ← getMark
        construct
        push ⟨.blockMappingStart, m, m⟩
    modify fun s => { s with allowSimpleKey := s.flowLevel == 0 }
    removeSimpleKey
  pushOver .value 1

def fetchKeyable (scan : ScanM Token) : ScanM Unit := call do
  saveSimpleKey
  modify fun s => { s with allowSimpleKey := false }
  push (← scan)

def fetchQuoted (double : Bool) : ScanM Unit := call (fetchKeyable (scanQuoted double))

def fetchBlockScalar (folded : Bool) : ScanM Unit := call <| call do
  modify fun s => { s with allowSimpleKey := true }
  removeSimpleKey
  push (← scanBlockScalar folded)

def fetchNextToken : ScanM Unit := call do
  scanToNextToken
  staleSimpleKeys
  unwindIndent (← get).column
  let c ← peek
  let flow := (← get).flowLevel != 0
  if c == '\x00' then return ← fetchStreamEnd
  if c == '%' then
    if ← checkDirective then return ← fetchDirective
  if c == '-' then
    if ← checkMarker "---" then return ← fetchDocumentIndicator .documentStart
  if c == '.' then
    if ← checkMarker "..." then return ← fetchDocumentIndicator .documentEnd
  if c == '[' then return ← fetchFlowStart .flowSequenceStart
  if c == '{' then return ← fetchFlowStart .flowMappingStart
  if c == ']' then return ← fetchFlowEnd .flowSequenceEnd
  if c == '}' then return ← fetchFlowEnd .flowMappingEnd
  if c == ',' then return ← fetchFlowEntry
  if c == '-' then
    if ← checkBlockEntry then return ← fetchBlockEntry
  if c == '?' then
    if ← checkIndicator then return ← fetchKey
  if c == ':' then
    if ← checkIndicator then return ← fetchValue
  if c == '*' then return ← fetchKeyable (scanAnchor true)
  if c == '&' then return ← fetchKeyable (scanAnchor false)
  if c == '!' then return ← fetchKeyable scanTag
  if c == '|' && !flow then return ← fetchBlockScalar false
  if c == '>' && !flow then return ← fetchBlockScalar true
  if c == '\'' then return ← fetchQuoted false
  if c == '"' then return ← fetchQuoted true
  if ← checkPlain then return ← fetchKeyable scanPlain
  fail (some ("while scanning for the next token", ← getMark))
    s!"found character {quoteChar c} that cannot start any token"

def nextSimpleKey : ScanM (Option Nat) := call do
  return (← get).simpleKeys.foldl (fun m kv => match m with
    | some n => some (min n kv.2.tokenNumber)
    | none => some kv.2.tokenNumber) none

/-- Whether another token must be scanned before the first one can be handed out: there
is none, or it may still become a simple key. -/
def needMoreTokens : ScanM Bool := call do
  if (← get).done then return false
  if (← get).tokens.isEmpty then return true
  staleSimpleKeys
  return (← nextSimpleKey) == some (← get).tokensTaken

def fill : ScanM Unit := do
  for _ in [0:4 * (← budget)] do
    if ← needMoreTokens then fetchNextToken else break

def peekToken : ScanM (Option Token) := call do
  fill
  return (← get).tokens.head?

/-- Take the next token. -/
def nextToken : ScanM (Option Token) := call do
  fill
  match (← get).tokens with
  | t :: rest =>
    modify fun s => { s with tokens := rest, tokensTaken := s.tokensTaken + 1 }
    return some t
  | [] => return none

end Yaml

end VirtualMocap
