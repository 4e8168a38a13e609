import VirtualMocap.Text.Quoted

/-!
# YAML tokens, positions and errors

The scanner's tokens, each with where it starts and ends (`Mark`). A failure names the
stage that found it, an optional context and the problem; its message shows each position
with the line around it and a caret under it.
-/

namespace VirtualMocap

namespace Yaml

/-- A position in the text. -/
structure Mark where
  index : Nat
  line : Nat
  column : Nat
  deriving DecidableEq, Repr, Inhabited

/-- The value of a directive. -/
inductive DirectiveValue where
  /-- `%YAML major.minor`. -/
  | version (major minor : Nat)
  /-- `%TAG handle prefix`. -/
  | tag (handle pfx : String)
  | none
  deriving DecidableEq, Repr

/-- The kinds of token. -/
inductive TokenKind where
  | streamStart
  | streamEnd
  | directive (name : String) (value : DirectiveValue)
  | documentStart
  | documentEnd
  | blockSequenceStart
  | blockMappingStart
  | blockEnd
  | flowSequenceStart
  | flowMappingStart
  | flowSequenceEnd
  | flowMappingEnd
  | key
  | value
  | blockEntry
  | flowEntry
  | alias (name : String)
  | anchor (name : String)
  /-- A tag: its handle, if written with one, and its suffix. -/
  | tag (handle : Option String) (suffix : String)
  /-- A scalar: its text, whether it was plain, and its quote or block indicator. -/
  | scalar (text : String) (plain : Bool) (style : Option Char)
  deriving DecidableEq, Repr

def TokenKind.id : TokenKind → String
  | .streamStart => "<stream start>"
  | .streamEnd => "<stream end>"
  | .directive .. => "<directive>"
  | .documentStart => "<document start>"
  | .documentEnd => "<document end>"
  | .blockSequenceStart => "<block sequence start>"
  | .blockMappingStart => "<block mapping start>"
  | .blockEnd => "<block end>"
  | .flowSequenceStart => "["
  | .flowMappingStart => "\x7b"
  | .flowSequenceEnd => "]"
  | .flowMappingEnd => "\x7d"
  | .key => "?"
  | .value => ":"
  | .blockEntry => "-"
  | .flowEntry => ","
  | .alias _ => "<alias>"
  | .anchor _ => "<anchor>"
  | .tag .. => "<tag>"
  | .scalar .. => "<scalar>"

/-- A token and where it lies. -/
structure Token where
  kind : TokenKind
  start : Mark
  stop : Mark
  deriving DecidableEq, Repr

/-- The stage of reading that found a problem. -/
inductive Stage where
  | scanner
  | parser
  | composer
  | constructor
  deriving DecidableEq, Repr

def Stage.name : Stage → String
  | .scanner => "ScannerError"
  | .parser => "ParserError"
  | .composer => "ComposerError"
  | .constructor => "ConstructorError"

/-- The step of reading that went past the deepest call allowed: entering a function, or
the call that makes an object (which then enters the object's set-up). -/
inductive Overflow where
  | enter
  | construct
  deriving DecidableEq, Repr

/-- Why a YAML text cannot be read. -/
inductive YamlError where
  /-- A problem found at a position, in an optional context. -/
  | marked (stage : Stage) (context : Option (String × Mark)) (problem : String) (at_ : Mark)
  /-- A code point that a YAML text may not hold, at a position in code points. -/
  | unacceptable (code : Nat) (position : Nat)
  /-- A scalar whose explicit tag asks for a number it is not the text of. -/
  | badNumber (message : String)
  /-- A scalar whose explicit tag asks for a truth value it is not a word for. -/
  | badTruth (word : String)
  /-- A number text that is empty once its sign is taken off. -/
  | emptyNumber
  /-- A scalar tagged as a timestamp that does not have the form of one. -/
  | notTimestamp
  /-- A timestamp whose date, time or zone is out of range. -/
  | badTimestamp (message : String)
  /-- Reading nested its calls deeper than allowed, at a step of this kind. -/
  | tooDeep (step : Overflow)
  deriving DecidableEq, Repr

def isSnippetEnd (c : Char) : Bool :=
  c == '\x00' || c == '\r' || c == '\n' || c == '\x85' || c == '\u2028' || c == '\u2029'

def snippetStart (buffer : Array Char) (pointer : Nat) : Nat × Bool :=
  let rec go : Nat → Nat → Nat × Bool
    | 0, start => (start, false)
    | fuel + 1, start =>
      if start > 0 && !isSnippetEnd (buffer.getD (start - 1) '\x00') then
        let start := start - 1
        if 2 * (pointer - start) > 73 then (start + 5, true) else go fuel start
      else (start, false)
  go (pointer + 1) pointer

def snippetEnd (buffer : Array Char) (pointer : Nat) : Nat × Bool :=
  let rec go : Nat → Nat → Nat × Bool
    | 0, stop => (stop, false)
    | fuel + 1, stop =>
      if stop < buffer.size && !isSnippetEnd (buffer.getD stop '\x00') then
        let stop := stop + 1
        if 2 * (stop - pointer) > 73 then (stop - 5, true) else go fuel stop
      else (stop, false)
  go (buffer.size + 1) pointer

def snippet (buffer : Array Char) (pointer : Nat) : String :=
  let (start, cutHead) := snippetStart buffer pointer
  let (stop, cutTail) := snippetEnd buffer pointer
  let head := if cutHead then " ... " else ""
  let tail := if cutTail then " ... " else ""
  let body := String.ofList ((buffer.toList.drop start).take (stop - start))
  "    " ++ head ++ body ++ tail ++ "\n" ++
    String.ofList (List.replicate (4 + (pointer - start) + head.length) ' ') ++ "^"

def Mark.render (buffer : Array Char) (m : Mark) : String :=
  s!"  in \"<unicode string>\", line {m.line + 1}, column {m.column + 1}:\n" ++
    snippet buffer m.index

def YamlError.name : YamlError → String
  | .marked stage .. => stage.name
  | .unacceptable .. => "ReaderError"
  | .badNumber _ => "ValueError"
  | .badTruth _ => "KeyError"
  | .emptyNumber => "IndexError"
  | .notTimestamp => "AttributeError"
  | .badTimestamp _ => "ValueError"
  | .tooDeep _ => "RecursionError"

/-- The message of a failure; `buffer` is the text read, followed by a NUL. -/
def YamlError.message (buffer : Array Char) : YamlError → String
  | .marked _ context problem at_ =>
    let ctx := match context with
      | some (c, m) =>
        if m.line = at_.line ∧ m.column = at_.column then [c] else [c, m.render buffer]
      | none => []
    "\n".intercalate (ctx ++ [problem, at_.render buffer])
  | .unacceptable code position =>
    s!"unacceptable character #x{Text.hexDigits code 4}: special characters are not allowed\n" ++
      s!"  in \"<unicode string>\", position {position}"
  | .badNumber message => message
  | .badTruth word => Text.quoted word
  | .emptyNumber => "string index out of range"
  | .notTimestamp => "'NoneType' object has no attribute 'groupdict'"
  | .tooDeep .enter => "maximum recursion depth exceeded"
  | .tooDeep .construct => "maximum recursion depth exceeded while calling a Python object"
  | .badTimestamp message => message

end Yaml

end VirtualMocap
