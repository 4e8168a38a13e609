import VirtualMocap.Yaml.Scanner

/-!
# Parsing YAML tokens into events

The parser is a state machine with a stack of states to return to, giving one event per
step (`nextEvent`) and asking the scanner for tokens only as it needs them. Each state and
each request is a call (`call`), so the scanner runs at the depth of the request that
needs the token. Tag handles are expanded with the document's `%TAG` directives.
-/

namespace VirtualMocap

namespace Yaml

/-- What the parser reports. -/
inductive EventKind where
  | streamStart
  | streamEnd
  | documentStart (explicit : Bool)
  | documentEnd (explicit : Bool)
  | alias (name : String)
  /-- A scalar: anchor, tag, whether its type is to be resolved from its text (plain) or
  is a text (quoted), its text and its style. -/
  | scalar (anchor tag : Option String) (plainImplicit quotedImplicit : Bool) (text : String)
      (style : Option Char)
  | sequenceStart (anchor tag : Option String) (implicit flow : Bool)
  | sequenceEnd
  | mappingStart (anchor tag : Option String) (implicit flow : Bool)
  | mappingEnd
  deriving DecidableEq, Repr

/-- An event and where it lies. -/
structure Event where
  kind : EventKind
  start : Mark
  stop : Mark
  deriving DecidableEq, Repr

/-- The states of the parser. -/
inductive ParseState where
  | streamStart
  | implicitDocumentStart
  | documentStart
  | documentEnd
  | documentContent
  | blockNode
  | blockSequenceFirstEntry
  | blockSequenceEntry
  | indentlessSequenceEntry
  | blockMappingFirstKey
  | blockMappingKey
  | blockMappingValue
  | flowSequenceFirstEntry
  | flowSequenceEntry
  | flowSequenceEntryMappingKey
  | flowSequenceEntryMappingValue
  | flowSequenceEntryMappingEnd
  | flowMappingFirstKey
  | flowMappingKey
  | flowMappingValue
  | flowMappingEmptyValue
  | finished
  deriving DecidableEq, Repr

/-- The parser: its scanner, its state and the states to return to. -/
structure Parser where
  scanner : Scanner
  state : ParseState := .streamStart
  states : List ParseState := []
  /-- Where the enclosing collections began, innermost first. -/
  marks : List Mark := []
  /-- The tag handles of the current document. -/
  tagHandles : List (String × String) := []
  /-- An event read ahead and not yet taken. -/
  lookahead : Option Event := none

abbrev ParseM := StateT Parser (Except YamlError)

def scan {α : Type} (m : ScanM α) : ParseM α := do
  let p ← get
  match m.run p.scanner with
  | .ok (a, s) =>
    set { p with scanner := s }
    return a
  | .error e => throw e

instance : MonadLift ScanM ParseM := ⟨scan⟩

def defaultTagHandles : List (String × String) := [("!", "!"), ("!!", "tag:yaml.org,2002:")]

def peekTok : ParseM Token := do
  match ← scan peekToken with
  | some t => return t
  | none => return ⟨.streamEnd, ⟨0, 0, 0⟩, ⟨0, 0, 0⟩⟩

def getTok : ParseM Token := do
  match ← scan nextToken with
  | some t => return t
  | none => return ⟨.streamEnd, ⟨0, 0, 0⟩, ⟨0, 0, 0⟩⟩

def nextIs (p : TokenKind → Bool) : ParseM Bool := return p (← peekTok).kind

def goTo (st : ParseState) : ParseM Unit := modify fun p => { p with state := st }

def pushState (st : ParseState) : ParseM Unit := modify fun p => { p with states := st :: p.states }

def popState : ParseM Unit := modify fun p =>
  { p with state := p.states.headD .finished, states := p.states.drop 1 }

def pushMark (m : Mark) : ParseM Unit := modify fun p => { p with marks := m :: p.marks }

def popMark : ParseM Unit := modify fun p => { p with marks := p.marks.drop 1 }

def topMark : ParseM Mark := return (← get).marks.headD ⟨0, 0, 0⟩

def parseFail {α : Type} (context : Option (String × Mark)) (problem : String) (at_ : Mark) :
    ParseM α := do
  construct
  throw (.marked .parser context problem at_)

def emptyScalar (m : Mark) : Event := ⟨.scalar none none true false "" none, m, m⟩

def made (e : Event) : ParseM Event := do
  construct
  return e

def processEmptyScalar (m : Mark) : ParseM Event := call (made (emptyScalar m))

namespace TokenKind

def isKey : TokenKind → Bool | .key => true | _ => false
def isValue : TokenKind → Bool | .value => true | _ => false
def isBlockEntry : TokenKind → Bool | .blockEntry => true | _ => false
def isBlockEnd : TokenKind → Bool | .blockEnd => true | _ => false
def isFlowEntry : TokenKind → Bool | .flowEntry => true | _ => false
def isFlowSequenceEnd : TokenKind → Bool | .flowSequenceEnd => true | _ => false
def isFlowMappingEnd : TokenKind → Bool | .flowMappingEnd => true | _ => false
def isStreamEnd : TokenKind → Bool | .streamEnd => true | _ => false
def isDocumentStart : TokenKind → Bool | .documentStart => true | _ => false
def isDocumentEnd : TokenKind → Bool | .documentEnd => true | _ => false
def isDirective : TokenKind → Bool | .directive .. => true | _ => false

end TokenKind

open TokenKind

def processDirectives : ParseM Unit := call do
  let mut version : Bool := false
  let mut handles : List (String × String) := []
  for _ in [0:(← get).scanner.buffer.size + 1] do
    let t ← peekTok
    match t.kind with
    | .directive "YAML" (.version major _) =>
      discard getTok
      if version then parseFail none "found duplicate YAML directive" t.start
      if major != 1 then
        parseFail none "found incompatible YAML document (version 1.* is required)" t.start
      version := true
    | .directive "TAG" (.tag handle pfx) =>
      discard getTok
      if handles.any (·.1 == handle) then
        parseFail none s!"duplicate tag handle {Text.quoted handle}" t.start
      handles := handles ++ [(handle, pfx)]
    | .directive .. => discard getTok
    | _ => break
  let extra := defaultTagHandles.filter fun kv => !handles.any (·.1 == kv.1)
  modify fun p => { p with tagHandles := handles ++ extra }

def parseNode (block indentlessSequence : Bool) : ParseM Event := call do
  let t ← peekTok
  if let .alias name := t.kind then
    discard getTok
    let e ← made ⟨.alias name, t.start, t.stop⟩
    popState
    return e
  let mut anchor : Option String := none
  let mut tag : Option (Option String × String) := none
  let mut startMark : Option Mark := none
  let mut stopMark : Option Mark := none
  let mut tagMark : Option Mark := none
  match t.kind with
  | .anchor name =>
    discard getTok
    startMark := some t.start
    stopMark := some t.stop
    anchor := some name
    let t2 ← peekTok
    if let .tag h s := t2.kind then
      discard getTok
      tagMark := some t2.start
      stopMark := some t2.stop
      tag := some (h, s)
  | .tag h s =>
    discard getTok
    startMark := some t.start
    tagMark := some t.start
    stopMark := some t.stop
    tag := some (h, s)
    let t2 ← peekTok
    if let .anchor name := t2.kind then
      discard getTok
      stopMark := some t2.stop
      anchor := some name
  | _ => pure ()
  let resolvedTag ← match tag with
    | none => pure none
    | some (none, suffix) => pure (some suffix)
    | some (some handle, suffix) =>
      match (← get).tagHandles.find? (·.1 == handle) with
      | some (_, pfx) => pure (some (pfx ++ suffix))
      | none =>
        parseFail (some ("while parsing a node", startMark.getD ⟨0, 0, 0⟩))
          s!"found undefined tag handle {Text.quoted handle}" (tagMark.getD ⟨0, 0, 0⟩)
  let next ← peekTok
  let start := startMark.getD next.start
  let stop := stopMark.getD next.start
  let implicit := resolvedTag.isNone || resolvedTag == some "!"
  if indentlessSequence && next.kind.isBlockEntry then
    goTo .indentlessSequenceEntry
    return ← made ⟨.sequenceStart anchor resolvedTag implicit false, start, next.stop⟩
  match next.kind with
  | .scalar text plain style =>
    discard getTok
    let (pi, qi) :=
      if (plain && resolvedTag.isNone) || resolvedTag == some "!" then (true, false)
      else if resolvedTag.isNone then (false, true)
      else (false, false)
    let e ← made ⟨.scalar anchor resolvedTag pi qi text style, start, next.stop⟩
    popState
    return e
  | .flowSequenceStart =>
    goTo .flowSequenceFirstEntry
    return ← made ⟨.sequenceStart anchor resolvedTag implicit true, start, next.stop⟩
  | .flowMappingStart =>
    goTo .flowMappingFirstKey
    return ← made ⟨.mappingStart anchor resolvedTag implicit true, start, next.stop⟩
  | .blockSequenceStart =>
    if block then
      goTo .blockSequenceFirstEntry
      return ← made ⟨.sequenceStart anchor resolvedTag implicit false, start, next.start⟩
  | .blockMappingStart =>
    if block then
      goTo .blockMappingFirstKey
      return ← made ⟨.mappingStart anchor resolvedTag implicit false, start, next.start⟩
  | _ => pure ()
  if anchor.isSome || resolvedTag.isSome then
    let e ← made ⟨.scalar anchor resolvedTag implicit false "" none, start, stop⟩
    popState
    return e
  let what := if block then "block" else "flow"
  parseFail (some (s!"while parsing a {what} node", start))
    s!"expected the node content, but found {Text.quoted next.kind.id}" next.start

def parseBlockNode : ParseM Event := call (parseNode true false)

def parseFlowNode : ParseM Event := call (parseNode false false)

def parseBlockValue : ParseM Event := call (parseNode true true)

def parseDocumentStart : ParseM Event := do
  for _ in [0:(← get).scanner.buffer.size + 1] do
    if (← peekTok).kind.isDocumentEnd then discard getTok else break
  let t ← peekTok
  if t.kind.isStreamEnd then
    discard getTok
    let e ← made ⟨.streamEnd, t.start, t.stop⟩
    goTo .finished
    return e
  processDirectives
  let t2 ← peekTok
  if !t2.kind.isDocumentStart then
    parseFail none s!"expected '<document start>', but found {Text.quoted t2.kind.id}" t2.start
  discard getTok
  let e ← made ⟨.documentStart true, t.start, t2.stop⟩
  pushState .documentEnd
  goTo .documentContent
  return e

def step : ParseM Event := call do
  match (← get).state with
  | .streamStart =>
    let t ← getTok
    let e ← made ⟨.streamStart, t.start, t.stop⟩
    goTo .implicitDocumentStart
    return e
  | .implicitDocumentStart =>
    let t ← peekTok
    if t.kind.isDirective || t.kind.isDocumentStart || t.kind.isStreamEnd then
      call parseDocumentStart
    else
      modify fun p => { p with tagHandles := defaultTagHandles }
      let e ← made ⟨.documentStart false, t.start, t.start⟩
      pushState .documentEnd
      goTo .blockNode
      return e
  | .documentStart => parseDocumentStart
  | .documentEnd =>
    let t ← peekTok
    let (stop, explicit) ← if t.kind.isDocumentEnd then do
        let t ← getTok
        pure (t.stop, true)
      else pure (t.start, false)
    let e ← made ⟨.documentEnd explicit, t.start, stop⟩
    goTo .documentStart
    return e
  | .documentContent =>
    let t ← peekTok
    if t.kind.isDirective || t.kind.isDocumentStart || t.kind.isDocumentEnd || t.kind.isStreamEnd then
      let e ← processEmptyScalar t.start
      popState
      return e
    else parseBlockNode
  | .blockNode => parseNode true false
  | .blockSequenceFirstEntry =>
    let t ← getTok
    pushMark t.start
    call blockSequenceEntry
  | .blockSequenceEntry => blockSequenceEntry
  | .indentlessSequenceEntry =>
    let t ← peekTok
    if t.kind.isBlockEntry then
      discard getTok
      if ← nextIs fun k => k.isBlockEntry || k.isKey || k.isValue || k.isBlockEnd then
        goTo .indentlessSequenceEntry
        processEmptyScalar t.stop
      else
        pushState .indentlessSequenceEntry
        parseBlockNode
    else
      let e ← made ⟨.sequenceEnd, t.start, t.start⟩
      popState
      return e
  | .blockMappingFirstKey =>
    let t ← getTok
    pushMark t.start
    call blockMappingKey
  | .blockMappingKey => blockMappingKey
  | .blockMappingValue =>
    let t ← peekTok
    if t.kind.isValue then
      discard getTok
      if ← nextIs fun k => k.isKey || k.isValue || k.isBlockEnd then
        goTo .blockMappingKey
        processEmptyScalar t.stop
      else
        pushState .blockMappingKey
        parseBlockValue
    else
      goTo .blockMappingKey
      processEmptyScalar t.start
  | .flowSequenceFirstEntry =>
    let t ← getTok
    pushMark t.start
    call (flowSequenceEntry true)
  | .flowSequenceEntry => flowSequenceEntry false
  | .flowSequenceEntryMappingKey =>
    let t ← getTok
    if ← nextIs fun k => k.isValue || k.isFlowEntry || k.isFlowSequenceEnd then
      goTo .flowSequenceEntryMappingValue
      processEmptyScalar t.stop
    else
      pushState .flowSequenceEntryMappingValue
      parseFlowNode
  | .flowSequenceEntryMappingValue =>
    let t ← peekTok
    if t.kind.isValue then
      discard getTok
      if ← nextIs fun k => k.isFlowEntry || k.isFlowSequenceEnd then
        goTo .flowSequenceEntryMappingEnd
        processEmptyScalar t.stop
      else
        pushState .flowSequenceEntryMappingEnd
        parseFlowNode
    else
      goTo .flowSequenceEntryMappingEnd
      processEmptyScalar t.start
  | .flowSequenceEntryMappingEnd =>
    goTo .flowSequenceEntry
    let t ← peekTok
    made ⟨.mappingEnd, t.start, t.start⟩
  | .flowMappingFirstKey =>
    let t ← getTok
    pushMark t.start
    call (flowMappingKey true)
  | .flowMappingKey => flowMappingKey false
  | .flowMappingValue =>
    let t ← peekTok
    if t.kind.isValue then
      discard getTok
      if ← nextIs fun k => k.isFlowEntry || k.isFlowMappingEnd then
        goTo .flowMappingKey
        processEmptyScalar t.stop
      else
        pushState .flowMappingKey
        parseFlowNode
    else
      goTo .flowMappingKey
      processEmptyScalar t.start
  | .flowMappingEmptyValue =>
    goTo .flowMappingKey
    processEmptyScalar (← peekTok).start
  | .finished =>
    let t ← peekTok
    return ⟨.streamEnd, t.start, t.stop⟩
where
  /-- An entry of a block sequence, or its end. -/
  blockSequenceEntry : ParseM Event := do
    let t ← peekTok
    if t.kind.isBlockEntry then
      discard getTok
      if ← nextIs fun k => k.isBlockEntry || k.isBlockEnd then
        goTo .blockSequenceEntry
        processEmptyScalar t.stop
      else
        pushState .blockSequenceEntry
        parseBlockNode
    else if !t.kind.isBlockEnd then
      parseFail (some ("while parsing a block collection", ← topMark))
        s!"expected <block end>, but found {Text.quoted t.kind.id}" t.start
    else
      discard getTok
      let e ← made ⟨.sequenceEnd, t.start, t.stop⟩
      popState
      popMark
      return e
  /-- A key of a block mapping, or its end. -/
  blockMappingKey : ParseM Event := do
    let t ← peekTok
    if t.kind.isKey then
      discard getTok
      if ← nextIs fun k => k.isKey || k.isValue || k.isBlockEnd then
        goTo .blockMappingValue
        processEmptyScalar t.stop
      else
        pushState .blockMappingValue
        parseBlockValue
    else if !t.kind.isBlockEnd then
      parseFail (some ("while parsing a block mapping", ← topMark))
        s!"expected <block end>, but found {Text.quoted t.kind.id}" t.start
    else
      discard getTok
      let e ← made ⟨.mappingEnd, t.start, t.stop⟩
      popState
      popMark
      return e
  /-- An entry of a flow sequence, or its end. -/
  flowSequenceEntry (first : Bool) : ParseM Event := do
    let t ← peekTok
    if !t.kind.isFlowSequenceEnd then
      if !first then
        if t.kind.isFlowEntry then discard getTok
        else
          parseFail (some ("while parsing a flow sequence", ← topMark))
            s!"expected ',' or ']', but got {Text.quoted t.kind.id}" t.start
      let t ← peekTok
      if t.kind.isKey then
        let e ← made ⟨.mappingStart none none true true, t.start, t.stop⟩
        goTo .flowSequenceEntryMappingKey
        return e
      else if !t.kind.isFlowSequenceEnd then
        pushState .flowSequenceEntry
        return ← parseFlowNode
    let t ← getTok
    let e ← made ⟨.sequenceEnd, t.start, t.stop⟩
    popState
    popMark
    return e
  /-- A key of a flow mapping, or its end. -/
  flowMappingKey (first : Bool) : ParseM Event := do
    let t ← peekTok
    if !t.kind.isFlowMappingEnd then
      if !first then
        if t.kind.isFlowEntry then discard getTok
        else
          parseFail (some ("while parsing a flow mapping", ← topMark))
            s!"expected ',' or '\x7d', but got {Text.quoted t.kind.id}" t.start
      let t ← peekTok
      if t.kind.isKey then
        discard getTok
        if ← nextIs fun k => k.isValue || k.isFlowEntry || k.isFlowMappingEnd then
          goTo .flowMappingValue
          return ← processEmptyScalar t.stop
        else
          pushState .flowMappingValue
          return ← parseFlowNode
      else if !t.kind.isFlowMappingEnd then
        pushState .flowMappingEmptyValue
        return ← parseFlowNode
    let t ← getTok
    let e ← made ⟨.mappingEnd, t.start, t.stop⟩
    popState
    popMark
    return e

def pendingEvent : ParseM Event := do
  match (← get).lookahead with
  | some e => return e
  | none =>
    let e ← step
    modify fun p => { p with lookahead := some e }
    return e

def peekEvent : ParseM Event := call pendingEvent

/-- Take the next event: a call of its own. -/
def nextEvent : ParseM Event := call do
  let e ← pendingEvent
  modify fun p => { p with lookahead := none }
  return e

end Yaml

end VirtualMocap
