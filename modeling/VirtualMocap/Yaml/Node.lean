import VirtualMocap.Yaml.Parser
import VirtualMocap.Yaml.Resolve

/-!
# Composing YAML events into a node graph

The nodes of a document are numbered in the order they begin (`Graph`); a collection
holds its items' numbers, and an alias is the number of its anchor's node, which may be
the collection itself. A node without a tag takes its kind's, or a plain scalar's
resolved one. `composeSingle` reads a stream of at most one document.
-/

namespace VirtualMocap

namespace Yaml

/-- The content of a node: a scalar's text, or the numbers of a sequence's items, or of
a mapping's keys and values. -/
inductive Body where
  | scalar (text : String)
  | sequence (items : List Nat)
  | mapping (pairs : List (Nat × Nat))
  deriving Inhabited, Repr

/-- A node of a YAML document. -/
structure Node where
  tag : String
  body : Body
  start : Mark
  deriving Inhabited, Repr

def Node.id (n : Node) : String :=
  match n.body with
  | .scalar _ => "scalar"
  | .sequence _ => "sequence"
  | .mapping _ => "mapping"

/-- The nodes of a document, by number. -/
abbrev Graph := Array Node

/-- The node with a number; a number outside the graph reads as an empty scalar. -/
def Graph.node (g : Graph) (n : Nat) : Node := g.getD n default

/-- An anchor: its name, where its node starts, and the number of its node. -/
structure Anchor where
  name : String
  start : Mark
  node : Nat

/-- The state of composing: the anchors seen so far and the nodes built. -/
structure ComposeState where
  anchors : List Anchor := []
  graph : Graph := #[]

abbrev ComposeM := StateT ComposeState ParseM

def composeFail {α : Type} (context : Option (String × Mark)) (problem : String) (at_ : Mark) :
    ComposeM α := do
  construct
  throw (.marked .composer context problem at_)

def checkAnchor (anchor : Option String) (at_ : Mark) : ComposeM Unit := do
  if let some name := anchor then
    if let some a := (← get).anchors.find? (·.name == name) then
      composeFail (some (s!"found duplicate anchor {Text.quoted name}; first occurrence", a.start))
        "second occurrence" at_

def addNode (anchor : Option String) (node : Node) : ComposeM Nat := do
  let s ← get
  let n := s.graph.size
  let anchors := match anchor with
    | some name => s.anchors ++ [⟨name, node.start, n⟩]
    | none => s.anchors
  set { s with anchors, graph := s.graph.push node }
  return n

def setBody (n : Nat) (body : Body) : ComposeM Unit :=
  modify fun s => { s with graph := s.graph.modify n fun node => { node with body } }

def collectionTag (tag : Option String) (kind : String) : String :=
  match tag with
  | some t => if t == "!" then coreTag kind else t
  | none => coreTag kind

def resolveCall : ComposeM Unit := call (pure ())

/-- The calls that keep track of the path to a node, made on the way into it and out of
it; with no path-specific rules they only nest. -/
def trackPath : ComposeM Unit := call (pure ())

def composeScalar (anchor : Option String) : ComposeM Nat := call do
  let e ← nextEvent
  match e.kind with
  | .scalar _ tag plainImplicit _ text _ =>
    let tag ← match tag with
      | some t =>
        if t == "!" then do resolveCall; pure (if plainImplicit then resolve text else coreTag "str")
        else pure t
      | none => do resolveCall; pure (if plainImplicit then resolve text else coreTag "str")
    construct
    addNode anchor ⟨tag, .scalar text, e.start⟩
  | _ => composeFail none "unexpected event" e.start

def startCollection (anchor : Option String) (kind : String) (body : Body) : ComposeM Nat := do
  let e ← nextEvent
  let tag := match e.kind with
    | .sequenceStart _ tag .. | .mappingStart _ tag .. => tag
    | _ => none
  if tag.isNone || tag == some "!" then resolveCall
  construct
  addNode anchor ⟨collectionTag tag kind, body, e.start⟩

def composeNode : Nat → ComposeM Nat
  | 0 => throw (.tooDeep .enter)
  | fuel + 1 => call do
    let e ← peekEvent
    if let .alias name := e.kind then
      discard nextEvent
      match (← get).anchors.find? (·.name == name) with
      | none => composeFail none s!"found undefined alias {Text.quoted name}" e.start
      | some a => return a.node
    let e ← peekEvent
    let anchor := match e.kind with
      | .scalar anchor .. | .sequenceStart anchor .. | .mappingStart anchor .. => anchor
      | _ => none
    checkAnchor anchor e.start
    trackPath
    let n ← match e.kind with
      | .scalar .. => composeScalar anchor
      | .sequenceStart .. => call do
        let n ← startCollection anchor "seq" (.sequence [])
        let mut items : List Nat := []
        for _ in [0:(← getThe Parser).scanner.buffer.size + 1] do
          if let .sequenceEnd := (← peekEvent).kind then break
          items := items ++ [← composeNode fuel]
        discard nextEvent
        setBody n (.sequence items)
        pure n
      | .mappingStart .. => call do
        let n ← startCollection anchor "map" (.mapping [])
        let mut pairs : List (Nat × Nat) := []
        for _ in [0:(← getThe Parser).scanner.buffer.size + 1] do
          if let .mappingEnd := (← peekEvent).kind then break
          let k ← composeNode fuel
          let v ← composeNode fuel
          pairs := pairs ++ [(k, v)]
        discard nextEvent
        setBody n (.mapping pairs)
        pure n
      | _ => composeFail none "unexpected event" e.start
    trackPath
    return n

def composeDocument : ComposeM (Graph × Nat) := call do
  discard nextEvent
  let root ← composeNode ((← getThe Parser).scanner.limit + 1)
  discard nextEvent
  let graph := (← get).graph
  set ({} : ComposeState)
  return (graph, root)

/-- The graph and root of the only document of a stream, if there is one. -/
def composeSingle : ComposeM (Option (Graph × Nat)) := call do
  discard nextEvent
  let document ← match (← peekEvent).kind with
    | .streamEnd => pure none
    | _ => some <$> composeDocument
  match (← peekEvent).kind with
  | .streamEnd => pure ()
  | _ =>
    let e ← nextEvent
    let start := (document.map fun (g, root) => (g.node root).start).getD e.start
    composeFail (some ("expected a single document in the stream", start))
      "but found another document" e.start
  discard nextEvent
  return document

end Yaml

end VirtualMocap
