import VirtualMocap.Yaml.Node
import VirtualMocap.Json.Value
import VirtualMocap.Decimal.Read
import VirtualMocap.Yaml.Timestamp
import VirtualMocap.Bytes.Base64
import VirtualMocap.Text.Case

/-!
# YAML values

`Document.build` turns a node graph into values by the nodes' tags, breadth first, so
the first failure in that order is the one reported; merge keys `<<` bring in other
mappings' pairs first. `Yaml.load` reads at most one document of a text, and
`Document.toJson` keeps what a configuration can use, down to `configurationDepth` levels.
-/

namespace VirtualMocap

namespace Yaml

/-- A value of a YAML document; collections hold the numbers of their parts. -/
inductive Value where
  | null
  | bool (b : Bool)
  | int (n : Int)
  | float (x : Binary64)
  | str (s : String)
  | seq (items : List Nat)
  | map (pairs : List (Nat × Nat))
  | set (items : List Nat)
  /-- A date, or a date with a time. -/
  | timestamp (text : String) (withTime : Bool)
  | binary (bytes : List UInt8)
  deriving Inhabited, Repr

def Value.typeName : Value → String
  | .null => "NoneType"
  | .bool _ => "bool"
  | .int _ => "int"
  | .float _ => "float"
  | .str _ => "str"
  | .seq _ => "list"
  | .map _ => "dict"
  | .set _ => "set"
  | .timestamp _ withTime => if withTime then "datetime" else "date"
  | .binary _ => "bytes"

def Value.isHashable : Value → Bool
  | .seq _ | .map _ | .set _ => false
  | _ => true

def constructFail {α : Type} (context : Option (String × Mark)) (problem : String) (at_ : Mark) :
    Except YamlError α :=
  .error (.marked .constructor context problem at_)

def intOfText (text : String) (base : Nat) : Except YamlError Int :=
  (Decimal.readInt base text).mapError fun e => .badNumber (e.message text base)

def constructInt (text : String) : Except YamlError Int := do
  let cs := text.toList.filter (· != '_')
  match cs with
  | [] => .error .emptyNumber
  | first :: _ =>
    let sign : Int := if first == '-' then -1 else 1
    let cs := if first == '-' || first == '+' then cs.drop 1 else cs
    let value := String.ofList cs
    if value == "0" then return 0
    match cs with
    | [] => .error .emptyNumber
    | '0' :: 'b' :: rest => return sign * (← intOfText (String.ofList rest) 2)
    | '0' :: 'x' :: rest => return sign * (← intOfText (String.ofList rest) 16)
    | '0' :: _ => return sign * (← intOfText value 8)
    | _ =>
      if cs.contains ':' then
        let parts ← (value.splitOn ":").mapM fun p => intOfText p 10
        return sign * parts.foldl (fun acc d => acc * 60 + d) 0
      else return sign * (← intOfText value 10)

def floatOfText (text : String) : Except YamlError Binary64 :=
  match Decimal.readFloat? text with
  | some x => .ok x
  | none => .error (.badNumber s!"could not convert string to float: {Text.quoted text}")

def constructFloat (text : String) : Except YamlError Binary64 := do
  let cs := Text.lower (text.toList.filter (· != '_'))
  match cs with
  | [] => .error .emptyNumber
  | first :: _ =>
    let negative := first == '-'
    let cs := if first == '-' || first == '+' then cs.drop 1 else cs
    let value := String.ofList cs
    let signed (x : Binary64) : Binary64 := if negative then x.neg else x
    if value == ".inf" then return signed (Binary64.infinity false)
    if value == ".nan" then return Binary64.nan.neg
    if cs.contains ':' then
      let parts ← (value.splitOn ":").mapM floatOfText
      let (total, _) := parts.reverse.foldl (fun (acc : Binary64 × Nat) d =>
        (acc.1 + d * Binary64.ofNat acc.2, acc.2 * 60)) (Binary64.zero, 1)
      return signed total
    return signed (← floatOfText value)

def constructBool (text : String) : Except YamlError Bool :=
  match String.ofList (Text.lower text.toList) with
  | "yes" | "true" | "on" => .ok true
  | "no" | "false" | "off" => .ok false
  | w => .error (.badTruth w)

def undefinedTag {α : Type} (node : Node) : Except YamlError α :=
  constructFail none s!"could not determine a constructor for the tag {Text.quoted node.tag}" node.start

def constructScalar (node : Node) (tag text : String) : Except YamlError Value :=
  if tag == coreTag "null" then .ok .null
  else if tag == coreTag "bool" then (constructBool text).map .bool
  else if tag == coreTag "int" then (constructInt text).map .int
  else if tag == coreTag "float" then (constructFloat text).map .float
  else if tag == coreTag "str" then .ok (.str text)
  else if tag == coreTag "timestamp" then
    match Timestamp.read? text with
    | none => .error .notTimestamp
    | some t =>
      match t.check with
      | .error message => .error (.badTimestamp message)
      | .ok () => .ok (.timestamp text t.time.isSome)
  else if tag == coreTag "binary" then
    match Base64.asciiError? ((Text.codePoints text).map Text.CodePoint.toNat) with
    | some e => constructFail none ("failed to convert base64 data into ascii: " ++ e) node.start
    | none =>
      match Base64.decode text.toList with
      | .error e => constructFail none ("failed to decode base64 data: " ++ e.message) node.start
      | .ok bytes => .ok (.binary bytes)
  else undefinedTag node

def scalarTags : List String :=
  ["null", "bool", "int", "float", "str", "timestamp", "binary"].map coreTag

/-- The state of building: the node graph (rewritten as mappings are flattened), the
value made for each node so far, the values, and the collections still to fill, in the
order they were made. -/
structure Build where
  graph : Graph
  made : Array (Option Nat)
  values : Array Value := #[]
  pending : List (Nat × Nat) := []

abbrev BuildM := StateT Build (Except YamlError)

def buildFail {α : Type} (context : Option (String × Mark)) (problem : String) (at_ : Mark) :
    BuildM α :=
  throw (.marked .constructor context problem at_)

def nodeAt (n : Nat) : BuildM Node := return (← get).graph.node n

def pushValue (v : Value) : BuildM Nat := do
  let b ← get
  set { b with values := b.values.push v }
  return b.values.size

def addValue (n : Nat) (v : Value) : BuildM Nat := do
  let i ← pushValue v
  modify fun b => { b with made := b.made.set! n (some i) }
  return i

/-- The text of a node read as a scalar: a scalar's own text, or for a mapping the text
of the value of its first `=` key; `fuel` bounds the chain of `=` keys. -/
def scalarText : Nat → Nat → BuildM String
  | 0, n => do buildFail none "expected a scalar node, but found mapping" (← nodeAt n).start
  | fuel + 1, n => do
    let node ← nodeAt n
    match node.body with
    | .scalar text => return text
    | .mapping pairs =>
      let g := (← get).graph
      match pairs.find? fun (k, _) => (g.node k).tag == coreTag "value" with
      | some (_, v) => scalarText fuel v
      | none => buildFail none "expected a scalar node, but found mapping" node.start
    | .sequence _ => buildFail none "expected a scalar node, but found sequence" node.start

def collectionTags : List String := ["seq", "map", "set", "omap", "pairs"].map coreTag

def valueOf (n : Nat) : BuildM Nat := do
  if let some (some i) := (← get).made[n]? then return i
  let node ← nodeAt n
  if collectionTags.contains node.tag then
    let empty : Value :=
      if node.tag == coreTag "map" then .map []
      else if node.tag == coreTag "set" then .set []
      else .seq []
    let i ← addValue n empty
    modify fun b => { b with pending := b.pending ++ [(n, i)] }
    return i
  else if scalarTags.contains node.tag then
    let text ← scalarText ((← get).graph.size + 1) n
    match constructScalar node node.tag text with
    | .ok v => addValue n v
    | .error e => throw e
  else
    match (undefinedTag node : Except YamlError Unit) with
    | .error e => throw e
    | .ok () => addValue n .null

/-- Rewrite mapping node `n` in place: each merge key is dropped and the pairs of the
mapping it names (flattened first), or of the mappings of the sequence it names (the
last first), come before the mapping's own pairs; a `=` key becomes a text key. Merge
keys are dropped before the mappings they name are flattened, so a mapping that merges
itself brings in what it holds by then. `fuel` bounds the nesting of merges. -/
def flatten : Nat → Nat → BuildM Unit
  | 0, _ => pure ()
  | fuel + 1, n => do
    let start := (← nodeAt n).start
    let mut merged : List (Nat × Nat) := []
    let mut index := 0
    for _ in [0:(← get).graph.size * 2 + 2] do
      let pairs := match (← nodeAt n).body with
        | .mapping pairs => pairs
        | _ => []
      match pairs[index]? with
      | none => break
      | some (k, v) =>
        let key ← nodeAt k
        if key.tag == coreTag "merge" then
          modify fun b => { b with graph := b.graph.modify n fun node =>
            { node with body := .mapping (pairs.eraseIdx index) } }
          let value ← nodeAt v
          match value.body with
          | .mapping _ =>
            flatten fuel v
            match (← nodeAt v).body with
            | .mapping inner => merged := merged ++ inner
            | _ => pure ()
          | .sequence items =>
            let mut groups : List (List (Nat × Nat)) := []
            for sub in items do
              let subNode ← nodeAt sub
              match subNode.body with
              | .mapping _ =>
                flatten fuel sub
                match (← nodeAt sub).body with
                | .mapping inner => groups := groups ++ [inner]
                | _ => pure ()
              | _ =>
                buildFail (some ("while constructing a mapping", start))
                  s!"expected a mapping for merging, but found {subNode.id}" subNode.start
            merged := merged ++ groups.reverse.flatten
          | .scalar _ =>
            buildFail (some ("while constructing a mapping", start))
              s!"expected a mapping or list of mappings for merging, but found {value.id}" value.start
        else
          if key.tag == coreTag "value" then
            modify fun b => { b with graph := b.graph.modify k fun node =>
              { node with tag := coreTag "str" } }
          index := index + 1
    if !merged.isEmpty then
      modify fun b => { b with graph := b.graph.modify n fun node =>
        match node.body with
        | .mapping own => { node with body := .mapping (merged ++ own) }
        | _ => node }

def pairsContext (tag : String) : String :=
  if tag == coreTag "omap" then "while constructing an ordered map" else "while constructing pairs"

def fillCollection (n i : Nat) : BuildM Unit := do
  let node ← nodeAt n
  if node.tag == coreTag "seq" then
    match node.body with
    | .sequence items =>
      let vs ← items.mapM valueOf
      modify fun b => { b with values := b.values.set! i (.seq vs) }
    | _ => buildFail none s!"expected a sequence node, but found {node.id}" node.start
  else if node.tag == coreTag "map" || node.tag == coreTag "set" then
    if let .mapping _ := node.body then flatten ((← get).graph.size + 1) n
    let node ← nodeAt n
    match node.body with
    | .mapping pairs =>
      let mut out : List (Nat × Nat) := []
      for (k, v) in pairs do
        let key ← valueOf k
        if !((← get).values.getD key .null).isHashable then
          buildFail (some ("while constructing a mapping", node.start)) "found unhashable key"
            (← nodeAt k).start
        out := out ++ [(key, ← valueOf v)]
      let filled : Value := if node.tag == coreTag "set" then .set (out.map (·.1)) else .map out
      modify fun b => { b with values := b.values.set! i filled }
    | _ => buildFail none s!"expected a mapping node, but found {node.id}" node.start
  else
    let context := some (pairsContext node.tag, node.start)
    match node.body with
    | .sequence items =>
      let mut out : List Nat := []
      for sub in items do
        let subNode ← nodeAt sub
        match subNode.body with
        | .mapping [(k, v)] =>
          let key ← valueOf k
          let value ← valueOf v
          let pair ← pushValue (.seq [key, value])
          out := out ++ [pair]
        | .mapping pairs =>
          buildFail context s!"expected a single mapping item, but found {pairs.length} items"
            subNode.start
        | _ => buildFail context s!"expected a mapping of length 1, but found {subNode.id}" subNode.start
      modify fun b => { b with values := b.values.set! i (.seq out) }
    | _ => buildFail context s!"expected a sequence, but found {node.id}" node.start

/-- Fill the queued collections in order, those they make joining the end of the queue;
`fuel` bounds the number of collections filled. -/
def fillPending : Nat → BuildM Unit
  | 0 => pure ()
  | fuel + 1 => do
    match (← get).pending with
    | [] => pure ()
    | (n, i) :: rest =>
      modify fun b => { b with pending := rest }
      fillCollection n i
      fillPending fuel

/-- The values of a document: all of them, and the number of the root's. -/
structure Document where
  values : Array Value
  root : Nat

/-- Build the values of a document from its node graph. -/
def Document.build (graph : Graph) (root : Nat) : Except YamlError Document := do
  let start : Build := { graph, made := Array.replicate graph.size none }
  let (r, b) ← (do let r ← valueOf root; fillPending (graph.size + 1); pure r).run start
  return ⟨b.values, r⟩

def Document.value (d : Document) (i : Nat) : Value := d.values.getD i .null

/-- The levels of a document that a configuration reads: sections, their parts, and
the values in them. -/
def configurationDepth : Nat := 4

mutual

def Document.jsonOf (d : Document) : Nat → Nat → Json
  | 0, _ => .null
  | depth + 1, i =>
    match d.value i with
    | .null => .null
    | .bool b => .bool b
    | .int n => .int n
    | .float x => .float x
    | .str s => .str s
    | .seq items => .arr (d.itemsJson depth items)
    | .map pairs => .obj (d.pairsJson depth [] pairs)
    | .binary data => .bytes data
    | .set _ | .timestamp .. => .null

def Document.itemsJson (d : Document) (depth : Nat) : List Nat → List Json
  | [] => []
  | i :: rest => d.jsonOf depth i :: d.itemsJson depth rest

def Document.pairsJson (d : Document) (depth : Nat) (acc : List (String × Json)) :
    List (Nat × Nat) → List (String × Json)
  | [] => acc
  | (k, v) :: rest =>
    match d.value k with
    | .str key => d.pairsJson depth (Json.setField acc key (d.jsonOf depth v)) rest
    | _ => d.pairsJson depth acc rest

end

/-- The root value as a configuration value. -/
def Document.toJson (d : Document) : Json := d.jsonOf configurationDepth d.root

def Document.rootValue (d : Document) : Value := d.value d.root

def unacceptable? (text : String) : Option (Nat × Nat) :=
  let ok (n : Nat) : Bool :=
    (n == 0x9 || n == 0xA || n == 0xD || (0x20 ≤ n && n ≤ 0x7E) || n == 0x85 ||
      (0xA0 ≤ n && n ≤ 0xD7FF) || (0xE000 ≤ n && n ≤ 0xFFFD) || (0x10000 ≤ n && n ≤ 0x10FFFF))
  let indexed := ((Text.codePoints text).map Text.CodePoint.toNat).zipIdx
  (indexed.find? fun p => !ok p.1)

/-- How deep the calls already are when reading a document starts: the call that asks
for the document and the two that load it. -/
def readingDepth : Nat := 3

def callLimit : Nat := 994

/-- Read a YAML text holding at most one document, with calls nested at most `limit`
deep: its values, `none` if it holds none. -/
def loadWithin (limit : Nat) (text : String) : Except YamlError (Option Document) := do
  if let some (code, position) := unacceptable? text then throw (.unacceptable code position)
  let parser : Parser := { scanner := Scanner.init text readingDepth limit }
  let (document, _) ← ((composeSingle.run {}).run parser)
  match document.1 with
  | none => return none
  | some (graph, root) => return some (← Document.build graph root)

/-- Read a YAML text holding at most one document: its values, `none` if it holds none. -/
def load (text : String) : Except YamlError (Option Document) := loadWithin callLimit text

end Yaml

end VirtualMocap
