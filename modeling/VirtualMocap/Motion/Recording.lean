import VirtualMocap.Motion.Message
import VirtualMocap.Json.Issue
import VirtualMocap.Json.Number
import VirtualMocap.Json.Mapping
import VirtualMocap.Json.Read
import VirtualMocap.Json.Write
import VirtualMocap.Text.Blank
import VirtualMocap.Text.Utf8

/-!
# Recorded frames

A recording cuts the message stream into frames at time markers (`Recorder.feed`); what
comes before the first marker is dropped. A message is recorded through a validating
library (`Adapters`), and a recording is one JSON object per line (`writeFrames`,
`readFrames`).
-/

namespace VirtualMocap

namespace Motion

open Json

/-- The validating library as recordings use it: `dump` gives the fields of a message as
JSON data, and `validate` reads a message of the named kind from fields, or gives the
issues it found. -/
structure Adapters where
  dump : Message → List (String × Json)
  validate : String → List (Json × Json) → Except (List Issue) Message

/-- The recording form of a message: its kind under `type`, then the fields that the
library dumps, each replacing an entry of the same key. -/
def Message.toJson (lib : Adapters) (m : Message) : Json :=
  .obj ((lib.dump m).foldl (fun acc kv => setField acc kv.1 kv.2) [("type", .str m.typeName)])

/-- Why a message cannot be read from its recording form. -/
inductive FieldsError where
  /-- The `type` is missing or names no kind; `literal` is it as messages quote it. -/
  | unknownType (literal : String)
  | invalid (issues : List Issue)
  /-- The value does not give a mapping of fields. -/
  | notMapping (e : MappingError)
  deriving DecidableEq, Repr

def FieldsError.message : FieldsError → String
  | .unknownType literal => "unknown VMC message type: " ++ literal
  | .invalid issues => issuesLine issues
  | .notMapping e => e.message

/-- Read a message from its recording form: the `type` entry is taken out, and a kind's
name hands the other entries to the library's validator of that kind. -/
def Message.ofFields (lib : Adapters) (v : Json) : Except FieldsError Message :=
  match v.toMapping with
  | .error e => .error (.notMapping e)
  | .ok entries =>
    let isType (kv : Json × Json) : Bool := sameKey kv.1 (.str "type")
    let kind := ((entries.find? isType).map (·.2)).getD .null
    match kind with
    | .str name =>
      if typeNames.contains name then (lib.validate name (entries.filter (!isType ·))).mapError .invalid
      else .error (.unknownType kind.literal)
    | _ => .error (.unknownType kind.literal)

/-- A recorded frame: the sender's clock when it began, and the messages after it. -/
structure Frame where
  timeDelta : Binary64
  messages : List Message := []
  deriving DecidableEq, Repr

def Frame.toJson (lib : Adapters) (f : Frame) : Json :=
  .obj [("time_delta", .float f.timeDelta), ("messages", .arr (f.messages.map (Message.toJson lib)))]

/-- A recorder: the frame being filled, once a time marker has been seen. -/
structure Recorder where
  current : Option Frame := none
  deriving DecidableEq, Repr

namespace Recorder

def empty : Recorder := {}

/-- Feed one message; the frame it completed, if any. -/
def feed (r : Recorder) (m : Message) : Recorder × Option Frame :=
  match m with
  | .time s => (⟨some { timeDelta := s.toBinary64 }⟩, r.current)
  | _ => (⟨r.current.map fun f => { f with messages := f.messages ++ [m] }⟩, none)

/-- Close the open frame, if any, and return it. -/
def flush (r : Recorder) : Recorder × Option Frame := (empty, r.current)

def feedAll (r : Recorder) : List Message → Recorder × List Frame
  | [] => (r, [])
  | m :: ms =>
    let (r, done) := r.feed m
    let (r, rest) := r.feedAll ms
    (r, done.toList ++ rest)

end Recorder

/-- Why a line of a recording cannot be read. -/
inductive FrameError where
  /-- The line is not a JSON document. -/
  | notJson (line : String) (e : ReadError)
  /-- The document is a value of this kind, which has no named entries. -/
  | notMapping (kind : String)
  /-- The document has no `time_delta`. -/
  | missingTimeDelta
  /-- The `time_delta` is not a number. -/
  | badTimeDelta (e : FloatError)
  /-- The `messages` cannot be iterated over. -/
  | badMessages (e : MappingError)
  /-- A message cannot be read. -/
  | badMessage (e : FieldsError)
  deriving Repr

def FrameError.message : FrameError → String
  | .notJson line e => e.message line
  | .notMapping "list" => "list indices must be integers or slices, not str"
  | .notMapping "str" => "string indices must be integers, not 'str'"
  | .notMapping kind => s!"'{kind}' object is not subscriptable"
  | .missingTimeDelta => "'time_delta'"
  | .badTimeDelta e => e.message
  | .badMessages e => e.message
  | .badMessage e => e.message

/-- Read the messages of a frame in order, stopping at the first that fails. -/
def readMessages (lib : Adapters) : List Json → Except FrameError (List Message)
  | [] => .ok []
  | v :: vs =>
    match Message.ofFields lib v with
    | .error e => .error (.badMessage e)
    | .ok m => (m :: ·) <$> readMessages lib vs

def Frame.ofJson (lib : Adapters) : Json → Except FrameError Frame
  | .obj fields => do
    let t ← match Json.lookup fields "time_delta" with
      | none => throw .missingTimeDelta
      | some v => (asFloat? v).mapError .badTimeDelta
    let items ← (elements ((Json.lookup fields "messages").getD (.arr []))).mapError .badMessages
    let ms ← readMessages lib items
    pure ⟨t, ms⟩
  | v => .error (.notMapping v.typeName)

/-- The deepest nesting of arrays and objects that a line of a recording may hold: reading
a line runs inside calls whose depth leaves room for this many. -/
def lineNesting : Nat := 991

/-- Read the frames of a recording, one per line that is not blank. -/
def readLines (lib : Adapters) : List String → Except FrameError (List Frame)
  | [] => .ok []
  | line :: rest =>
    let text := String.ofList (Text.trimBlanks line.toList)
    if text.isEmpty then readLines lib rest
    else
      match Json.readWithin lineNesting text with
      | .error e => .error (.notJson text e)
      | .ok v => do
        let f ← Frame.ofJson lib v
        pure (f :: (← readLines lib rest))

/-- Read a recording. -/
def readFrames (lib : Adapters) (text : String) : Except FrameError (List Frame) :=
  readLines lib (Text.lines text)

/-- Write a recording: each frame on a line of its own. The recording is UTF-8, so the
first line that holds an unpaired surrogate stops the writing. -/
def writeFrames (lib : Adapters) : List Frame → Except Text.SurrogateRun String
  | [] => .ok ""
  | f :: rest => do
    let line := Json.write Style.spaced (f.toJson lib)
    if let some run := Text.surrogateRun? line then throw run
    return line ++ "\n" ++ (← writeFrames lib rest)

end Motion

end VirtualMocap
