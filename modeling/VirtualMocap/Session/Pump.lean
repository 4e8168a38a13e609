import VirtualMocap.Session.Marionette
import VirtualMocap.Motion.Parse
import VirtualMocap.Motion.Recording

/-!
# Listening loops

Two loops consume a marionette's stream, decoding each datagram within a depth limit and
a room for calls; an undecodable datagram is reported once, a refused message is reported
and skipped, and calls past the room end the loop. `pumpBody` reports what arrives,
gathering blend-shape values until an apply message; `recordBody` feeds a recorder and
keeps the frames it completes.
-/

namespace VirtualMocap

namespace Session

open Transport Motion

/-- How many calls the decoder may nest under a listening loop: the event loop and the
loop's own frames take nine calls more than a direct decoding. -/
def loopRoom : Nat := Osc.callRoom - 9

/-- The report of a datagram that does not decode: its sender and size, and what was
wrong, where. -/
def decodeFailure (d : Datagram) (e : Osc.DecodeError) : LogEvent :=
  ⟨.warning, "vmc.decode_failed",
    [("sender", .arr d.sender), ("size", .int d.data.length), ("kind", .str e.kind.name),
      ("message", .str e.message), ("offset", .int e.offset)]⟩

/-- Decode a datagram within `room` nested calls, reporting a framing failure. Calls
nested past the room are no framing failure: they escape the loop. -/
def decodeReported (room : Nat) (maxDepth : Int) (d : Datagram) :
    Except Osc.CallStep (Except LogEvent (List Outcome)) :=
  match parseWithin d.data (.int maxDepth) (some room) with
  | .ok os => .ok (.ok os)
  | .error ⟨.callsTooDeep step, _⟩ => .error step
  | .error e => .ok (.error (decodeFailure d e))

def invalidEvent (e : MessageError) : LogEvent :=
  ⟨.warning, "vmc.invalid",
    [("code", .str e.code), ("message", .str e.message), ("address", .str e.address),
      ("details", e.details)]⟩

def setValue (vs : List (String × Binary32)) (k : String) (v : Binary32) : List (String × Binary32) :=
  if vs.any (·.1 == k) then vs.map fun kv => if kv.1 == k then (k, v) else kv else vs ++ [(k, v)]

/-- What the reporting loop keeps: blend-shape values gathered since the last apply. -/
structure Gathered where
  values : List (String × Binary32) := []

def pumpOutcome (sender : Address) (g : Gathered) : Outcome → Gathered × List LogEvent
  | .invalid e => (g, [invalidEvent e])
  | .unrecognized address args =>
    (g, [⟨.debug, "vmc.unrecognized",
      [("osc_address", .str address), ("arg_count", .int args.length)]⟩])
  | .recognized (.blendShape k v) => ({ values := setValue g.values k v }, [])
  | .recognized m =>
    match m, g.values with
    | .applyBlendShapes, _ :: _ =>
      let shown := g.values.filter fun kv => kv.2.toBinary64.isPositive
      ({ values := [] }, [⟨.info, "vmc.blend_shapes",
        [("values", .obj (shown.map fun kv => (kv.1, .float kv.2.toBinary64)))]⟩])
    | _, _ =>
      (g, [⟨.info, "vmc.message", [("type", .str m.typeName), ("sender", .arr sender)]⟩])

def pumpOutcomes (sender : Address) : Gathered → List Outcome → Gathered × List LogEvent
  | g, [] => (g, [])
  | g, o :: os =>
    let (g, first) := pumpOutcome sender g o
    let (g, rest) := pumpOutcomes sender g os
    (g, first ++ rest)

/-- The reporting loop's handling of one datagram. -/
def pumpBody (room : Nat) (maxDepth : Int) (g : Gathered) (d : Datagram) :
    Except Osc.CallStep (Gathered × List LogEvent) := do
  match ← decodeReported room maxDepth d with
  | .error e => pure (g, [e])
  | .ok os => pure (pumpOutcomes d.sender g os)

/-- What the recording loop keeps: its recorder and the frames completed so far. -/
structure Recording where
  recorder : Recorder := .empty
  frames : List Frame := []

def recordOutcomes : Recording → List Outcome → Recording × List LogEvent
  | r, [] => (r, [])
  | r, o :: os =>
    match o with
    | .invalid e =>
      let (r, rest) := recordOutcomes r os
      (r, invalidEvent e :: rest)
    | .unrecognized .. => recordOutcomes r os
    | .recognized m =>
      let (recorder, done) := r.recorder.feed m
      recordOutcomes { recorder, frames := r.frames ++ done.toList } os

/-- The recording loop's handling of one datagram. -/
def recordBody (room : Nat) (maxDepth : Int) (r : Recording) (d : Datagram) :
    Except Osc.CallStep (Recording × List LogEvent) := do
  match ← decodeReported room maxDepth d with
  | .error e => pure (r, [e])
  | .ok os => pure (recordOutcomes r os)

end Session

end VirtualMocap
