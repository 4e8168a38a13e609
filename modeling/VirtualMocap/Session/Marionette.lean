import VirtualMocap.Transport.Link
import VirtualMocap.Session.Log
import VirtualMocap.Bytes.Hex

/-!
# The receiving side of a session

A marionette is a stream of the datagrams its link receives, pulled by one consumer at a
time: a pull that finds nothing waits and is finished by `Marionette.resume`, a closed
link ends the stream, and any other fault closes it and is raised. `Marionette.drain`
consumes the stream until it ends.
-/

namespace VirtualMocap

namespace Session

open Transport

/-- Where a marionette stands. -/
inductive Phase where
  | awaitingDatagram
  | itemReady
  | closed
  deriving DecidableEq, Repr

def Phase.name : Phase → String
  | .awaitingDatagram => "awaiting_datagram"
  | .itemReady => "item_ready"
  | .closed => "closed"

/-- Why a pull gave no datagram. -/
inductive PullError where
  /-- The stream has ended. -/
  | endOfStream
  /-- Another pull is waiting. -/
  | busy
  /-- The link failed. -/
  | fault (f : Fault)
  deriving DecidableEq, Repr

def PullError.message : PullError → String
  | .endOfStream => ""
  | .busy => "Marionette is single-consumer; another receive is already pending"
  | .fault f => f.message

/-- A marionette over its link. -/
structure Marionette where
  link : Link
  phase : Phase := .awaitingDatagram
  /-- Whether a pull is waiting for the link. -/
  pulling : Bool := false

namespace Marionette

def log (level : Level) (event : String) (fields : List (String × Json) := []) : LogEvent :=
  LogEvent.under "marionette" { level, event, fields }

def complete (m : Marionette) (item : Except Fault Datagram) :
    Marionette × Except PullError Datagram × List LogEvent :=
  let m := { m with pulling := false }
  match item with
  | .ok d =>
    ({ m with phase := .itemReady }, .ok d,
      [log .debug "vmc.recv" [("size", .int d.data.length), ("sender", .arr d.sender)]])
  | .error f =>
    if f.kind = .closed then
      ({ m with phase := .closed }, .error .endOfStream, [log .info "marionette.closed"])
    else
      ({ m with phase := .closed }, .error (.fault f),
        [log .warning "marionette.receive_failed"
          [("error", .str f.message), ("error_type", .str f.kind.name)]])

/-- Pull the next datagram: the outcome, or `none` while the pull waits. -/
def receive (m : Marionette) : Marionette × Option (Except PullError Datagram) × List LogEvent :=
  if m.phase = .closed then (m, some (.error .endOfStream), [])
  else if m.pulling then (m, some (.error .busy), [])
  else
    let m := { m with pulling := true, phase := .awaitingDatagram }
    match m.link.take with
    | some (item, link) =>
      let (m, r, logs) := complete { m with link } item
      (m, some r, logs)
    | none => (m, none, [])

/-- Let a waiting pull take what has arrived. -/
def resume (m : Marionette) : Marionette × Option (Except PullError Datagram) × List LogEvent :=
  if m.pulling then
    match m.link.take with
    | some (item, link) =>
      let (m, r, logs) := complete { m with link } item
      (m, some r, logs)
    | none => (m, none, [])
  else (m, none, [])

def close (m : Marionette) : Marionette := { m with phase := .closed, link := m.link.close }

/-- Where a loop over the stream stopped: the marionette, the loop's state, the events in
order, and the error that ended the loop early, if one did. -/
structure Drained (σ ε : Type) where
  marionette : Marionette
  state : σ
  events : List LogEvent
  escaped : Option ε := none

/-- Pull datagrams until the stream ends or a pull has to wait, at most `fuel` times,
handing each datagram to `body`; an error of the body ends the loop at once. -/
def drain {σ ε : Type} (body : σ → Datagram → Except ε (σ × List LogEvent)) :
    Nat → Marionette → σ → Drained σ ε
  | 0, m, st => ⟨m, st, [], none⟩
  | fuel + 1, m, st =>
    match m.receive with
    | (m, some (.ok d), logs) =>
      match body st d with
      | .error e => ⟨m, st, logs, some e⟩
      | .ok (st, out) =>
        let r := drain body fuel m st
        { r with events := logs ++ out ++ r.events }
    | (m, _, logs) => ⟨m, st, logs, none⟩

/-- Consume the whole stream: every item on the link is pulled once, and the stream
ends at the closed fault. -/
def drainAll {σ ε : Type} (body : σ → Datagram → Except ε (σ × List LogEvent)) (m : Marionette)
    (st : σ) : Drained σ ε :=
  drain body (m.link.inbox.length + 1) m st

end Marionette

end Session

end VirtualMocap
