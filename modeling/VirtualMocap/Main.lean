import VirtualMocap.Cli.Command
import VirtualMocap.Config.Standard
import VirtualMocap.Session.Performer
import VirtualMocap.Session.Pump
import VirtualMocap.Motion.Demo
import VirtualMocap.Motion.Fields
import VirtualMocap.Json.Write
import Std.Internal.UV.UDP

/-!
# The `vmc` program

The program reads its command line and settings, then runs `marionette`, `performer`,
`record` or `replay` over UDP. Everything here is input and output; what a datagram
means and what is logged is decided by the pure functions it calls.
-/

namespace VirtualMocap

namespace Program

open Session Std.Internal.UV Std.Net

/-- Where log events go, and which of them. -/
structure Logger where
  threshold : Config.LogLevel
  json : Bool

def rankOf : Level → Nat
  | .debug => 0
  | .info => 1
  | .warning => 2
  | .error => 3

def thresholdRank : Config.LogLevel → Nat
  | .debug => 0
  | .info => 1
  | .warning => 2
  | .error => 3

def consoleValue : Json → String
  | .str s => s
  | v => Json.write Json.Style.spaced v

def Logger.emit (lg : Logger) (e : LogEvent) : IO Unit := do
  if rankOf e.level < thresholdRank lg.threshold then return
  let line := if lg.json then Json.write Json.Style.spaced e.toJson
    else
      let values := e.fields.map fun (k, v) => k ++ "=" ++ consoleValue v
      " ".intercalate (s!"[{e.level.name}]" :: e.event :: values)
  let err ← IO.getStderr
  err.putStrLn (Text.release line)
  err.flush

def Logger.emitAll (lg : Logger) (es : List LogEvent) : IO Unit := es.forM lg.emit

def appEvent (level : Level) (event : String) (fields : List (String × Json) := []) : LogEvent :=
  LogEvent.under "app" { level, event, fields }

def resolve (e : Config.Endpoint) : IO SocketAddress := do
  let host := if e.ip == "localhost" then "127.0.0.1" else e.ip
  let port := e.port.toNat.toUInt16
  match IPv4Addr.ofString host with
  | some a => return .v4 ⟨a, port⟩
  | none =>
    match IPv6Addr.ofString host with
    | some a => return .v6 ⟨a, port⟩
    | none => throw (IO.userError s!"cannot resolve address {e.ip}")

def senderOf : Option SocketAddress → Transport.Address
  | some a => [.str (toString a.ipAddr), .int a.port.toNat]
  | none => []

def seconds (ms : Nat) : Binary64 := Binary64.ofRatio false ms 1000

def millis (s : Binary64) : Nat :=
  ((s * Binary64.ofNat 1000).truncate?.getD 0).toNat

def receiveWithin (socket : UDP.Socket) (limit : Option Nat) :
    IO (Option (ByteArray × Option SocketAddress)) := do
  let promise ← socket.recv 65535
  let received := promise.result?.map fun r => some r
  let timers ← match limit with
    | none => pure []
    | some ms => do
      let timer ← IO.asTask (IO.sleep ms.toUInt32)
      pure [timer.map fun _ => none]
  match ← IO.waitAny (received :: timers) (by simp) with
  | some (some (.ok d)) => return some d
  | some (some (.error e)) => throw e
  | _ =>
    socket.cancelRecv
    return none

partial def receiveLoop {σ : Type} (lg : Logger) (socket : UDP.Socket) (deadline : Option Nat)
    (body : σ → Transport.Datagram → Except Osc.CallStep (σ × List LogEvent)) (st : σ) : IO σ := do
  let now ← IO.monoMsNow
  let limit := deadline.map fun d => d - now
  if limit == some 0 then return st
  match ← receiveWithin socket limit with
  | none => return st
  | some (bytes, sender) =>
    match body st ⟨bytes.toList, senderOf sender⟩ with
    | .error step => throw (IO.userError step.message)
    | .ok (st, events) =>
      lg.emitAll (events.map fun e => if e.fields.any (·.1 == "component") then e else e.under "app")
      receiveLoop lg socket deadline body st

def bound (e : Config.Endpoint) : IO UDP.Socket := do
  let socket ← UDP.Socket.new
  socket.bind (← resolve e)
  return socket

def sendTo (lg : Logger) (socket : UDP.Socket) (target : SocketAddress) (m : Motion.Message) :
    IO Unit := do
  let (p, r, events) := Performer.send ⟨{}⟩ m
  match r with
  | .error e =>
    let text := match e with
      | .argument a => a.message
      | .encoding x => x.message
      | .fault f => f.message
    throw (IO.userError text)
  | .ok () =>
    for bytes in p.link.wire do
      let sent ← socket.send #[ByteArray.mk bytes.toArray] (some target)
      match ← IO.wait sent.result? with
      | some (.error e) => throw e
      | _ => pure ()
    lg.emitAll events

def deadlineAfter (duration : Option Binary64) : IO (Option Nat) := do
  let now ← IO.monoMsNow
  return duration.map fun d => now + millis d

def runMarionette (lg : Logger) (s : Config.Settings) : IO Unit := do
  let socket ← bound s.marionette.bind
  lg.emit (appEvent .info "marionette.start"
    [("bind_ip", .str s.marionette.bind.ip), ("bind_port", .int s.marionette.bind.port)])
  discard (receiveLoop lg socket none (pumpBody loopRoom s.codec.maxBundleDepth) {})

def streamId : IO String := do
  let mut digits : List Char := []
  for _ in [0:32] do
    digits := digits ++ [Nat.toDigits 16 (← IO.rand 0 15) |>.headD '0']
  let marked := (digits.set 12 '4').set 16 ("89ab".toList.getD ((← IO.rand 0 3)) '8')
  let part (i n : Nat) := String.ofList ((marked.drop i).take n)
  return "-".intercalate [part 0 8, part 8 4, part 12 4, part 16 4, part 20 12]

partial def demoLoop (lg : Logger) (socket : UDP.Socket) (target : SocketAddress) (epoch start : Nat)
    (interval : Nat) (deadline : Option Nat) (sent : Nat) : IO Nat := do
  let now ← IO.monoMsNow
  if deadline.any (now ≥ ·) then return sent
  let frame := (Motion.demoFrame (.float (seconds (now - start))) (.ofBinary64 (seconds (now - epoch)))).toOption.getD []
  for m in frame do
    sendTo lg socket target m
  IO.sleep interval.toUInt32
  demoLoop lg socket target epoch start interval deadline (sent + 1)

def runPerformer (lg : Logger) (s : Config.Settings) (epoch : Nat) (duration : Option Binary64) :
    IO Unit := do
  let socket ← bound s.performer.bind
  let target ← resolve s.performer.target
  let id ← streamId
  let stream (e : LogEvent) := LogEvent.under "stream" e
  lg.emit (stream ⟨.info, "stream.start", [("stream_id", .str id), ("fps", .int s.demo.fps)]⟩)
  let deadline ← deadlineAfter duration
  let sent ← demoLoop lg socket target epoch (← IO.monoMsNow)
    (millis ((Motion.sleepInterval (.int s.demo.fps)).toOption.getD Binary64.zero)) deadline 0
  lg.emit (stream ⟨.info, "stream.stop", [("stream_id", .str id), ("frames_sent", .int sent)]⟩)
  lg.emit (appEvent .info "performer.done" [("frames_sent", .int sent)])

def runRecord (lg : Logger) (s : Config.Settings) (duration : Option Binary64) : IO Unit := do
  let socket ← bound s.marionette.bind
  let output := s.recorder.output
  lg.emit (appEvent .info "record.start"
    [("bind_port", .int s.marionette.bind.port), ("output", .str output)])
  let deadline ← deadlineAfter duration
  let r ← receiveLoop lg socket deadline (recordBody loopRoom s.codec.maxBundleDepth) {}
  match Motion.writeFrames .loose r.frames with
  | .ok text => IO.FS.writeFile (Text.release output) (Text.release text)
  | .error run => throw (IO.userError run.message)
  lg.emit (appEvent .info "record.saved" [("output", .str output), ("frames", .int r.frames.length)])

def replayOnce (lg : Logger) (socket : UDP.Socket) (target : SocketAddress)
    (frames : List Motion.Frame) : IO Unit := do
  let mut previous := (frames.head?.map (·.timeDelta)).getD Binary64.zero
  for frame in frames do
    IO.sleep (millis (frame.timeDelta - previous)).toUInt32
    previous := frame.timeDelta
    sendTo lg socket target (.time (.ofBinary64 frame.timeDelta))
    for m in frame.messages do
      sendTo lg socket target m

partial def replayForever (lg : Logger) (socket : UDP.Socket) (target : SocketAddress)
    (frames : List Motion.Frame) : IO Unit := do
  replayOnce lg socket target frames
  replayForever lg socket target frames

def runReplay (lg : Logger) (s : Config.Settings) (input : String) (loop : Bool) : IO Unit := do
  let frames ← match Motion.readFrames .loose (Text.hold (← IO.FS.readFile (Text.release input))) with
    | .ok fs => pure fs
    | .error e => throw (IO.userError (Text.release e.message))
  if frames.isEmpty then
    lg.emit (appEvent .warning "replay.empty" [("input", .str input)])
    return
  let socket ← bound s.performer.bind
  let target ← resolve s.performer.target
  lg.emit (appEvent .info "replay.start"
    [("input", .str input), ("frames", .int frames.length), ("loop", .bool loop)])
  if loop then replayForever lg socket target frames
  else replayOnce lg socket target frames
  lg.emit (appEvent .info "replay.done" [("frames", .int frames.length)])

def readIfPresent (path : String) : IO (Option String) := do
  try return some (Text.hold (← IO.FS.readFile (Text.release path))) catch _ => return none

def visibleFiles (config : Option String) : IO Config.Files := do
  let paths := config.toList ++ Config.candidates
  let mut files : Config.Files := []
  for p in paths do
    if let some text ← readIfPresent p then files := files ++ [(p, text)]
  return files

def usage : String :=
  "usage: vmc [-h] [--config CONFIG] [--log-level {DEBUG,INFO,WARNING,ERROR}] " ++
    "[--log-format {json,console}] {marionette,performer,record,replay} ..."

/-- Run the program on its arguments, held as text; the exit status. -/
def run (args : List String) : IO UInt32 := do
  let epoch ← IO.monoMsNow
  match Cli.Invocation.read args with
  | .error e =>
    if e.code == 0 then IO.println usage
    else
      let err ← IO.getStderr
      err.putStrLn usage
      err.putStrLn (Text.release e.message)
    return e.code.toUInt32
  | .ok inv =>
    match inv.settings .standard (← visibleFiles (inv.config.bind Cli.Given.value?)) "." with
    | .error e =>
      (← IO.getStderr).putStrLn (Text.release (e.name ++ ": " ++ e.message))
      return 1
    | .ok loaded =>
      let s := loaded.settings
      let lg : Logger := ⟨s.logging.level, s.logging.jsonLogs⟩
      match inv.command with
      | .marionette .. => runMarionette lg s
      | .performer _ _ _ duration => runPerformer lg s epoch (duration.bind Cli.Given.value?)
      | .record _ _ _ duration => runRecord lg s (duration.bind Cli.Given.value?)
      | .replay input _ _ loop => runReplay lg s input loop
      return 0

end Program

end VirtualMocap

def main (args : List String) : IO UInt32 :=
  VirtualMocap.Program.run (args.map VirtualMocap.Text.hold)
