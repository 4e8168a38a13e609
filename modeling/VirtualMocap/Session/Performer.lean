import VirtualMocap.Transport.Link
import VirtualMocap.Session.Log
import VirtualMocap.Motion.Wire
import VirtualMocap.Osc.Encode
import VirtualMocap.Bytes.Hex

/-!
# The sending side of a session

A performer turns each message into one OSC packet, encodes it completely, and only then
hands the bytes to its link, so a message that cannot be encoded never reaches the wire.
Nothing is batched across sends and nothing is retried: a failing link raises its fault.
Several messages can travel together as one bundle (`bundle`).
-/

namespace VirtualMocap

namespace Session

open Transport Osc Motion

/-- Why a send failed. -/
inductive SendError where
  /-- A field has no OSC argument. -/
  | argument (e : ArgError)
  /-- The packet cannot be encoded. -/
  | encoding (e : EncodeError)
  /-- The link failed. -/
  | fault (f : Fault)
  deriving DecidableEq, Repr

def plainArg : Arg → Json
  | .int n => .int n.toInt
  | .float x => .float x.toBinary64
  | .str s => .str s
  | .blob b => .str (Bytes.toHex b)
  | .bool b => .bool b
  | .time t => .obj [("sec", .int t.seconds.toNat), ("frac", .int t.fraction.toNat)]

/-- Several messages in one bundle with a time tag. -/
def bundle (ms : List Message) (time : TimeTag := .immediate) : Except ArgError Packet :=
  (ms.mapM Message.toOsc).map (.bundle time ·)

/-- A performer over its link. -/
structure Performer where
  link : Link

namespace Performer

def log (level : Level) (event : String) (fields : List (String × Json) := []) : LogEvent :=
  LogEvent.under "performer" { level, event, fields }

def transmit (p : Performer) (bytes : List UInt8) : Performer × Except SendError Unit :=
  let (link, r) := p.link.send bytes
  ({ link }, r.mapError .fault)

def sendPacket (p : Performer) (packet : Packet) :
    Performer × Except SendError Unit × List LogEvent :=
  match packet.encode with
  | .error e => (p, .error (.encoding e), [])
  | .ok bytes =>
    match p.transmit bytes with
    | (p, .error e) => (p, .error e, [])
    | (p, .ok ()) =>
      let isBundle := match packet with
        | .bundle .. => true
        | .message .. => false
      (p, .ok (), [log .debug "vmc.send_packet" [("size", .int bytes.length), ("bundle", .bool isBundle)]])

def send (p : Performer) (m : Message) : Performer × Except SendError Unit × List LogEvent :=
  match m.toOsc with
  | .error e => (p, .error (.argument e), [])
  | .ok packet =>
    match packet.encode with
    | .error e => (p, .error (.encoding e), [])
    | .ok bytes =>
      match p.transmit bytes with
      | (p, .error e) => (p, .error e, [])
      | (p, .ok ()) =>
        let fields := match packet with
          | .message address args =>
            [("osc_address", Json.str address), ("osc_args", .arr (args.map plainArg))]
          | .bundle .. => []
        (p, .ok (), [log .debug "vmc.send" fields])

def close (p : Performer) : Performer × List LogEvent :=
  if p.link.closed then (p, []) else ({ link := p.link.close }, [log .info "performer.close"])

end Performer

end Session

end VirtualMocap
