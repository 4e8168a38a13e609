import VirtualMocap.Json.Value

/-!
# Datagrams and network faults

A datagram is its bytes and the address of the peer that sent it. A fault is a failure
that the network layer reports: a plain socket error, a reset or refused connection, or
the closing of the handle itself.
-/

namespace VirtualMocap

namespace Transport

/-- A peer's address as the socket layer gives it: host and port, and for IPv6 also the
flow and scope. -/
abbrev Address := List Json

/-- A datagram and the address it came from. -/
structure Datagram where
  data : List UInt8
  sender : Address

/-- The kinds of failure the network layer reports. -/
inductive FaultKind where
  /-- A socket error. -/
  | os
  /-- The peer reset the connection. -/
  | connectionReset
  /-- The peer refused the connection. -/
  | connectionRefused
  /-- The handle is closed. -/
  | closed
  deriving DecidableEq, Repr

namespace FaultKind

def name : FaultKind → String
  | .os => "OSError"
  | .connectionReset => "ConnectionResetError"
  | .connectionRefused => "ConnectionRefusedError"
  | .closed => "TransportClosed"

def ofName? : String → Option FaultKind
  | "OSError" => some .os
  | "ConnectionResetError" => some .connectionReset
  | "ConnectionRefusedError" => some .connectionRefused
  | "TransportClosed" => some .closed
  | _ => none

end FaultKind

/-- A failure reported by the network layer, with its text. -/
structure Fault where
  kind : FaultKind
  message : String
  deriving DecidableEq, Repr

def Fault.handleClosed : Fault := ⟨.closed, "datagram handle is closed"⟩

end Transport

end VirtualMocap
