import VirtualMocap.Transport.Fault

/-!
# The UDP datagram handle, without a socket

`Link` is the program's UDP datagram handle with its socket taken away: `inbox` is the
receive queue and `wire` what was handed to the socket. The closed fault is put back after
a receive takes it, as the handle puts its close marker back. `failNext` is a send error
the socket reported and the next send raises before sending.
-/

namespace VirtualMocap

namespace Transport

/-- A datagram handle without a socket. -/
structure Link where
  inbox : List (Except Fault Datagram) := []
  closed : Bool := false
  /-- A send error reported and not yet raised. -/
  failNext : Option Fault := none
  /-- The datagrams sent, in order. -/
  wire : List (List UInt8) := []

namespace Link

def push (l : Link) (item : Except Fault Datagram) : Link := { l with inbox := l.inbox ++ [item] }

def close (l : Link) : Link :=
  if l.closed then l else { l with closed := true, inbox := l.inbox ++ [.error .handleClosed] }

def take (l : Link) : Option (Except Fault Datagram × Link) :=
  match l.inbox with
  | [] => none
  | item :: rest =>
    match item with
    | .error f => if f.kind = .closed then some (item, { l with inbox := rest ++ [item] })
      else some (item, { l with inbox := rest })
    | .ok _ => some (item, { l with inbox := rest })

def send (l : Link) (data : List UInt8) : Link × Except Fault Unit :=
  if l.closed then (l, .error .handleClosed)
  else
    match l.failNext with
    | some f => ({ l with failNext := none }, .error f)
    | none => ({ l with wire := l.wire ++ [data] }, .ok ())

def ofDatagrams (datagrams : List Datagram) : Link :=
  ({ inbox := datagrams.map .ok } : Link).close

end Link

end Transport

end VirtualMocap
