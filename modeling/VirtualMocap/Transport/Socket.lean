import VirtualMocap.Transport.Fault

/-!
# A datagram socket and its pending requests

A bounded receive queue drops what arrives while it is full; a lost connection queues a
closing mark, which a receive puts back so that every later receive sees it. Requests
run one at a time from a ready list, as a single-threaded event loop runs its callbacks,
and `settle n` runs it while the caller yields `n` times. A send checks for a close
before and after waiting to write, then for a held fault, then transmits.
-/

namespace VirtualMocap

namespace Transport

/-- What waits in the receive queue. -/
inductive Item where
  | datagram (d : Datagram)
  | fault (f : Fault)
  /-- The mark that the connection is gone. -/
  | closedMark

/-- A request made of the socket. -/
inductive Request where
  | send (data : List UInt8)
  | receive

/-- What a finished request gave. -/
inductive Completion where
  | sent
  | received (d : Datagram)
  | failed (f : Fault)

/-- Where a request stands. -/
inductive Progress where
  /-- Made, and not yet run. -/
  | fresh
  /-- Waiting for an item or for the socket to become writable. -/
  | blocked
  | finished (c : Completion)

/-- A job on the ready list. -/
inductive Job where
  /-- Run the request with this number. -/
  | run (request : Nat)
  /-- Tell the socket that its connection is lost. -/
  | connectionLost

/-- A datagram socket with its queue, its write state and its requests. -/
structure Socket where
  /-- Most items the receive queue holds; zero or less for no bound. -/
  capacity : Int
  /-- Whether incoming datagrams and faults are queued for a reader. -/
  receiving : Bool
  queue : List Item := []
  /-- Items that found the queue full. -/
  dropped : Nat := 0
  /-- Whether the connection has been lost. -/
  lost : Bool := false
  /-- Whether the socket has been closed. -/
  closing : Bool := false
  writable : Bool := true
  /-- A fault held for the next send. -/
  heldFault : Option Fault := none
  /-- A fault that the next transmission will report instead of sending. -/
  nextSendFault : Option Fault := none
  /-- The datagrams transmitted, in order. -/
  wire : List (List UInt8) := []
  /-- Receive requests waiting for an item, in order. -/
  readers : List Nat := []
  /-- Send requests waiting for the socket to become writable, in order. -/
  writers : List Nat := []
  ready : List Job := []
  /-- Every request made, by number, with where it stands. -/
  requests : List (Request × Progress) := []

/-- Things that happen to a socket from outside the event loop. -/
inductive Event where
  /-- A datagram arrives. -/
  | deliver (d : Datagram)
  /-- The network reports a fault. -/
  | reportFault (f : Fault)
  /-- The next transmission fails with this fault. -/
  | failNextSend (f : Fault)
  | loseConnection
  | pauseWriting
  | resumeWriting
  | close
  /-- A new request is made. -/
  | start (r : Request)

namespace Socket

def init (capacity : Int) (receiving : Bool) : Socket := { capacity, receiving }

/-- Whether the socket is closed: its connection is lost or it has been closed. -/
def isClosed (s : Socket) : Bool := s.lost || s.closing

def isFull (s : Socket) : Bool := 0 < s.capacity && s.capacity ≤ s.queue.length

def put (s : Socket) (item : Item) : Socket :=
  let s := { s with queue := s.queue ++ [item] }
  match s.readers with
  | r :: rs => { s with readers := rs, ready := s.ready ++ [.run r] }
  | [] => s

/-- Queue an item unless the connection is lost; count it as dropped if there is no room. -/
def offer (s : Socket) (item : Item) : Socket :=
  if s.lost then s
  else if s.isFull then { s with dropped := s.dropped + 1 }
  else s.put item

def setWritable (s : Socket) : Socket :=
  if s.writable then s
  else { s with writable := true, writers := [], ready := s.ready ++ s.writers.map .run }

/-- A reported fault: queued for a reader, or held for the next send. -/
def reportFault (s : Socket) (f : Fault) : Socket :=
  if s.receiving then s.offer (.fault f) else { s with heldFault := some f }

/-- The connection is lost: senders wake, and the closing mark is queued, making room
for it if needed. -/
def loseConnection (s : Socket) : Socket :=
  let s := { s with lost := true }.setWritable
  let s := if s.isFull then { s with queue := s.queue.drop 1, dropped := s.dropped + 1 } else s
  s.put .closedMark

/-- Close the socket; the first time, the loss of the connection follows as a job. -/
def close (s : Socket) : Socket :=
  if s.closing then s else { s with closing := true, ready := s.ready ++ [.connectionLost] }

def mark (s : Socket) (i : Nat) (p : Progress) : Socket :=
  { s with requests := s.requests.modify i fun rp => (rp.1, p) }

def finish (s : Socket) (i : Nat) (c : Completion) : Socket := s.mark i (.finished c)

def takeHeld (s : Socket) : Socket × Option Fault := ({ s with heldFault := none }, s.heldFault)

/-- Send request `i` once the socket is writable: check for a close and for a held
fault, transmit, and check for a fault the transmission reported. -/
def transmit (s : Socket) (i : Nat) (data : List UInt8) : Socket :=
  if s.isClosed then s.finish i (.failed .handleClosed)
  else
    match s.takeHeld with
    | (s, some f) => s.finish i (.failed f)
    | (s, none) =>
      let s := match s.nextSendFault with
        | some f => { s with nextSendFault := none }.reportFault f
        | none => { s with wire := s.wire ++ [data] }
      match s.takeHeld with
      | (s, some f) => s.finish i (.failed f)
      | (s, none) => s.finish i .sent

def takeItem (s : Socket) (i : Nat) : Socket :=
  match s.queue with
  | [] => { s with readers := s.readers ++ [i] }.mark i .blocked
  | .datagram d :: rest => { s with queue := rest }.finish i (.received d)
  | .fault f :: rest => { s with queue := rest }.finish i (.failed f)
  | .closedMark :: rest => ({ s with queue := rest }.put .closedMark).finish i (.failed .handleClosed)

def runJob (s : Socket) : Job → Socket
  | .connectionLost => s.loseConnection
  | .run i =>
    match s.requests[i]? with
    | some (.receive, .fresh) | some (.receive, .blocked) => s.takeItem i
    | some (.send data, .fresh) =>
      if s.isClosed then s.finish i (.failed .handleClosed)
      else if s.writable then s.transmit i data
      else { s with writers := s.writers ++ [i] }.mark i .blocked
    | some (.send data, .blocked) => s.transmit i data
    | _ => s

/-- Run the jobs that are ready now; jobs they make ready wait for the next round. -/
def round (s : Socket) : Socket := s.ready.foldl runJob { s with ready := [] }

def settle (s : Socket) : Nat → Socket
  | 0 => s
  | n + 1 => s.round.settle n

def apply (s : Socket) : Event → Socket
  | .deliver d => if s.receiving then s.offer (.datagram d) else s
  | .reportFault f => s.reportFault f
  | .failNextSend f => { s with nextSendFault := some f }
  | .loseConnection => s.loseConnection
  | .pauseWriting => { s with writable := false }
  | .resumeWriting => s.setWritable
  | .close => s.close
  | .start r =>
    { s with requests := s.requests ++ [(r, .fresh)], ready := s.ready ++ [.run s.requests.length] }

def completion? (s : Socket) (i : Nat) : Option Completion :=
  match s.requests[i]? with
  | some (_, .finished c) => some c
  | _ => none

end Socket

end Transport

end VirtualMocap
