import VirtualMocap.Motion.Wire
import VirtualMocap.Osc.Decode

/-!
# Reading datagrams as motion messages

A datagram is decoded as one OSC packet; its messages, bundles flattened depth-first
in element order, are converted one by one. A framing fault refuses the whole datagram,
but a refused message only gives an `invalid` outcome in its place: no message changes
or hides the outcome of another.
-/

namespace VirtualMocap

namespace Motion

open Osc

/-- What one OSC message of a datagram turned out to be. -/
inductive Outcome where
  | recognized (m : Message)
  | unrecognized (address : String) (args : List Arg)
  | invalid (e : MessageError)
  deriving Repr

mutual

def messagesOf : Packet → List (String × List Arg)
  | .message address args => [(address, args)]
  | .bundle _ elements => messagesOfAll elements

def messagesOfAll : List Packet → List (String × List Arg)
  | [] => []
  | p :: rest => messagesOf p ++ messagesOfAll rest

end

def outcomeOf (address : String) (args : List Arg) : Outcome :=
  match fromOsc address args with
  | .ok (.recognized m) => .recognized m
  | .ok (.unrecognized a xs) => .unrecognized a xs
  | .error e => .invalid e

def outcomes (p : Packet) : List Outcome := (messagesOf p).map fun (a, xs) => outcomeOf a xs

/-- Decode a datagram under a nesting limit and a room for calls, and convert every
message it carries. -/
def parseWithin (data : List UInt8) (limit : DepthLimit) (room : Option Nat) :
    Except DecodeError (List Outcome) :=
  (decodeWithin data limit room).map outcomes

/-- How many calls above the frame of a datagram's packet decoding may go when parsing
is asked for directly: one fewer than for decoding alone, as parsing calls the decoder. -/
def parseRoom : Nat := callRoom - 1

def parse (data : List UInt8) (maxDepth : Int := defaultMaxDepth) : Except DecodeError (List Outcome) :=
  (decode data maxDepth).map outcomes

def recognized (os : List Outcome) : List Message :=
  os.filterMap fun
    | .recognized m => some m
    | _ => none

end Motion

end VirtualMocap
