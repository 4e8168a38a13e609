import VirtualMocap.Transport.Socket
import Mathlib.Tactic.SplitIfs

/-!
# The event loop, one job at a time

Between any two jobs the network may call the socket back, or a task make a request. An
`Action` is such a callback or the oldest ready job, and `Socket.play` runs a list of
them: every interleaving a single-threaded loop can produce is such a list. What a socket
was opened with never changes (`config_play`).
-/

namespace VirtualMocap

namespace Transport

/-- One step of the loop around a socket: a callback from outside, or the oldest job on
the ready list. -/
inductive Action where
  | event (e : Event)
  | job

namespace Socket

def act (s : Socket) : Action → Socket
  | .event e => s.apply e
  | .job =>
    match s.ready with
    | [] => s
    | j :: js => { s with ready := js }.runJob j

/-- Take a list of actions in order. -/
def play (s : Socket) : List Action → Socket
  | [] => s
  | a :: as => (s.act a).play as

@[simp] theorem play_nil (s : Socket) : s.play [] = s := rfl

@[simp] theorem play_cons (s : Socket) (a : Action) (as : List Action) :
    s.play (a :: as) = (s.act a).play as := rfl

/-- Whether an action tells the socket that its connection is lost. -/
def losesConnection (s : Socket) : Action → Bool
  | .event .loseConnection => true
  | .event _ => false
  | .job =>
    match s.ready with
    | .connectionLost :: _ => true
    | _ => false

/-- Along a run, the loss of the connection is told at most once, as the loop does. -/
def lossOnce (s : Socket) : List Action → Bool
  | [] => true
  | a :: as => (!s.losesConnection a || !s.lost) && (s.act a).lossOnce as

theorem lossOnce_cons {s : Socket} {a : Action} {as : List Action} :
    s.lossOnce (a :: as) = true ↔
      (s.losesConnection a = true → s.lost = false) ∧ (s.act a).lossOnce as = true := by
  simp only [lossOnce, Bool.and_eq_true, Bool.or_eq_true, Bool.not_eq_true']
  cases s.losesConnection a <;> simp

/-! ## Appending to the queue, and sending -/

theorem put_eq (s : Socket) (x : Item) :
    s.put x = { s with queue := s.queue ++ [x], readers := s.readers.drop 1,
                       ready := s.ready ++ (s.readers.take 1).map Job.run } := by
  cases h : s.readers <;> simp [put, h]

/-- Hand a datagram to the network: it refuses it with the fault set for the next
transmission, which is then reported, or the datagram goes on the wire. -/
def sendto (s : Socket) (data : List UInt8) : Socket :=
  match s.nextSendFault with
  | some f => { s with nextSendFault := none }.reportFault f
  | none => { s with wire := s.wire ++ [data] }

/-- Finish send request `i` after its transmission: with the fault the transmission left
held, which is taken, or as sent. -/
def finishSend (s : Socket) (i : Nat) : Socket :=
  match s.heldFault with
  | some f => { s with heldFault := none }.finish i (.failed f)
  | none => s.finish i .sent

section Transmit

variable {s : Socket} {i : Nat} {data : List UInt8}

theorem transmit_of_closed (h : s.isClosed = true) :
    s.transmit i data = s.finish i (.failed .handleClosed) := by
  simp [transmit, h]

theorem transmit_of_held {f : Fault} (h : s.isClosed = false) (hf : s.heldFault = some f) :
    s.transmit i data = { s with heldFault := none }.finish i (.failed f) := by
  simp [transmit, takeHeld, h, hf]

theorem finishSend_eq (t : Socket) (i : Nat) :
    t.finishSend i = match t.takeHeld with
      | (t', some f) => t'.finish i (.failed f)
      | (t', none) => t'.finish i .sent := by
  obtain ⟨cap, recv, queue, dropped, lost, closing, writable, held, next, wire, readers, writers,
    ready, requests⟩ := t
  cases held <;> rfl

theorem transmit_of_open (h : s.isClosed = false) (hf : s.heldFault = none) :
    s.transmit i data = (s.sendto data).finishSend i := by
  obtain ⟨cap, recv, queue, dropped, lost, closing, writable, held, next, wire, readers, writers,
    ready, requests⟩ := s
  simp only at hf
  subst hf
  rw [finishSend_eq]
  simp only [transmit, h, Bool.false_eq_true, if_false]
  rfl

theorem completion?_finish {c : Completion} (h : (s.requests[i]?).isSome = true) :
    (s.finish i c).completion? i = some c := by
  obtain ⟨rp, hrp⟩ := Option.isSome_iff_exists.1 h
  simp [completion?, finish, mark, hrp]

end Transmit

/-! ## What a socket was opened with -/

/-- The capacity of the receive queue and whether the socket receives. -/
def config (s : Socket) : Int × Bool := (s.capacity, s.receiving)

section Config

variable (s : Socket)

@[simp] theorem config_put (x : Item) : (s.put x).config = s.config := by
  simp [config, put_eq]

@[simp] theorem config_offer (x : Item) : (s.offer x).config = s.config := by
  unfold offer
  split_ifs
  · rfl
  · rfl
  · exact config_put s x

@[simp] theorem config_setWritable : s.setWritable.config = s.config := by
  unfold setWritable
  split <;> rfl

@[simp] theorem config_reportFault (f : Fault) : (s.reportFault f).config = s.config := by
  unfold reportFault
  split
  · exact config_offer s _
  · rfl

@[simp] theorem config_loseConnection : s.loseConnection.config = s.config := by
  have h : ({ s with lost := true }.setWritable).config = s.config := config_setWritable _
  simp only [loseConnection]
  split <;> rw [config_put] <;> exact h

@[simp] theorem config_close : s.close.config = s.config := by
  unfold close
  split <;> rfl

@[simp] theorem config_finish (i : Nat) (c : Completion) : (s.finish i c).config = s.config :=
  rfl

@[simp] theorem config_sendto (data : List UInt8) : (s.sendto data).config = s.config := by
  unfold sendto
  split
  · exact config_reportFault _ _
  · rfl

@[simp] theorem config_finishSend (i : Nat) : (s.finishSend i).config = s.config := by
  unfold finishSend
  split <;> rfl

@[simp] theorem config_transmit (i : Nat) (data : List UInt8) :
    (s.transmit i data).config = s.config := by
  cases hc : s.isClosed
  · cases hf : s.heldFault with
    | none => rw [transmit_of_open hc hf, config_finishSend, config_sendto]
    | some f => rw [transmit_of_held hc hf]; rfl
  · rw [transmit_of_closed hc]; rfl

@[simp] theorem config_takeItem (i : Nat) : (s.takeItem i).config = s.config := by
  unfold takeItem
  split
  · rfl
  · rfl
  · rfl
  · exact config_put _ _

@[simp] theorem config_runJob (j : Job) : (s.runJob j).config = s.config := by
  unfold runJob
  split
  · exact config_loseConnection s
  · split
    · exact config_takeItem s _
    · exact config_takeItem s _
    · split
      · rfl
      · split
        · exact config_transmit s _ _
        · rfl
    · exact config_transmit s _ _
    · rfl

@[simp] theorem config_act (a : Action) : (s.act a).config = s.config := by
  cases a with
  | event e =>
    cases e with
    | deliver d =>
      simp only [act, apply]
      split
      · exact config_offer s _
      · rfl
    | reportFault f => exact config_reportFault s f
    | loseConnection => exact config_loseConnection s
    | resumeWriting => exact config_setWritable s
    | close => exact config_close s
    | _ => rfl
  | job =>
    cases h : s.ready with
    | nil => simp [act, h]
    | cons j js =>
      simp only [act, h]
      exact config_runJob _ _

theorem config_play (as : List Action) : (s.play as).config = s.config := by
  induction as generalizing s with
  | nil => rfl
  | cons a as ih => rw [play_cons, ih, config_act]

end Config

/-! ## The sending side -/

/-- The sending side of a socket: the fault held for the next send, the fault set for the
next transmission, and what went on the wire. -/
def outlet (s : Socket) : Option Fault × Option Fault × List (List UInt8) :=
  (s.heldFault, s.nextSendFault, s.wire)

section Outlet

variable (s : Socket)

@[simp] theorem outlet_put (x : Item) : (s.put x).outlet = s.outlet := by
  simp [outlet, put_eq]

@[simp] theorem outlet_offer (x : Item) : (s.offer x).outlet = s.outlet := by
  unfold offer
  split_ifs
  · rfl
  · rfl
  · exact outlet_put s x

@[simp] theorem outlet_setWritable : s.setWritable.outlet = s.outlet := by
  unfold setWritable
  split <;> rfl

@[simp] theorem outlet_loseConnection : s.loseConnection.outlet = s.outlet := by
  have h : ({ s with lost := true }.setWritable).outlet = s.outlet := outlet_setWritable _
  simp only [loseConnection]
  split <;> rw [outlet_put] <;> exact h

@[simp] theorem outlet_close : s.close.outlet = s.outlet := by
  unfold close
  split <;> rfl

@[simp] theorem outlet_finish (i : Nat) (c : Completion) : (s.finish i c).outlet = s.outlet :=
  rfl

@[simp] theorem outlet_takeItem (i : Nat) : (s.takeItem i).outlet = s.outlet := by
  unfold takeItem
  split
  · rfl
  · rfl
  · rfl
  · exact outlet_put _ _

@[simp] theorem nextSendFault_reportFault (f : Fault) :
    (s.reportFault f).nextSendFault = s.nextSendFault := by
  unfold reportFault
  split
  · exact congrArg (fun t => t.2.1) (outlet_offer s _)
  · rfl

@[simp] theorem nextSendFault_loseConnection :
    s.loseConnection.nextSendFault = s.nextSendFault :=
  congrArg (fun t => t.2.1) (outlet_loseConnection s)

@[simp] theorem nextSendFault_takeItem (i : Nat) :
    (s.takeItem i).nextSendFault = s.nextSendFault :=
  congrArg (fun t => t.2.1) (outlet_takeItem s i)

end Outlet

end Socket

end Transport

end VirtualMocap
