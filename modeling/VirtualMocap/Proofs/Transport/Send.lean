import VirtualMocap.Proofs.Transport.Waiting

/-!
# Sends are safe over any interleaving

A send checks for a close again after its wait, then takes the held fault and hands the
datagram to the network in one job. Hence `send_side_safety`: once closed the socket
stays closed and every send fails; only an open socket with no held fault transmits; a
held fault leaves only when a send raises it; and a lost connection wakes every waiting
send, which can then only fail. A waiting send is one not yet run (`Waits`).
-/

namespace VirtualMocap

namespace Transport

namespace Socket

def pendingSend? (s : Socket) : Option (Nat × List UInt8) :=
  match s.ready with
  | .run i :: _ =>
    match s.requests[i]? with
    | some (.send data, .fresh) | some (.send data, .blocked) => some (i, data)
    | _ => none
  | _ => none

/-- A step hands a datagram to the network: the datagram goes on the wire, or the network
refuses it and uses up the fault set for it. -/
def Transmits (s s' : Socket) : Prop :=
  s'.wire ≠ s.wire ∨ (s.nextSendFault.isSome = true ∧ s'.nextSendFault = none)

/-- Whether the connection is lost, and whether the socket has been closed. -/
def flags (s : Socket) : Bool × Bool := (s.lost, s.closing)

section Frames

variable (s : Socket)

@[simp] theorem flags_put (x : Item) : (s.put x).flags = s.flags := by simp [flags, put_eq]

@[simp] theorem flags_offer (x : Item) : (s.offer x).flags = s.flags := by
  unfold offer
  split_ifs
  · rfl
  · rfl
  · exact flags_put s x

@[simp] theorem flags_reportFault (f : Fault) : (s.reportFault f).flags = s.flags := by
  unfold reportFault
  split
  · exact flags_offer s _
  · rfl

@[simp] theorem flags_setWritable : s.setWritable.flags = s.flags := by
  unfold setWritable
  split <;> rfl

@[simp] theorem flags_sendto (data : List UInt8) : (s.sendto data).flags = s.flags := by
  unfold sendto
  split
  · exact flags_reportFault _ _
  · rfl

@[simp] theorem flags_finishSend (i : Nat) : (s.finishSend i).flags = s.flags := by
  unfold finishSend
  split <;> rfl

@[simp] theorem flags_transmit (i : Nat) (data : List UInt8) :
    (s.transmit i data).flags = s.flags := by
  cases hc : s.isClosed
  · cases hf : s.heldFault with
    | none => rw [transmit_of_open hc hf, flags_finishSend, flags_sendto]
    | some f => rw [transmit_of_held hc hf]; rfl
  · rw [transmit_of_closed hc]; rfl

@[simp] theorem flags_takeItem (i : Nat) : (s.takeItem i).flags = s.flags := by
  unfold takeItem
  split
  · rfl
  · rfl
  · rfl
  · exact flags_put _ _

@[simp] theorem lost_loseConnection : s.loseConnection.lost = true := by
  have h : ({ s with lost := true }.setWritable).flags.1 = true := by rw [flags_setWritable]; rfl
  simp only [loseConnection]
  split
  · exact (congrArg Prod.fst (flags_put _ .closedMark)).trans h
  · exact (congrArg Prod.fst (flags_put _ .closedMark)).trans h

@[simp] theorem isClosed_loseConnection : s.loseConnection.isClosed = true := by
  simp [isClosed]

@[simp] theorem isClosed_close : s.close.isClosed = true := by
  unfold close
  split <;> simp_all [isClosed]

theorem loseConnection_wakes (hw : s.writable = false) :
    s.loseConnection.writers = [] ∧ ∀ i ∈ s.writers, Job.run i ∈ s.loseConnection.ready := by
  simp only [loseConnection]
  split <;> simp [put_eq, setWritable, hw] <;> exact fun i hi => .inr (.inl hi)

end Frames

section Steps

variable {s : Socket}

theorem isSome_of_pendingSend {i : Nat} {data : List UInt8} (h : s.pendingSend? = some (i, data)) :
    (s.requests[i]?).isSome = true := by
  unfold pendingSend? at h
  split at h
  · split at h
    · rename_i hreq
      obtain ⟨rfl, rfl⟩ := Option.some.inj h
      simp [hreq]
    · rename_i hreq
      obtain ⟨rfl, rfl⟩ := Option.some.inj h
      simp [hreq]
    · cases h
  · cases h

/-- The oldest job runs a pending send: it fails at once on a closed socket, waits while the
socket is not writable, raises a held fault, or hands the datagram to the network. -/
theorem act_job_of_pendingSend {i : Nat} {data : List UInt8}
    (h : s.pendingSend? = some (i, data)) :
    ∃ js, s.ready = .run i :: js ∧
      ((s.isClosed = true ∧
          s.act .job = { s with ready := js }.finish i (.failed .handleClosed)) ∨
        (s.isClosed = false ∧
          s.act .job = { { s with ready := js } with writers := s.writers ++ [i] }.mark i .blocked) ∨
        (s.isClosed = false ∧ ∃ f, s.heldFault = some f ∧
          s.act .job = { { s with ready := js } with heldFault := none }.finish i (.failed f)) ∨
        (s.isClosed = false ∧ s.heldFault = none ∧
          s.act .job = ({ s with ready := js }.sendto data).finishSend i)) := by
  unfold pendingSend? at h
  split at h
  · rename_i j js hready
    have hc1 : ({ s with ready := js } : Socket).isClosed = s.isClosed := rfl
    have htransmit : s.act .job = { s with ready := js }.transmit j data →
        (s.isClosed = true ∧
          s.act .job = { s with ready := js }.finish j (.failed .handleClosed)) ∨
        (s.isClosed = false ∧ ∃ f, s.heldFault = some f ∧
          s.act .job = { { s with ready := js } with heldFault := none }.finish j (.failed f)) ∨
        (s.isClosed = false ∧ s.heldFault = none ∧
          s.act .job = ({ s with ready := js }.sendto data).finishSend j) := by
      intro hrun
      cases hc : s.isClosed
      · rcases Option.eq_none_or_eq_some s.heldFault with hf | ⟨f, hf⟩
        · exact .inr (.inr ⟨rfl, hf,
            by rw [hrun, transmit_of_open (s := { s with ready := js }) (by rw [hc1, hc]) hf]⟩)
        · exact .inr (.inl ⟨rfl, f, hf,
            by rw [hrun, transmit_of_held (s := { s with ready := js }) (by rw [hc1, hc]) hf]⟩)
      · exact .inl ⟨rfl,
          by rw [hrun, transmit_of_closed (s := { s with ready := js }) (by rw [hc1, hc])]⟩
    split at h
    · -- a send not yet run
      rename_i hreq
      obtain ⟨rfl, rfl⟩ := Option.some.inj h
      have hrun : s.act .job =
          if s.isClosed then { s with ready := js }.finish i (.failed .handleClosed)
          else if s.writable then { s with ready := js }.transmit i data
          else { { s with ready := js } with writers := s.writers ++ [i] }.mark i .blocked := by
        simp only [act, hready, runJob, hreq, hc1]
      refine ⟨js, hready, ?_⟩
      by_cases hc : s.isClosed = true
      · rw [if_pos hc] at hrun
        exact .inl ⟨hc, hrun⟩
      · have hc' : s.isClosed = false := by simpa using hc
        by_cases hw : s.writable = true
        · rw [if_neg hc, if_pos hw] at hrun
          rcases htransmit hrun with h1 | h1 | h1
          · exact absurd h1.1 hc
          · exact .inr (.inr (.inl h1))
          · exact .inr (.inr (.inr h1))
        · rw [if_neg hc, if_neg hw] at hrun
          exact .inr (.inl ⟨hc', hrun⟩)
    · -- a send that waited to write
      rename_i hreq
      obtain ⟨rfl, rfl⟩ := Option.some.inj h
      have hrun : s.act .job = { s with ready := js }.transmit i data := by
        simp only [act, hready, runJob, hreq]
      refine ⟨js, hready, ?_⟩
      rcases htransmit hrun with h1 | h1 | h1
      · exact .inl h1
      · exact .inr (.inr (.inl h1))
      · exact .inr (.inr (.inr h1))
    · cases h
  · cases h

theorem act_job_of_closed {i : Nat} {data : List UInt8} (hc : s.isClosed = true)
    (h : s.pendingSend? = some (i, data)) :
    ∃ js, s.act .job = { s with ready := js }.finish i (.failed .handleClosed) := by
  obtain ⟨js, _, hcase⟩ := act_job_of_pendingSend h
  rcases hcase with ⟨_, hact⟩ | ⟨hc', _⟩ | ⟨hc', _⟩ | ⟨hc', _⟩
  · exact ⟨js, hact⟩
  all_goals simp [hc] at hc'

theorem act_job_of_open {i : Nat} {data : List UInt8} (hc : s.isClosed = false)
    (h : s.pendingSend? = some (i, data)) :
    ∃ js, s.act .job = { { s with ready := js } with writers := s.writers ++ [i] }.mark i .blocked ∨
      (∃ f, s.heldFault = some f ∧
        s.act .job = { { s with ready := js } with heldFault := none }.finish i (.failed f)) ∨
      (s.heldFault = none ∧ s.act .job = ({ s with ready := js }.sendto data).finishSend i) := by
  obtain ⟨js, _, hcase⟩ := act_job_of_pendingSend h
  rcases hcase with ⟨hc', _⟩ | ⟨_, hact⟩ | ⟨_, hheld⟩ | ⟨_, hheld⟩
  · simp [hc] at hc'
  · exact ⟨js, .inl hact⟩
  · exact ⟨js, .inr (.inl hheld)⟩
  · exact ⟨js, .inr (.inr hheld)⟩

theorem outlet_act_job (h : s.pendingSend? = none) : (s.act .job).outlet = s.outlet := by
  unfold pendingSend? at h
  cases hready : s.ready with
  | nil => simp only [act, hready]
  | cons j js =>
    rw [hready] at h
    simp only [act, hready]
    cases j with
    | connectionLost => exact outlet_loseConnection _
    | run i =>
      simp only [runJob]
      split
      · exact outlet_takeItem _ _
      · exact outlet_takeItem _ _
      · rename_i hreq
        simp [hreq] at h
      · rename_i hreq
        simp [hreq] at h
      · rfl

theorem completion?_mark_blocked (t : Socket) (i : Nat) :
    (t.mark i .blocked).completion? i = none := by
  unfold completion? mark
  simp only [List.getElem?_modify]
  cases t.requests[i]? <;> rfl

theorem finishSend_of_none {t : Socket} {i : Nat} (h : t.heldFault = none) :
    t.finishSend i = t.finish i .sent := by
  simp [finishSend, h]

theorem finishSend_of_some {t : Socket} {i : Nat} {f : Fault} (h : t.heldFault = some f) :
    t.finishSend i = { t with heldFault := none }.finish i (.failed f) := by
  simp [finishSend, h]

/-- Handing a datagram to the network from a socket holding no fault, and finishing the
send: the datagram goes on the wire and the send is sent, or the network refuses it with
the fault set for it, which is reported and, on a socket that only sends, raised. -/
theorem sendto_finishSend {t : Socket} {i : Nat} {data : List UInt8} (hf : t.heldFault = none)
    (hreq : (t.requests[i]?).isSome = true) :
    (((t.sendto data).finishSend i).wire = t.wire ++ [data] ∧
        ((t.sendto data).finishSend i).completion? i = some .sent) ∨
      ∃ f, t.nextSendFault = some f ∧ ((t.sendto data).finishSend i).wire = t.wire ∧
        ((t.sendto data).finishSend i).completion? i =
          some (if t.receiving then .sent else .failed f) := by
  have hreq' : ((t.sendto data).requests[i]?).isSome = true := by
    rw [(moves_sendto t data).requests]
    exact hreq
  rcases Option.eq_none_or_eq_some t.nextSendFault with hn | ⟨f, hn⟩
  · -- the datagram goes on the wire
    have hs : t.sendto data = { t with wire := t.wire ++ [data] } := by simp [sendto, hn]
    have hheld : (t.sendto data).heldFault = none := by rw [hs]; exact hf
    rw [finishSend_of_none hheld]
    exact .inl ⟨by rw [hs]; rfl, completion?_finish hreq'⟩
  · -- the network refuses it
    refine .inr ⟨f, hn, ?_⟩
    cases hr : t.receiving
    · have hs : t.sendto data = { t with nextSendFault := none, heldFault := some f } := by
        simp [sendto, reportFault, hn, hr]
      have hheld : (t.sendto data).heldFault = some f := by rw [hs]
      rw [finishSend_of_some hheld]
      exact ⟨by rw [hs]; rfl, completion?_finish hreq'⟩
    · have hs : t.sendto data = { t with nextSendFault := none }.offer (.fault f) := by
        simp [sendto, reportFault, hn, hr]
      have hout := outlet_offer { t with nextSendFault := none } (.fault f)
      have hheld : (t.sendto data).heldFault = none := by
        rw [hs]
        exact (congrArg Prod.fst hout).trans hf
      rw [finishSend_of_none hheld]
      exact ⟨by rw [hs]; exact congrArg (fun o => o.2.2) hout, completion?_finish hreq'⟩

end Steps

/-! ## Steps that hand nothing to the network -/

/-- `t` comes from `s` without a transmission: the wire is the same, and each fault slot is
the same or newly filled. -/
def Quiet (s t : Socket) : Prop :=
  t.wire = s.wire ∧ (t.nextSendFault = s.nextSendFault ∨ t.nextSendFault.isSome = true) ∧
    (t.heldFault = s.heldFault ∨ t.heldFault.isSome = true)

section Quiet

variable {s t : Socket}

theorem Quiet.of_outlet (h : t.outlet = s.outlet) : Quiet s t := by
  simp only [outlet, Prod.mk.injEq] at h
  exact ⟨h.2.2, .inl h.2.1, .inl h.1⟩

theorem not_transmits_of (hw : t.wire = s.wire) (hn : t.nextSendFault = s.nextSendFault) :
    ¬Transmits s t := by
  rintro (hw' | ⟨hsome, hnone⟩)
  · exact hw' hw
  · rw [hn] at hnone
    simp [hnone] at hsome

theorem Quiet.not_transmits (h : Quiet s t) : ¬Transmits s t := by
  rintro (hw | ⟨hsome, hnone⟩)
  · exact hw h.1
  · rcases h.2.1 with hn | hn <;> simp_all

theorem Quiet.heldFault_ne_none (h : Quiet s t) {f : Fault} (hf : s.heldFault = some f) :
    t.heldFault ≠ none := by
  rcases h.2.2 with hh | hh
  · rw [hh, hf]
    exact Option.some_ne_none f
  · intro hn
    rw [hn] at hh
    cases hh

/-- A callback from outside hands nothing to the network: it may set the fault for the
next transmission, or hold a fault reported on a socket that only sends. -/
theorem quiet_apply (e : Event) : Quiet s (s.apply e) := by
  cases e with
  | deliver d =>
    cases hr : s.receiving
    · have he : s.apply (.deliver d) = s := by simp [apply, hr]
      rw [he]
      exact .of_outlet rfl
    · have he : s.apply (.deliver d) = s.offer (.datagram d) := by simp [apply, hr]
      rw [he]
      exact .of_outlet (outlet_offer _ _)
  | reportFault f =>
    cases hr : s.receiving
    · have he : s.apply (.reportFault f) = { s with heldFault := some f } := by
        simp [apply, reportFault, hr]
      rw [he]
      exact ⟨rfl, .inl rfl, .inr rfl⟩
    · have he : s.apply (.reportFault f) = s.offer (.fault f) := by simp [apply, reportFault, hr]
      rw [he]
      exact .of_outlet (outlet_offer _ _)
  | failNextSend f => exact ⟨rfl, .inr rfl, .inl rfl⟩
  | loseConnection => exact .of_outlet (outlet_loseConnection _)
  | pauseWriting => exact .of_outlet rfl
  | resumeWriting => exact .of_outlet (outlet_setWritable _)
  | close => exact .of_outlet (outlet_close _)
  | start r => exact .of_outlet rfl

theorem quiet_act_of_closed (hc : s.isClosed = true) (a : Action) : Quiet s (s.act a) := by
  cases a with
  | event e => exact quiet_apply e
  | job =>
    rcases hp : s.pendingSend? with _ | ⟨i, data⟩
    · exact .of_outlet (outlet_act_job hp)
    · obtain ⟨js, hact⟩ := act_job_of_closed hc hp
      rw [hact]
      exact .of_outlet rfl

theorem quiet_or_send (a : Action) :
    Quiet s (s.act a) ∨
      (a = .job ∧ s.isClosed = false ∧ ∃ i data, s.pendingSend? = some (i, data)) := by
  cases a with
  | event e => exact .inl (quiet_apply e)
  | job =>
    cases hc : s.isClosed
    · rcases hp : s.pendingSend? with _ | ⟨i, data⟩
      · exact .inl (.of_outlet (outlet_act_job hp))
      · exact .inr ⟨rfl, rfl, i, data, rfl⟩
    · exact .inl (quiet_act_of_closed hc .job)

end Quiet

/-! ## Once closed -/

section Closed

variable {s : Socket}

theorem isClosed_of_flags {t : Socket} (h : t.flags = s.flags) : t.isClosed = s.isClosed := by
  simp only [flags, Prod.mk.injEq] at h
  simp [isClosed, h.1, h.2]

@[simp] theorem flags_runJob_run (i : Nat) : (s.runJob (.run i)).flags = s.flags := by
  simp only [runJob]
  split
  · exact flags_takeItem s _
  · exact flags_takeItem s _
  · split_ifs
    · rfl
    · exact flags_transmit s _ _
    · rfl
  · exact flags_transmit s _ _
  · rfl

theorem isClosed_act (hc : s.isClosed = true) (a : Action) : (s.act a).isClosed = true := by
  cases a with
  | event e =>
    cases e with
    | deliver d =>
      simp only [act, apply]
      split
      · rw [isClosed_of_flags (flags_offer _ _)]
        exact hc
      · exact hc
    | reportFault f => rw [act, apply, isClosed_of_flags (flags_reportFault _ _)]; exact hc
    | loseConnection => exact isClosed_loseConnection s
    | resumeWriting => rw [act, apply, isClosed_of_flags (flags_setWritable _)]; exact hc
    | close => exact isClosed_close s
    | failNextSend f => exact hc
    | pauseWriting => exact hc
    | start r => exact hc
  | job =>
    cases hready : s.ready with
    | nil =>
      simp only [act, hready]
      exact hc
    | cons j js =>
      simp only [act, hready]
      cases j with
      | connectionLost => exact isClosed_loseConnection _
      | run i =>
        rw [isClosed_of_flags (flags_runJob_run _)]
        exact hc

theorem closed_act (hc : s.isClosed = true) (a : Action) :
    (s.act a).isClosed = true ∧ ¬Transmits s (s.act a) ∧
      ∀ i data, s.pendingSend? = some (i, data) → a = .job →
        (s.act a).completion? i = some (.failed .handleClosed) := by
  refine ⟨isClosed_act hc a, (quiet_act_of_closed hc a).not_transmits, ?_⟩
  rintro i data hp rfl
  have hsome := isSome_of_pendingSend hp
  obtain ⟨js, hact⟩ := act_job_of_closed hc hp
  rw [hact]
  exact completion?_finish hsome

end Closed

/-! ## Transmissions and held faults -/

section Transmit

variable {s : Socket}

/-- A step hands a datagram to the network only by running a pending send on an open socket
that holds no fault, and it finishes that send: the datagram goes on the wire and the send
is sent, or the network refuses it with the fault set for it. -/
theorem transmits_act {a : Action} (h : Transmits s (s.act a)) :
    a = .job ∧ s.isClosed = false ∧ s.heldFault = none ∧
      ∃ i data, s.pendingSend? = some (i, data) ∧
        (((s.act a).wire = s.wire ++ [data] ∧ (s.act a).completion? i = some .sent) ∨
          ∃ f, s.nextSendFault = some f ∧ (s.act a).wire = s.wire ∧
            (s.act a).completion? i = some (if s.receiving then .sent else .failed f)) := by
  rcases quiet_or_send a with hq | ⟨rfl, hc, i, data, hp⟩
  · exact absurd h hq.not_transmits
  obtain ⟨js, hact | ⟨f, hf, hact⟩ | ⟨hf, hact⟩⟩ := act_job_of_open hc hp
  · -- the send waits to write
    rw [hact] at h
    exact absurd h (Quiet.of_outlet rfl).not_transmits
  · -- the send raises the held fault
    rw [hact] at h
    exact absurd h (not_transmits_of rfl rfl)
  · -- the send hands its datagram to the network
    have hsome := isSome_of_pendingSend hp
    refine ⟨rfl, hc, hf, i, data, hp, ?_⟩
    rw [hact]
    exact sendto_finishSend (t := { s with ready := js }) hf hsome

theorem heldFault_cleared {a : Action} {f : Fault} (hf : s.heldFault = some f)
    (hnone : (s.act a).heldFault = none) :
    a = .job ∧ s.isClosed = false ∧ ¬Transmits s (s.act a) ∧
      ∃ i data, s.pendingSend? = some (i, data) ∧ (s.act a).completion? i = some (.failed f) := by
  rcases quiet_or_send a with hq | ⟨rfl, hc, i, data, hp⟩
  · exact absurd hnone (hq.heldFault_ne_none hf)
  obtain ⟨js, hact | ⟨f', hf', hact⟩ | ⟨hf', _⟩⟩ := act_job_of_open hc hp
  · -- the send waits to write, and the fault stays held
    rw [hact] at hnone
    exact absurd hnone ((Quiet.of_outlet rfl).heldFault_ne_none hf)
  · obtain rfl : f' = f := Option.some.inj (hf'.symm.trans hf)
    have hsome := isSome_of_pendingSend hp
    refine ⟨rfl, hc, ?_, i, data, hp, ?_⟩
    · rw [hact]
      exact not_transmits_of rfl rfl
    · rw [hact]
      exact completion?_finish hsome
  · simp [hf] at hf'

theorem raises_heldFault {f : Fault} {i : Nat} {data : List UInt8} (hf : s.heldFault = some f)
    (hc : s.isClosed = false) (hp : s.pendingSend? = some (i, data)) :
    (s.act .job).completion? i = none ∨
      ((s.act .job).completion? i = some (.failed f) ∧ (s.act .job).heldFault = none) := by
  have hsome := isSome_of_pendingSend hp
  obtain ⟨js, hact | ⟨f', hf', hact⟩ | ⟨hf', _⟩⟩ := act_job_of_open hc hp
  · left
    rw [hact]
    exact completion?_mark_blocked _ i
  · obtain rfl : f' = f := Option.some.inj (hf'.symm.trans hf)
    right
    rw [hact]
    exact ⟨completion?_finish hsome, rfl⟩
  · simp [hf] at hf'

end Transmit

/-! ## A send waiting to write when the connection is lost -/

def ClosedOut (i : Nat) (data : List UInt8) (s : Socket) : Prop :=
  s.isClosed = true ∧
    (s.requests[i]? = some (.send data, .fresh) ∨ s.requests[i]? = some (.send data, .blocked) ∨
      s.requests[i]? = some (.send data, .finished (.failed .handleClosed)))

section Loss

variable {s : Socket} {i : Nat} {data : List UInt8}

theorem ClosedOut.completion? (h : ClosedOut i data s) :
    s.completion? i = none ∨ s.completion? i = some (.failed .handleClosed) := by
  rcases h.2 with hreq | hreq | hreq <;> simp [Socket.completion?, hreq]

/-- One step keeps a send on a closed socket out: only its own job touches it, and that job
fails it with the closed fault or, once it has failed, does nothing. -/
theorem ClosedOut.act (h : ClosedOut i data s) (a : Action) : ClosedOut i data (s.act a) := by
  refine ⟨isClosed_act h.1 a, ?_⟩
  rcases requests_act s a i with heq | ⟨rfl, hhead⟩ | hnone
  · rw [heq]
    exact h.2
  · obtain ⟨js, hready⟩ : ∃ js, s.ready = .run i :: js := by
      cases hr : s.ready with
      | nil => simp [hr] at hhead
      | cons j js =>
        rw [hr, List.head?_cons, Option.some.injEq] at hhead
        exact ⟨js, by rw [hhead]⟩
    have hfail : s.pendingSend? = some (i, data) →
        (s.act .job).requests[i]? = some (.send data, .finished (.failed .handleClosed)) := by
      intro hp
      obtain ⟨js', hact⟩ := act_job_of_closed h.1 hp
      rw [hact]
      rcases h.2 with hreq | hreq | hreq <;> simp [finish, mark, hreq]
    rcases h.2 with hreq | hreq | hreq
    · exact .inr (.inr (hfail (by simp [pendingSend?, hready, hreq])))
    · exact .inr (.inr (hfail (by simp [pendingSend?, hready, hreq])))
    · have hact : s.act .job = { s with ready := js } := by
        simp [Socket.act, hready, runJob, hreq]
      rw [hact]
      exact .inr (.inr hreq)
  · rcases h.2 with hreq | hreq | hreq <;> simp [hreq] at hnone

theorem ClosedOut.play (h : ClosedOut i data s) (as : List Action) :
    ClosedOut i data (s.play as) ∧ (s.play as).wire = s.wire := by
  induction as generalizing s with
  | nil => exact ⟨h, rfl⟩
  | cons a as ih =>
    obtain ⟨hout, hwire⟩ := ih (h.act a)
    exact ⟨hout, hwire.trans (quiet_act_of_closed h.1 a).1⟩

/-- When the connection is lost, every send waiting to write is woken; from then on, over
any run, nothing more goes on the wire and the send can only fail with the closed fault. -/
theorem waiting_send_after_loss (hw : Waits s) (hi : i ∈ s.writers) :
    Job.run i ∈ s.loseConnection.ready ∧ s.loseConnection.writers = [] ∧
      ∃ data, s.requests[i]? = some (.send data, .blocked) ∧
        ∀ bs, (s.loseConnection.play bs).wire = s.wire ∧
          ((s.loseConnection.play bs).completion? i = none ∨
            (s.loseConnection.play bs).completion? i = some (.failed .handleClosed)) := by
  -- a send waits to write only while the socket is not writable
  have hwr : s.writable = false := by
    cases h : s.writable
    · rfl
    · rw [hw.idle h] at hi
      cases hi
  obtain ⟨hempty, hwake⟩ := loseConnection_wakes s hwr
  obtain ⟨data, hreq⟩ := hw.writers i hi
  have hout : ClosedOut i data s.loseConnection :=
    ⟨isClosed_loseConnection s, .inr (.inl (by rw [requests_loseConnection]; exact hreq))⟩
  refine ⟨hwake i hi, hempty, data, hreq, fun bs => ?_⟩
  obtain ⟨hplay, hwire⟩ := hout.play bs
  exact ⟨hwire.trans (congrArg (fun o => o.2.2) (outlet_loseConnection s)), hplay.completion?⟩

end Loss

/-- Sends over any interleaving of callbacks and jobs from a fresh socket. In every state
reached, for every next action: a closed socket stays closed, transmits nothing, and fails
every send that runs with the closed fault; a transmission runs a send on an open socket
holding no fault and finishes it as sent or with the fault the network refused it with; a
held fault leaves its slot only when a send raises it without transmitting, and a send that
raises it clears the slot; and a send waiting to write when the connection is lost is woken
and can then only fail with the closed fault, with nothing more going on the wire. -/
theorem send_side_safety (capacity : Int) (receiving : Bool) (as : List Action) (a : Action) :
    let s := (init capacity receiving).play as
    (s.isClosed = true → (s.act a).isClosed = true ∧ ¬Transmits s (s.act a) ∧
        ∀ i data, s.pendingSend? = some (i, data) → a = .job →
          (s.act a).completion? i = some (.failed .handleClosed)) ∧
      (Transmits s (s.act a) → a = .job ∧ s.isClosed = false ∧ s.heldFault = none ∧
        ∃ i data, s.pendingSend? = some (i, data) ∧
          (((s.act a).wire = s.wire ++ [data] ∧ (s.act a).completion? i = some .sent) ∨
            ∃ f, s.nextSendFault = some f ∧ (s.act a).wire = s.wire ∧
              (s.act a).completion? i = some (if s.receiving then .sent else .failed f))) ∧
      (∀ f, s.heldFault = some f →
        ((s.act a).heldFault = none → a = .job ∧ s.isClosed = false ∧ ¬Transmits s (s.act a) ∧
          ∃ i data, s.pendingSend? = some (i, data) ∧ (s.act a).completion? i = some (.failed f)) ∧
        ∀ i data, s.isClosed = false → s.pendingSend? = some (i, data) →
          (s.act .job).completion? i = none ∨
            ((s.act .job).completion? i = some (.failed f) ∧ (s.act .job).heldFault = none)) ∧
      ∀ i ∈ s.writers, Job.run i ∈ s.loseConnection.ready ∧ s.loseConnection.writers = [] ∧
        ∃ data, s.requests[i]? = some (.send data, .blocked) ∧
          ∀ bs, (s.loseConnection.play bs).wire = s.wire ∧
            ((s.loseConnection.play bs).completion? i = none ∨
              (s.loseConnection.play bs).completion? i = some (.failed .handleClosed)) := by
  intro s
  refine ⟨fun hc => closed_act hc a, transmits_act, fun f hf => ⟨heldFault_cleared hf, ?_⟩,
    fun i hi => waiting_send_after_loss (waits_play capacity receiving as) hi⟩
  exact fun i data hc hp => raises_heldFault hf hc hp

/-- A send that waits on a paused socket fails with the closed fault once the connection is
lost, and nothing goes on the wire. -/
theorem paused_send_fails_on_loss :
    let s := (init 1 false).play [.event .pauseWriting, .event (.start (.send [1])), .job]
    0 ∈ s.writers ∧ (s.loseConnection.play [.job]).wire = s.wire ∧
      (s.loseConnection.play [.job]).completion? 0 = some (.failed .handleClosed) := by
  intro s
  have hw : 0 ∈ s.writers := by decide
  obtain ⟨_, _, _, _, hrun⟩ := (send_side_safety 1 false _ .job).2.2.2 0 hw
  exact ⟨hw, (hrun [.job]).1, rfl⟩

end Socket

end Transport

end VirtualMocap
