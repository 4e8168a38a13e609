import VirtualMocap.Proofs.Transport.Loop

/-!
# The receive queue keeps count

Whatever a receiving socket is offered while connected is, at every point of every
interleaving, taken by a receive, still waiting, or counted as dropped; taken and
waiting items keep their order and the queue stays within its capacity; after a loss the
queue ends with the closing mark. `Socket.Ledger` states these books and
`receive_queue_ledger` proves every run keeps them.
-/

namespace VirtualMocap

namespace Transport

def Item.isMark : Item → Bool
  | .closedMark => true
  | _ => false

def Item.answer : Item → Completion
  | .datagram d => .received d
  | .fault f => .failed f
  | .closedMark => .failed .handleClosed

namespace Socket

/-- The datagrams and faults waiting in the receive queue, oldest first. -/
def entries (s : Socket) : List Item := s.queue.filter fun x => !x.isMark

def intake (s : Socket) : List Item × Nat × Bool := (s.queue, s.dropped, s.lost)

/-- The fault a transmission reports, seen in the fault set for the next transmission
before and after it: the transmission uses it up. -/
def usedUp : Option Fault → Option Fault → List Item
  | some f, none => [.fault f]
  | _, _ => []

@[simp] theorem usedUp_self (o : Option Fault) : usedUp o o = [] := by
  cases o <;> rfl

/-- What an action offers the receive queue while the connection is up, on a socket that
receives: an arriving datagram or fault, or the fault that a job's transmission reports. -/
def offered (s : Socket) (a : Action) : List Item :=
  if s.receiving && !s.lost then
    match a with
    | .event (.deliver d) => [.datagram d]
    | .event (.reportFault f) => [.fault f]
    | .event _ => []
    | .job => usedUp s.nextSendFault (s.act .job).nextSendFault
  else []

/-- What an action takes from the receive queue: the oldest entry, when the job runs a
receive. -/
def taken (s : Socket) : Action → List Item
  | .event _ => []
  | .job =>
    match s.ready with
    | .run i :: _ =>
      match s.requests[i]? with
      | some (.receive, .fresh) | some (.receive, .blocked) =>
        (s.queue.take 1).filter fun x => !x.isMark
      | _ => []
    | _ => []

def offeredAlong (s : Socket) : List Action → List Item
  | [] => []
  | a :: as => s.offered a ++ (s.act a).offeredAlong as

def takenAlong (s : Socket) : List Action → List Item
  | [] => []
  | a :: as => s.taken a ++ (s.act a).takenAlong as

/-- The books of the receive queue, against what was `offered` and what receives `taken`. -/
structure Ledger (s : Socket) (offered taken : List Item) : Prop where
  /-- What was taken, then what waits, in the order of arrival. -/
  order : (taken ++ s.entries).Sublist offered
  /-- Every offered item was taken, waits, or was dropped. -/
  count : offered.length = taken.length + s.entries.length + s.dropped
  /-- The closing mark stands once, at the end, exactly when the connection is lost. -/
  shape : s.queue = s.entries ++ (if s.lost then [.closedMark] else [])
  bound : 0 < s.capacity → (s.queue.length : Int) ≤ s.capacity
  /-- A socket that only sends queues no entries. -/
  sendOnly : s.receiving = false → s.entries = []

section Intake

variable (s : Socket)

@[simp] theorem intake_setWritable : s.setWritable.intake = s.intake := by
  unfold setWritable
  split <;> rfl

@[simp] theorem intake_close : s.close.intake = s.intake := by
  unfold close
  split <;> rfl

@[simp] theorem intake_finish (i : Nat) (c : Completion) : (s.finish i c).intake = s.intake :=
  rfl

@[simp] theorem intake_finishSend (i : Nat) : (s.finishSend i).intake = s.intake := by
  unfold finishSend
  split <;> rfl

theorem intake_loseConnection :
    s.loseConnection.intake =
      if s.isFull then (s.queue.drop 1 ++ [.closedMark], s.dropped + 1, true)
      else (s.queue ++ [.closedMark], s.dropped, true) := by
  have hw : { s with lost := true }.setWritable.intake = (s.queue, s.dropped, true) :=
    intake_setWritable _
  have hc : { s with lost := true }.setWritable.config = s.config := config_setWritable _
  simp only [intake, config, Prod.mk.injEq] at hw hc
  obtain ⟨hq, hd, hl⟩ := hw
  have hfull : { s with lost := true }.setWritable.isFull = s.isFull := by
    simp [isFull, hq, hc.1]
  simp only [loseConnection, hfull]
  split <;> simp [intake, put_eq, hq, hd, hl]

end Intake

theorem not_isMark_of_mem_entries {s : Socket} {x : Item} (h : x ∈ s.entries) :
    x.isMark = false := by
  simpa [entries] using (List.mem_filter.1 h).2

theorem entries_of_queue {t : Socket} {q : List Item} (hq : ∀ x ∈ q, x.isMark = false)
    (h : t.queue = q ++ if t.lost then [.closedMark] else []) : t.entries = q := by
  have hkeep : q.filter (fun x => !x.isMark) = q := List.filter_eq_self.2 (by simpa using hq)
  rw [entries, h, List.filter_append, hkeep]
  split <;> simp [Item.isMark]

theorem Ledger.init (capacity : Int) (receiving : Bool) :
    Ledger (init capacity receiving) [] [] where
  order := List.Sublist.slnil
  count := rfl
  shape := rfl
  bound := fun hpos => by
    change (0 : Int) < capacity at hpos
    change ((0 : Nat) : Int) ≤ capacity
    omega
  sendOnly := fun _ => rfl

section Books

variable {s t : Socket} {O T : List Item}

theorem Ledger.of_entries (q : List Item) (hq : ∀ x ∈ q, x.isMark = false)
    (hqueue : t.queue = q ++ if t.lost then [.closedMark] else [])
    (horder : (T ++ q).Sublist O) (hcount : O.length = T.length + q.length + t.dropped)
    (hbound : 0 < t.capacity → (t.queue.length : Int) ≤ t.capacity)
    (hsend : t.receiving = false → q = []) : Ledger t O T := by
  have he := entries_of_queue hq hqueue
  exact {
    order := by rw [he]; exact horder
    count := by rw [he]; exact hcount
    shape := by rw [he]; exact hqueue
    bound := hbound
    sendOnly := by rw [he]; exact hsend }

theorem Ledger.congr (h : Ledger s O T) (hi : t.intake = s.intake) (hc : t.config = s.config) :
    Ledger t O T := by
  simp only [intake, config, Prod.mk.injEq] at hi hc
  obtain ⟨hq, hd, hl⟩ := hi
  obtain ⟨hcap, hrecv⟩ := hc
  have he : t.entries = s.entries := by simp [entries, hq]
  exact {
    order := by rw [he]; exact h.order
    count := by rw [he, hd]; exact h.count
    shape := by rw [he, hq, hl]; exact h.shape
    bound := by rw [hq, hcap]; exact h.bound
    sendOnly := by rw [he, hrecv]; exact h.sendOnly }

theorem Ledger.offer (h : Ledger s O T) (hr : s.receiving = true) {x : Item}
    (hx : x.isMark = false) : Ledger (s.offer x) (O ++ if s.lost then [] else [x]) T := by
  cases hl : s.lost
  · have hq : s.queue = s.entries := by simpa [hl] using h.shape
    have hentries := fun y (hy : y ∈ s.entries) => not_isMark_of_mem_entries hy
    by_cases hfull : s.isFull = true
    · -- the entry is dropped and counted
      have hoffer : s.offer x = { s with dropped := s.dropped + 1 } := by
        simp [Socket.offer, hl, hfull]
      rw [hoffer]
      refine Ledger.of_entries s.entries hentries ?_ ?_ ?_ ?_ ?_
      · simpa [hl] using hq
      · exact h.order.trans (List.sublist_append_left _ _)
      · simp only [List.length_append, List.length_singleton, h.count, Bool.false_eq_true,
          if_false]
        omega
      · exact h.bound
      · exact h.sendOnly
    · -- the entry joins the queue, which has room for it
      have hoffer : s.offer x = s.put x := by simp [Socket.offer, hl, hfull]
      have hroom : 0 < s.capacity → (s.queue.length : Int) < s.capacity := by
        intro hpos
        simp only [isFull, Bool.and_eq_true, decide_eq_true_eq, not_and, Int.not_le] at hfull
        exact hfull hpos
      rw [hoffer]
      refine Ledger.of_entries (s.entries ++ [x]) ?_ ?_ ?_ ?_ ?_ ?_
      · intro y hy
        rcases List.mem_append.1 hy with hy | hy
        · exact not_isMark_of_mem_entries hy
        · rw [List.mem_singleton.1 hy]; exact hx
      · simp [put_eq, hl, ← hq]
      · rw [← List.append_assoc]
        exact h.order.append (List.Sublist.refl _)
      · simp only [List.length_append, List.length_singleton, h.count, put_eq,
          Bool.false_eq_true, if_false]
        omega
      · simp only [put_eq, List.length_append, List.length_singleton]
        intro hpos
        have := hroom hpos
        omega
      · simp [put_eq, hr]
  · simpa [Socket.offer, hl] using h

theorem Ledger.loseConnection (h : Ledger s O T) (hl : s.lost = false) :
    Ledger s.loseConnection O T := by
  have hq : s.queue = s.entries := by simpa [hl] using h.shape
  have hi := intake_loseConnection s
  have hc := config_loseConnection s
  simp only [config, Prod.mk.injEq] at hc
  obtain ⟨hcap, hrecv⟩ := hc
  by_cases hfull : s.isFull = true
  · -- the oldest entry is dropped and counted
    simp only [hfull, if_true, intake, Prod.mk.injEq] at hi
    obtain ⟨hq', hd', hl'⟩ := hi
    have hlen : 0 < s.entries.length := by
      simp only [isFull, Bool.and_eq_true, decide_eq_true_eq] at hfull
      rw [← hq]
      omega
    refine Ledger.of_entries (s.entries.drop 1) ?_ ?_ ?_ ?_ ?_ ?_
    · exact fun x hx => not_isMark_of_mem_entries (List.mem_of_mem_drop hx)
    · simp [hq', hl', ← hq]
    · exact ((List.drop_sublist 1 _).append_left T).trans h.order
    · simp only [List.length_drop, hd', h.count]
      omega
    · intro hpos
      have := h.bound (by rw [← hcap]; exact hpos)
      simp only [hq', hcap, List.length_append, List.length_drop, List.length_singleton]
      omega
    · intro hr
      rw [h.sendOnly (by rw [← hrecv]; exact hr)]
      rfl
  · -- the mark joins the queue, which has room for it
    simp only [hfull, Bool.false_eq_true, if_false, intake, Prod.mk.injEq] at hi
    obtain ⟨hq', hd', hl'⟩ := hi
    refine Ledger.of_entries s.entries (fun x hx => not_isMark_of_mem_entries hx) ?_ ?_ ?_ ?_ ?_
    · simp [hq', hl', ← hq]
    · exact h.order
    · rw [hd']; exact h.count
    · intro hpos
      have hpos' : 0 < s.capacity := by rw [← hcap]; exact hpos
      simp only [isFull, Bool.and_eq_true, decide_eq_true_eq, not_and, Int.not_le] at hfull
      have := hfull hpos'
      simp only [hq', hcap, List.length_append, List.length_singleton]
      omega
    · intro hr
      exact h.sendOnly (by rw [← hrecv]; exact hr)

theorem Ledger.takeItem (h : Ledger s O T) (i : Nat) :
    Ledger (s.takeItem i) O (T ++ (s.queue.take 1).filter fun x => !x.isMark) := by
  cases hq : s.queue with
  | nil =>
    have hi : (s.takeItem i).intake = s.intake := by simp [Socket.takeItem, hq, intake, mark]
    have hc : (s.takeItem i).config = s.config := config_takeItem s i
    simpa using h.congr hi hc
  | cons x rest =>
    cases hx : x.isMark
    · -- an entry is taken, and returned or raised
      have hrest : s.entries = x :: rest.filter (fun x => !x.isMark) := by
        simp [entries, hq, hx]
      have hshape := h.shape
      rw [hq, hrest, List.cons_append, List.cons.injEq] at hshape
      have hi : (s.takeItem i).intake = (rest, s.dropped, s.lost) := by
        cases x with
        | datagram d => simp only [Socket.takeItem, hq]; rfl
        | fault f => simp only [Socket.takeItem, hq]; rfl
        | closedMark => cases hx
      have hc : (s.takeItem i).config = s.config := config_takeItem s i
      simp only [intake, config, Prod.mk.injEq] at hi hc
      obtain ⟨hq', hd', hl'⟩ := hi
      refine Ledger.of_entries (rest.filter fun x => !x.isMark) ?_ ?_ ?_ ?_ ?_ ?_
      · intro y hy
        simpa using (List.mem_filter.1 hy).2
      · rw [hq', hl']; exact hshape.2
      · have := h.order
        rw [hrest] at this
        simpa [hx] using this
      · have hcount := h.count
        rw [hrest, List.length_cons] at hcount
        have htake : ((x :: rest).take 1).filter (fun x => !x.isMark) = [x] := by simp [hx]
        rw [htake, List.length_append, List.length_singleton, hd']
        omega
      · intro hpos
        have := h.bound (by rw [← hc.1]; exact hpos)
        rw [hq, List.length_cons] at this
        rw [hq', hc.1]
        omega
      · intro hr
        have := h.sendOnly (by rw [← hc.2]; exact hr)
        rw [hrest] at this
        cases this
    · -- the mark is taken and put back: it stands alone, so nothing changes
      have hentries : s.entries = [] := by
        cases he : s.entries with
        | nil => rfl
        | cons y ys =>
          have hshape := h.shape
          rw [hq, he, List.cons_append, List.cons.injEq] at hshape
          have hy : y.isMark = false := not_isMark_of_mem_entries (by rw [he]; simp)
          rw [← hshape.1, hx] at hy
          cases hy
      have hshape := h.shape
      rw [hq, hentries, List.nil_append] at hshape
      have hlost : s.lost = true := by
        cases hl : s.lost
        · rw [hl] at hshape; simp at hshape
        · rfl
      rw [hlost, if_pos rfl, List.cons.injEq] at hshape
      obtain ⟨rfl, rfl⟩ := hshape
      have hi : (s.takeItem i).intake = s.intake := by
        simp [Socket.takeItem, hq, intake, finish, mark, put_eq]
      have hc : (s.takeItem i).config = s.config := config_takeItem s i
      simpa [Item.isMark] using h.congr hi hc

/-- The network takes the datagram, or refuses it and reports the fault set for the
transmission: to the queue on a socket that receives. -/
theorem Ledger.sendto (h : Ledger s O T) (hl : s.lost = false) (data : List UInt8) :
    Ledger (s.sendto data)
      (O ++ if s.receiving then (s.nextSendFault.map Item.fault).toList else []) T := by
  cases hn : s.nextSendFault with
  | none =>
    have hsend : s.sendto data = { s with wire := s.wire ++ [data] } := by
      simp [Socket.sendto, hn]
    rw [hsend]
    simpa using h.congr (t := { s with wire := s.wire ++ [data] }) rfl rfl
  | some f =>
    have hsend : s.sendto data = ({ s with nextSendFault := none } : Socket).reportFault f := by
      simp [Socket.sendto, hn]
    rw [hsend]
    have hr : Ledger { s with nextSendFault := none } O T := h.congr rfl rfl
    by_cases hrecv : s.receiving = true
    · -- the fault is offered to the queue
      have hreport : ({ s with nextSendFault := none } : Socket).reportFault f =
          ({ s with nextSendFault := none } : Socket).offer (.fault f) := by
        simp [reportFault, hrecv]
      rw [hreport]
      simpa [hl, hrecv] using hr.offer hrecv (x := .fault f) rfl
    · -- a socket that only sends holds the fault for the next send
      have hreport : ({ s with nextSendFault := none } : Socket).reportFault f =
          { s with nextSendFault := none, heldFault := some f } := by
        simp [reportFault, hrecv]
      rw [hreport]
      simpa [hrecv] using hr.congr (t := { s with nextSendFault := none, heldFault := some f })
        rfl rfl

/-- A send fails before the network with the books as they are, or hands the datagram to
the network, which may refuse it with the fault set for it and report that fault. -/
theorem Ledger.transmit (h : Ledger s O T) (i : Nat) (data : List UInt8) :
    Ledger (s.transmit i data)
      (O ++ if s.receiving && !s.lost then
          usedUp s.nextSendFault (s.transmit i data).nextSendFault else []) T := by
  cases hc : s.isClosed
  · cases hf : s.heldFault with
    | none =>
      have hl : s.lost = false := by
        simp only [isClosed, Bool.or_eq_false_iff] at hc
        exact hc.1
      rw [transmit_of_open hc hf]
      have hsent := h.sendto hl data
      have hn : (s.sendto data).nextSendFault = none := by
        unfold Socket.sendto
        split
        · exact nextSendFault_reportFault _ _
        · assumption
      have hnext : ((s.sendto data).finishSend i).nextSendFault = none := by
        rw [← hn]
        unfold finishSend
        split <;> rfl
      rw [hnext]
      have h' := hsent.congr (t := (s.sendto data).finishSend i) (intake_finishSend _ i)
        (config_finishSend _ i)
      cases hn' : s.nextSendFault <;> simpa [hl, hn', usedUp] using h'
    | some f =>
      rw [transmit_of_held hc hf]
      have hkeep : (({ s with heldFault := none } : Socket).finish i (.failed f)).nextSendFault =
          s.nextSendFault := rfl
      rw [hkeep]
      have h' := h.congr (t := ({ s with heldFault := none } : Socket).finish i (.failed f)) rfl rfl
      simpa using h'
  · rw [transmit_of_closed hc]
    have hkeep : (s.finish i (.failed .handleClosed)).nextSendFault = s.nextSendFault := rfl
    rw [hkeep]
    simpa using h.congr (t := s.finish i (.failed .handleClosed)) rfl rfl

theorem offered_job_of_keeps (hn : (s.act .job).nextSendFault = s.nextSendFault) :
    s.offered .job = [] := by
  simp [offered, hn]

theorem Ledger.apply (h : Ledger s O T) (e : Event) (hloss : e = .loseConnection → s.lost = false) :
    Ledger (s.apply e) (O ++ s.offered (.event e)) T := by
  cases e with
  | deliver d =>
    by_cases hr : s.receiving = true
    · have hoff : s.offered (.event (.deliver d)) = if s.lost then [] else [.datagram d] := by
        cases hl : s.lost <;> simp [offered, hr, hl]
      rw [hoff, show s.apply (.deliver d) = s.offer (.datagram d) by simp [Socket.apply, hr]]
      exact h.offer hr rfl
    · rw [show s.apply (.deliver d) = s by simp [Socket.apply, hr]]
      simpa [offered, hr] using h
  | reportFault f =>
    by_cases hr : s.receiving = true
    · have hoff : s.offered (.event (.reportFault f)) = if s.lost then [] else [.fault f] := by
        cases hl : s.lost <;> simp [offered, hr, hl]
      rw [hoff, show s.apply (.reportFault f) = s.offer (.fault f) by
        simp [Socket.apply, reportFault, hr]]
      exact h.offer hr rfl
    · rw [show s.apply (.reportFault f) = { s with heldFault := some f } by
        simp [Socket.apply, reportFault, hr]]
      simpa [offered, hr] using h.congr (t := { s with heldFault := some f }) rfl rfl
  | loseConnection =>
    simpa [offered, Socket.apply] using h.loseConnection (hloss rfl)
  | failNextSend f =>
    simpa [offered, Socket.apply] using h.congr (t := { s with nextSendFault := some f }) rfl rfl
  | pauseWriting =>
    simpa [offered, Socket.apply] using h.congr (t := { s with writable := false }) rfl rfl
  | resumeWriting =>
    simpa [offered, Socket.apply] using h.congr (intake_setWritable s) (config_setWritable s)
  | close =>
    simpa [offered, Socket.apply] using h.congr (intake_close s) (config_close s)
  | start r =>
    simpa [offered, Socket.apply] using h.congr (t := s.apply (.start r)) rfl rfl

theorem Ledger.job (h : Ledger s O T) (hloss : s.losesConnection .job = true → s.lost = false) :
    Ledger (s.act .job) (O ++ s.offered .job) (T ++ s.taken .job) := by
  cases hready : s.ready with
  | nil =>
    have hact : s.act .job = s := by simp [act, hready]
    rw [offered_job_of_keeps (by rw [hact]), hact]
    simpa [taken, hready] using h
  | cons j js =>
    have hact : s.act .job = { s with ready := js }.runJob j := by simp [act, hready]
    have h1 : Ledger { s with ready := js } O T := h.congr rfl rfl
    -- a job that only leaves the ready list keeps the books as they were
    have hskip : s.act .job = { s with ready := js } → s.taken .job = [] →
        Ledger (s.act .job) (O ++ s.offered .job) (T ++ s.taken .job) := by
      intro hrun htaken
      rw [offered_job_of_keeps (by rw [hrun]), htaken, List.append_nil, List.append_nil, hrun]
      exact h1
    cases j with
    | connectionLost =>
      have hl : s.lost = false := hloss (by simp [losesConnection, hready])
      have hn : (s.act .job).nextSendFault = s.nextSendFault := by
        rw [hact]
        exact nextSendFault_loseConnection _
      have htaken : s.taken .job = [] := by simp [taken, hready]
      rw [offered_job_of_keeps hn, htaken, List.append_nil, List.append_nil, hact]
      exact h1.loseConnection hl
    | run i =>
      have h1' : ∀ t : Socket, t.intake = s.intake → t.config = s.config → Ledger t O T :=
        fun t hi hc => h.congr hi hc
      rcases hreq : s.requests[i]? with _ | ⟨r, p⟩
      · exact hskip (by simp [act, hready, runJob, hreq]) (by simp [taken, hready, hreq])
      · cases r with
        | receive =>
          have htake : s.act .job = { s with ready := js }.takeItem i →
              s.taken .job = (s.queue.take 1).filter (fun x => !x.isMark) →
              Ledger (s.act .job) (O ++ s.offered .job) (T ++ s.taken .job) := by
            intro hrun htaken
            rw [offered_job_of_keeps (by rw [hrun]; exact nextSendFault_takeItem _ _), htaken,
              List.append_nil, hrun]
            exact h1.takeItem i
          cases p with
          | finished c =>
            exact hskip (by simp [act, hready, runJob, hreq]) (by simp [taken, hready, hreq])
          | fresh =>
            exact htake (by simp [act, hready, runJob, hreq]) (by simp [taken, hready, hreq])
          | blocked =>
            exact htake (by simp [act, hready, runJob, hreq]) (by simp [taken, hready, hreq])
        | send data =>
          have htaken : s.taken .job = [] := by
            cases p <;> simp [taken, hready, hreq]
          have htransmit : s.act .job = { s with ready := js }.transmit i data →
              Ledger (s.act .job) (O ++ s.offered .job) T := by
            intro hrun
            have hoff : s.offered .job = if s.receiving && !s.lost then
                usedUp s.nextSendFault ({ s with ready := js }.transmit i data).nextSendFault
                else [] := by
              simp only [offered, hrun]
            rw [hoff, hrun]
            exact h1.transmit i data
          cases p with
          | finished c => exact hskip (by simp [act, hready, runJob, hreq]) htaken
          | blocked =>
            rw [htaken, List.append_nil]
            exact htransmit (by simp [act, hready, runJob, hreq])
          | fresh =>
            rw [htaken, List.append_nil]
            have hc1 : ({ s with ready := js } : Socket).isClosed = s.isClosed := rfl
            have hrun : s.act .job =
                if s.isClosed then { s with ready := js }.finish i (.failed .handleClosed)
                else if s.writable then { s with ready := js }.transmit i data
                else { { s with ready := js } with writers := s.writers ++ [i] }.mark i .blocked := by
              simp only [act, hready, runJob, hreq, hc1]
            by_cases hc : s.isClosed = true
            · rw [if_pos hc] at hrun
              rw [offered_job_of_keeps (by rw [hrun]; rfl), List.append_nil, hrun]
              exact h1' _ rfl rfl
            · by_cases hw : s.writable = true
              · rw [if_neg hc, if_pos hw] at hrun
                exact htransmit hrun
              · rw [if_neg hc, if_neg hw] at hrun
                rw [offered_job_of_keeps (by rw [hrun]; rfl), List.append_nil, hrun]
                exact h1' _ rfl rfl

theorem Ledger.act (h : Ledger s O T) (a : Action)
    (hloss : s.losesConnection a = true → s.lost = false) :
    Ledger (s.act a) (O ++ s.offered a) (T ++ s.taken a) := by
  cases a with
  | event e =>
    have htaken : s.taken (.event e) = [] := rfl
    rw [htaken, List.append_nil]
    exact h.apply e (fun he => hloss (by subst he; rfl))
  | job => exact h.job hloss

theorem Ledger.play (h : Ledger s O T) (as : List Action) (honce : s.lossOnce as = true) :
    Ledger (s.play as) (O ++ s.offeredAlong as) (T ++ s.takenAlong as) := by
  induction as generalizing s O T with
  | nil => simpa [offeredAlong, takenAlong] using h
  | cons a as ih =>
    obtain ⟨hloss, hrest⟩ := lossOnce_cons.1 honce
    have hnext := ih (h.act a hloss) hrest
    simpa [offeredAlong, takenAlong, List.append_assoc] using hnext

end Books

theorem completion?_takeItem {s : Socket} {i : Nat} {x : Item} {rest : List Item}
    (hq : s.queue = x :: rest) (hi : (s.requests[i]?).isSome = true) :
    (s.takeItem i).completion? i = some x.answer := by
  cases x with
  | datagram d =>
    simp only [Socket.takeItem, hq]
    exact completion?_finish hi
  | fault f =>
    simp only [Socket.takeItem, hq]
    exact completion?_finish hi
  | closedMark =>
    simp only [Socket.takeItem, hq]
    exact completion?_finish (by simpa [put_eq] using hi)

/-- Once the connection is lost and its entries are taken, the next receive raises the
closed fault and leaves the queue as it is. -/
def RaisesClosed (s : Socket) : Prop :=
  s.lost = true → s.entries = [] → ∀ i js, s.ready = .run i :: js →
    (s.requests[i]? = some (.receive, .fresh) ∨ s.requests[i]? = some (.receive, .blocked)) →
    (s.act .job).completion? i = some (.failed .handleClosed) ∧ (s.act .job).queue = s.queue

theorem Ledger.raisesClosed {s : Socket} {O T : List Item} (h : Ledger s O T) :
    RaisesClosed s := by
  intro hl he i js hready hreq
  have hq : s.queue = [.closedMark] := by rw [h.shape, he, hl]; rfl
  have hact : s.act .job = { s with ready := js }.takeItem i := by
    rcases hreq with hreq | hreq <;> simp [Socket.act, hready, runJob, hreq]
  have hsome : (s.requests[i]?).isSome = true := by rcases hreq with hreq | hreq <;> simp [hreq]
  rw [hact]
  refine ⟨completion?_takeItem (s := { s with ready := js }) hq hsome, ?_⟩
  simp [Socket.takeItem, hq, finish, mark, put_eq]

/-- The receive queue over any interleaving of arrivals, faults, pauses, a loss of
connection told at most once, and receives: the books are kept, the queue stays within its
capacity, a socket that only sends holds nothing but the closing mark, and after the loss
every receive past the entries raises the closed fault. -/
theorem receive_queue_ledger (capacity : Int) (hcap : 1 ≤ capacity) (receiving : Bool)
    (as : List Action) (honce : (init capacity receiving).lossOnce as = true) :
    Ledger ((init capacity receiving).play as) ((init capacity receiving).offeredAlong as)
        ((init capacity receiving).takenAlong as) ∧
      (((init capacity receiving).play as).queue.length : Int) ≤ capacity ∧
      (receiving = false → ∀ x ∈ ((init capacity receiving).play as).queue, x = .closedMark) ∧
      RaisesClosed ((init capacity receiving).play as) := by
  have h := (Ledger.init capacity receiving).play as honce
  simp only [List.nil_append] at h
  have hconfig := config_play (init capacity receiving) as
  have hc : ((init capacity receiving).play as).capacity = capacity := congrArg Prod.fst hconfig
  have hr : ((init capacity receiving).play as).receiving = receiving :=
    congrArg Prod.snd hconfig
  refine ⟨h, ?_, ?_, h.raisesClosed⟩
  · have hbound := h.bound (by omega)
    rw [hc] at hbound
    exact hbound
  · intro hsend x hx
    have he := h.sendOnly (by rw [hr]; exact hsend)
    rw [h.shape, he, List.nil_append] at hx
    split at hx
    · simpa using hx
    · simp at hx

/-- A queue of one, offered two datagrams and then closed: the second datagram finds the
queue full and is dropped, the loss drops the first to make room for the mark, and the
receive that follows raises the closed fault. -/
theorem full_queue_drops_for_mark :
    let tr : List Action := [.event (.deliver ⟨[1], []⟩), .event (.deliver ⟨[2], []⟩),
      .event .loseConnection, .event (.start .receive), .job]
    (1 : Int) ≤ 1 ∧ (init 1 true).lossOnce tr = true ∧
      (Ledger ((init 1 true).play tr) ((init 1 true).offeredAlong tr)
          ((init 1 true).takenAlong tr) ∧
        (((init 1 true).play tr).queue.length : Int) ≤ 1 ∧
        (true = false → ∀ x ∈ ((init 1 true).play tr).queue, x = .closedMark) ∧
        RaisesClosed ((init 1 true).play tr)) := by
  intro tr
  have honce : (init 1 true).lossOnce tr = true := by decide
  exact ⟨by decide, honce, receive_queue_ledger 1 (by decide) true tr honce⟩

end Socket

end Transport

end VirtualMocap
