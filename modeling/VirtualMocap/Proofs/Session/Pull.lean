import VirtualMocap.Session.Marionette

/-!
# Pulls over any interleaving

Between two of the marionette's steps any task may start a pull, close the stream or the
link, or have the link receive (`PullEvent`). `pulls_over_any_run` says what every run
keeps: datagrams are handed out in the order the link held them, a closed marionette
ends every new pull, and a pull already waiting outlives the close.
-/

namespace VirtualMocap

@[simp] theorem except_toOption_ok {ε α : Type} (a : α) : (Except.ok a : Except ε α).toOption = some a :=
  rfl

@[simp] theorem except_toOption_error {ε α : Type} (e : ε) :
    (Except.error e : Except ε α).toOption = none :=
  rfl

namespace Transport

def Link.datagrams (l : Link) : List Datagram := l.inbox.filterMap Except.toOption

namespace Link

@[simp] theorem datagrams_push (l : Link) (item : Except Fault Datagram) :
    (l.push item).datagrams = l.datagrams ++ item.toOption.toList := by
  cases item <;> simp [push, datagrams]

@[simp] theorem datagrams_close (l : Link) : l.close.datagrams = l.datagrams := by
  unfold close
  split <;> simp [datagrams]

theorem datagrams_of_take {l l' : Link} {item : Except Fault Datagram}
    (h : l.take = some (item, l')) : l.datagrams = item.toOption.toList ++ l'.datagrams := by
  obtain ⟨inbox, closed, failNext, wire⟩ := l
  cases inbox with
  | nil => simp [take] at h
  | cons first rest =>
    cases first with
    | error f =>
      -- a closed fault goes back at the end, any other fault is dropped
      by_cases hf : f.kind = .closed <;>
        simp only [take, hf, if_true, if_false, Option.some.injEq, Prod.mk.injEq] at h <;>
        obtain ⟨rfl, rfl⟩ := h <;> simp [datagrams, List.filterMap_cons]
    | ok d =>
      simp only [take, Option.some.injEq, Prod.mk.injEq] at h
      obtain ⟨rfl, rfl⟩ := h
      simp [datagrams]

end Link

end Transport

namespace Session

open Transport

/-- What can happen around a marionette between two of its own steps. -/
inductive PullEvent where
  /-- A task starts a pull. -/
  | receive
  /-- The waiting pull runs again and takes what the link holds. -/
  | deliver
  /-- The marionette is closed. -/
  | close
  /-- The link is closed under it. -/
  | closeLink
  /-- The link receives a datagram or a fault. -/
  | push (item : Except Fault Datagram)

namespace PullEvent

def onLink : PullEvent → Link → Link
  | .receive, l => l
  | .deliver, l => l
  | .close, l => l.close
  | .closeLink, l => l.close
  | .push item, l => l.push item

def arrivals : PullEvent → List Datagram
  | .push item => item.toOption.toList
  | _ => []

def endedAnswer : PullEvent → Option (Except PullError Datagram)
  | .receive => some (.error .endOfStream)
  | _ => none

end PullEvent

def linkAfter (l : Link) (es : List PullEvent) : Link := es.foldl (fun l e => e.onLink l) l

def handedOut (answers : List (Option (Except PullError Datagram))) : List Datagram :=
  answers.filterMap fun a => a.bind Except.toOption

namespace Marionette

/-- One event: the marionette after it, and what a pull that ends there answers. -/
def step (m : Marionette) : PullEvent → Marionette × Option (Except PullError Datagram)
  | .receive => (m.receive.1, m.receive.2.1)
  | .deliver => (m.resume.1, m.resume.2.1)
  | .close => (m.close, none)
  | .closeLink => ({ m with link := m.link.close }, none)
  | .push item => ({ m with link := m.link.push item }, none)

/-- A run of events: the marionette at its end, and the answer at each event. -/
def run (m : Marionette) : List PullEvent → Marionette × List (Option (Except PullError Datagram))
  | [] => (m, [])
  | e :: es => ((m.step e).1.run es |>.1, (m.step e).2 :: ((m.step e).1.run es).2)

@[simp] theorem run_nil (m : Marionette) : m.run [] = (m, []) := rfl

@[simp] theorem run_cons (m : Marionette) (e : PullEvent) (es : List PullEvent) :
    m.run (e :: es) = (((m.step e).1.run es).1, (m.step e).2 :: ((m.step e).1.run es).2) := rfl

def Ended (m : Marionette) : Prop := m.phase = .closed ∧ m.pulling = false

section Complete

variable (m : Marionette) (item : Except Fault Datagram)

@[simp] theorem complete_link : (m.complete item).1.link = m.link := by
  unfold complete
  split
  · rfl
  · split <;> rfl

@[simp] theorem complete_pulling : (m.complete item).1.pulling = false := by
  unfold complete
  split
  · rfl
  · split <;> rfl

@[simp] theorem toOption_complete : (m.complete item).2.1.toOption = item.toOption := by
  unfold complete
  split
  · rfl
  · split <;> rfl

end Complete

section Step

variable {m : Marionette}

theorem step_receive_of_pulling (h : m.pulling = true) :
    m.step .receive = (m, some (.error (if m.phase = .closed then .endOfStream else .busy))) := by
  by_cases hc : m.phase = .closed <;> simp [step, receive, hc, h]

theorem step_of_ended (h : m.Ended) (e : PullEvent) :
    m.step e = ({ m with link := e.onLink m.link }, e.endedAnswer) := by
  obtain ⟨hphase, hpull⟩ := h
  cases e with
  | receive =>
    have hr : m.receive = (m, some (.error .endOfStream), []) := by simp [receive, hphase]
    simp only [step, hr]
    rfl
  | deliver =>
    have hr : m.resume = (m, none, []) := by simp [resume, hpull]
    simp only [step, hr]
    rfl
  | close =>
    simp only [step, close, PullEvent.onLink, PullEvent.endedAnswer, ← hphase]
  | closeLink => rfl
  | push item => rfl

/-- One event keeps the count: the datagrams it hands out, then those waiting in the link,
are those the link held and the event brought. -/
theorem handed_step (e : PullEvent) :
    ((m.step e).2.bind Except.toOption).toList ++ (m.step e).1.link.datagrams =
      m.link.datagrams ++ e.arrivals := by
  cases e with
  | receive =>
    simp only [step, receive]
    split
    · simp [PullEvent.arrivals]
    · split
      · simp [PullEvent.arrivals]
      · -- the pull goes to the link: it finishes with what the link gives, or waits
        split
        · rename_i item link htake
          simp [Link.datagrams_of_take htake, PullEvent.arrivals]
        · simp [PullEvent.arrivals]
  | deliver =>
    simp only [step, resume]
    split
    · split
      · rename_i item link htake
        simp [Link.datagrams_of_take htake, PullEvent.arrivals]
      · simp [PullEvent.arrivals]
    · simp [PullEvent.arrivals]
  | close => simp [step, close, PullEvent.arrivals]
  | closeLink => simp [step, PullEvent.arrivals]
  | push item => simp [step, PullEvent.arrivals]

end Step

section Run

theorem run_of_ended {m : Marionette} (h : m.Ended) (es : List PullEvent) :
    m.run es = ({ m with link := linkAfter m.link es }, es.map PullEvent.endedAnswer) := by
  induction es generalizing m with
  | nil => rfl
  | cons e es ih =>
    have hnext : (m.step e).1.Ended := by
      rw [step_of_ended h e]
      exact h
    rw [run_cons, ih hnext, step_of_ended h e]
    rfl

/-- Over any run, the datagrams handed out, then those still waiting in the link, are those
the link held at the start and received during the run. -/
theorem handed_run (m : Marionette) (es : List PullEvent) :
    handedOut (m.run es).2 ++ (m.run es).1.link.datagrams =
      m.link.datagrams ++ es.flatMap PullEvent.arrivals := by
  induction es generalizing m with
  | nil => simp [handedOut]
  | cons e es ih =>
    have hstep := handed_step (m := m) e
    calc handedOut (m.run (e :: es)).2 ++ (m.run (e :: es)).1.link.datagrams
        = ((m.step e).2.bind Except.toOption).toList ++
            (handedOut ((m.step e).1.run es).2 ++ ((m.step e).1.run es).1.link.datagrams) := by
          simp only [run_cons, handedOut, List.filterMap_cons]
          cases (m.step e).2.bind Except.toOption <;> simp
      _ = ((m.step e).2.bind Except.toOption).toList ++ (m.step e).1.link.datagrams ++
            es.flatMap PullEvent.arrivals := by
          rw [ih, List.append_assoc]
      _ = m.link.datagrams ++ (e :: es).flatMap PullEvent.arrivals := by
          rw [hstep, List.flatMap_cons, List.append_assoc]

end Run

/-- Closing does not end a pull that already waits: when it runs, it takes the datagram the
link holds first and makes the marionette ready again, so the next pull goes back to the
link. -/
theorem close_while_waiting {m : Marionette} {d : Datagram} {rest : List (Except Fault Datagram)}
    (h : m.pulling = true) (hd : m.link.inbox = .ok d :: rest) :
    (m.close.step .deliver).1.phase = .itemReady ∧ (m.close.step .deliver).2 = some (.ok d) := by
  have hinbox : ∃ rest', m.link.close.inbox = .ok d :: rest' := by
    unfold Link.close
    split
    · exact ⟨rest, hd⟩
    · exact ⟨rest ++ [.error .handleClosed], by simp [hd]⟩
  obtain ⟨rest', hrest'⟩ := hinbox
  simp [step, resume, close, h, Link.take, hrest', complete]

/-- The pull state machine over any interleaving of pulls, closes and arrivals. -/
theorem pulls_over_any_run (m : Marionette) (es : List PullEvent) :
    (m.pulling = true →
      m.step .receive = (m, some (.error (if m.phase = .closed then .endOfStream else .busy)))) ∧
    (m.Ended → m.run es = ({ m with link := linkAfter m.link es }, es.map PullEvent.endedAnswer)) ∧
    (∀ (d : Datagram) (rest : List (Except Fault Datagram)),
      m.pulling = true → m.link.inbox = .ok d :: rest →
      (m.close.step .deliver).1.phase = .itemReady ∧ (m.close.step .deliver).2 = some (.ok d)) ∧
    handedOut (m.run es).2 ++ (m.run es).1.link.datagrams =
      m.link.datagrams ++ es.flatMap PullEvent.arrivals :=
  ⟨step_receive_of_pulling, fun h => run_of_ended h es, fun _ _ h hd => close_while_waiting h hd,
    handed_run m es⟩

/-- A pull on an empty link waits, a datagram arrives, and the stream is closed before the
pull runs again: the closed stream then hands the datagram out and is ready again. -/
theorem waiting_pull_outlives_close :
    let m := (({ link := {} } : Marionette).run [.receive, .push (.ok ⟨[1], []⟩)]).1
    m.close.phase = .closed ∧
      (m.close.step .deliver).1.phase = .itemReady ∧
      (m.close.step .deliver).2 = some (.ok ⟨[1], []⟩) :=
  ⟨rfl, (pulls_over_any_run _ []).2.2.1 _ [] rfl rfl⟩

end Marionette

end Session

end VirtualMocap
