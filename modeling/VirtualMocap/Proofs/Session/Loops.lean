import VirtualMocap.Session.Pump
import VirtualMocap.Proofs.Motion.Recorder

/-!
# The listening loops over a closed stream

A marionette over a link holding some datagrams and then the closed fault hands out every
datagram in order and then ends (`Marionette.drain_datagrams`), so a loop over it is its
body run over the datagrams in turn (`bodyRun`). `record_loop` says what the recording
loop keeps, up to the first datagram whose calls nest past the room.
-/

namespace VirtualMocap

namespace Session

open Transport Motion

/-! ## The stream -/

namespace Marionette

def arrival (d : Datagram) : LogEvent :=
  log .debug "vmc.recv" [("size", .int d.data.length), ("sender", .arr d.sender)]

def closedEvent : LogEvent := log .info "marionette.closed"

section Pulls

variable {m : Marionette} {rest : List (Except Fault Datagram)}

/-- A pull on a stream that has not ended, with nothing waiting, takes the datagram at the
front of the link and leaves the stream ready for the next pull. -/
theorem receive_datagram (hphase : m.phase ≠ .closed) (hpull : m.pulling = false) {d : Datagram}
    (hinbox : m.link.inbox = .ok d :: rest) :
    m.receive = ({ m with link := { m.link with inbox := rest }, phase := .itemReady },
      some (.ok d), [arrival d]) := by
  simp [receive, hphase, hpull, Link.take, hinbox, complete, arrival]

/-- A pull that meets the closed fault ends the stream; the fault goes back to the end of
the link, where every later pull would meet it again. -/
theorem receive_closed (hphase : m.phase ≠ .closed) (hpull : m.pulling = false)
    (hinbox : m.link.inbox = .error .handleClosed :: rest) :
    m.receive =
      ({ m with link := { m.link with inbox := rest ++ [.error .handleClosed] }, phase := .closed },
        some (.error .endOfStream), [closedEvent]) := by
  simp [receive, hphase, hpull, Link.take, hinbox, complete, closedEvent, Fault.handleClosed]

end Pulls

/-- A body run over datagrams in turn, each arrival reported before what the body logs
for it: the state at the end and the events in order, or the body's first error. -/
def bodyRun {σ ε : Type} (body : σ → Datagram → Except ε (σ × List LogEvent)) :
    σ → List Datagram → Except ε (σ × List LogEvent)
  | st, [] => .ok (st, [])
  | st, d :: ds =>
    match body st d with
    | .error e => .error e
    | .ok (st', out) =>
      match bodyRun body st' ds with
      | .error e => .error e
      | .ok (st'', rest) => .ok (st'', arrival d :: out ++ rest)

theorem bodyRun_cons_of_ok {σ ε : Type} {body : σ → Datagram → Except ε (σ × List LogEvent)}
    {st st' : σ} {d : Datagram} {out : List LogEvent} (hd : body st d = .ok (st', out))
    (ds : List Datagram) :
    bodyRun body st (d :: ds) =
      (bodyRun body st' ds).map fun r => (r.1, arrival d :: out ++ r.2) := by
  simp only [bodyRun, hd]
  cases bodyRun body st' ds <;> rfl

/-- Draining a stream whose link holds datagrams and then the closed fault runs the body
over every datagram, in order, and ends the stream, as long as the body never fails and
the fuel outlasts the datagrams. The induction is on the datagrams; each pull leaves the
stream open, with no pull waiting, over the rest of the link. -/
theorem drain_datagrams {σ ε : Type} (body : σ → Datagram → Except ε (σ × List LogEvent)) :
    ∀ (ds : List Datagram) {m : Marionette} (st : σ) {fuel : Nat} {st' : σ} {out : List LogEvent},
      m.phase ≠ .closed → m.pulling = false → m.link.inbox = ds.map .ok ++ [.error .handleClosed] →
      ds.length < fuel → bodyRun body st ds = .ok (st', out) →
      drain body fuel m st =
        ⟨{ m with link := { m.link with inbox := [.error .handleClosed] }, phase := .closed }, st',
          out ++ [closedEvent], none⟩
  | [], m, st, fuel + 1, st', out, hphase, hpull, hinbox, _, hrun => by
    cases hrun
    rw [List.map_nil, List.nil_append] at hinbox
    rw [drain, receive_closed hphase hpull hinbox]
    rfl
  | d :: ds, m, st, fuel + 1, st', out, hphase, hpull, hinbox, hfuel, hrun => by
    rw [List.map_cons, List.cons_append] at hinbox
    rcases hd : body st d with e | ⟨st₁, out₁⟩
    · simp [bodyRun, hd] at hrun
    rw [bodyRun_cons_of_ok hd] at hrun
    rcases hrest : bodyRun body st₁ ds with e | ⟨st₂, out₂⟩ <;> rw [hrest] at hrun
    · cases hrun
    cases hrun
    have hnext := drain_datagrams body ds
      (m := { m with link := { m.link with inbox := ds.map .ok ++ [.error .handleClosed] },
                     phase := .itemReady })
      st₁ (by simp) hpull rfl (by simpa using hfuel : ds.length < fuel) hrest
    rw [drain, receive_datagram hphase hpull hinbox]
    simp only [hd, hnext]
    simp

/-- A body that fails on a datagram ends the loop there: the datagrams before it are
handled in order, its arrival is reported, and the stream stays open over the rest. -/
theorem drain_escape {σ ε : Type} (body : σ → Datagram → Except ε (σ × List LogEvent))
    (d : Datagram) (post : List Datagram) {e : ε} :
    ∀ (pre : List Datagram) {m : Marionette} (st : σ) {fuel : Nat} {st' : σ} {out : List LogEvent},
      m.phase ≠ .closed → m.pulling = false →
      m.link.inbox = (pre ++ d :: post).map .ok ++ [.error .handleClosed] → pre.length < fuel →
      bodyRun body st pre = .ok (st', out) → body st' d = .error e →
      drain body fuel m st =
        ⟨{ m with link := { m.link with inbox := post.map .ok ++ [.error .handleClosed] },
                  phase := .itemReady }, st', out ++ [arrival d], some e⟩
  | [], m, st, fuel + 1, st', out, hphase, hpull, hinbox, _, hrun, he => by
    cases hrun
    rw [List.nil_append, List.map_cons, List.cons_append] at hinbox
    rw [drain, receive_datagram hphase hpull hinbox]
    simp only [he]
    simp [arrival]
  | p :: pre, m, st, fuel + 1, st', out, hphase, hpull, hinbox, hfuel, hrun, he => by
    rw [List.cons_append, List.map_cons, List.cons_append] at hinbox
    rcases hp : body st p with e' | ⟨st₁, out₁⟩
    · simp [bodyRun, hp] at hrun
    rw [bodyRun_cons_of_ok hp] at hrun
    rcases hrest : bodyRun body st₁ pre with e' | ⟨st₂, out₂⟩ <;> rw [hrest] at hrun
    · cases hrun
    cases hrun
    have hnext := drain_escape body d post pre
      (m := { m with link := { m.link with inbox := (pre ++ d :: post).map .ok ++ [.error .handleClosed] },
                     phase := .itemReady })
      st₁ (by simp) hpull rfl (by simpa using hfuel : pre.length < fuel) hrest he
    rw [drain, receive_datagram hphase hpull hinbox]
    simp only [hp, hnext]
    simp

theorem inbox_ofDatagrams (ds : List Datagram) :
    (Link.ofDatagrams ds).inbox = ds.map .ok ++ [.error .handleClosed] := by
  simp [Link.ofDatagrams, Link.close]

/-- A fresh marionette over a link that holds datagrams and is then closed drains them all,
in order, and ends the stream, when the body fails on none: the fuel `drainAll` gives
always outlasts the datagrams. -/
theorem drainAll_ofDatagrams {σ ε : Type} {body : σ → Datagram → Except ε (σ × List LogEvent)}
    {ds : List Datagram} {st st' : σ} {out : List LogEvent} (hrun : bodyRun body st ds = .ok (st', out)) :
    ({ link := .ofDatagrams ds } : Marionette).drainAll body st =
      ⟨{ link := { inbox := [.error .handleClosed], closed := true }, phase := .closed }, st',
        out ++ [closedEvent], none⟩ := by
  have hfuel : ds.length < (Link.ofDatagrams ds).inbox.length + 1 := by
    simp only [inbox_ofDatagrams, List.length_append, List.length_map, List.length_singleton]
    omega
  rw [drainAll, drain_datagrams body ds (m := { link := .ofDatagrams ds }) st (by simp) rfl
    (inbox_ofDatagrams ds) hfuel hrun]
  simp [Link.ofDatagrams, Link.close]

theorem drainAll_escape {σ ε : Type} {body : σ → Datagram → Except ε (σ × List LogEvent)}
    {pre post : List Datagram} {d : Datagram} {st st' : σ} {out : List LogEvent} {e : ε}
    (hrun : bodyRun body st pre = .ok (st', out)) (he : body st' d = .error e) :
    ({ link := .ofDatagrams (pre ++ d :: post) } : Marionette).drainAll body st =
      ⟨{ link := { inbox := post.map .ok ++ [.error .handleClosed], closed := true },
          phase := .itemReady }, st', out ++ [arrival d], some e⟩ := by
  have hfuel : pre.length < (Link.ofDatagrams (pre ++ d :: post)).inbox.length + 1 := by
    simp only [inbox_ofDatagrams, List.length_append, List.length_map, List.length_cons]
    omega
  rw [drainAll, drain_escape body d post pre (m := { link := .ofDatagrams (pre ++ d :: post) }) st
    (by simp) rfl (inbox_ofDatagrams _) hfuel hrun he]
  simp [Link.ofDatagrams, Link.close]

end Marionette

/-! ## The recording loop -/

def refusals (os : List Outcome) : List LogEvent :=
  os.filterMap fun
    | .invalid e => some (invalidEvent e)
    | _ => none

/-- The step at which decoding a datagram within `room` nested calls goes past the room,
if it does: the error that escapes a listening loop. -/
def escapeOf (room : Nat) (maxDepth : Int) (d : Datagram) : Option Osc.CallStep :=
  match parseWithin d.data (.int maxDepth) (some room) with
  | .error ⟨.callsTooDeep step, _⟩ => some step
  | _ => none

theorem decodeReported_of_escapeOf {room : Nat} {maxDepth : Int} {d : Datagram}
    (h : escapeOf room maxDepth d = none) :
    decodeReported room maxDepth d =
      .ok (match parseWithin d.data (.int maxDepth) (some room) with
        | .ok os => .ok os
        | .error e => .error (decodeFailure d e)) := by
  unfold escapeOf at h
  unfold decodeReported
  split <;> simp_all

theorem decodeReported_escape {room : Nat} {maxDepth : Int} {d : Datagram} {step : Osc.CallStep}
    (h : escapeOf room maxDepth d = some step) : decodeReported room maxDepth d = .error step := by
  unfold escapeOf at h
  unfold decodeReported
  split <;> simp_all

/-- The messages the recording loop takes from a datagram: the recognised messages of its
outcomes when it decodes, none when it does not. -/
def acceptedMessages (room : Nat) (maxDepth : Int) (d : Datagram) : List Message :=
  match parseWithin d.data (.int maxDepth) (some room) with
  | .ok os => recognized os
  | .error _ => []

/-- What the recording loop reports about a datagram after its arrival: the failure to
decode it, or each refused message. -/
def recordReports (room : Nat) (maxDepth : Int) (d : Datagram) : List LogEvent :=
  match parseWithin d.data (.int maxDepth) (some room) with
  | .ok os => refusals os
  | .error e => [decodeFailure d e]

namespace Recording

/-- A recording after its recorder is fed messages: the frames completed are kept after
the earlier ones. -/
def feedAll (r : Recording) (ms : List Message) : Recording :=
  { recorder := (r.recorder.feedAll ms).1, frames := r.frames ++ (r.recorder.feedAll ms).2 }

@[simp] theorem feedAll_nil (r : Recording) : r.feedAll [] = r := by
  simp [feedAll]

theorem feedAll_append (r : Recording) (xs ys : List Message) :
    r.feedAll (xs ++ ys) = (r.feedAll xs).feedAll ys := by
  simp [feedAll, Recorder.feedAll_append]

theorem feedAll_cons (r : Recording) (m : Message) (ms : List Message) :
    r.feedAll (m :: ms) =
      ({ recorder := (r.recorder.feed m).1, frames := r.frames ++ (r.recorder.feed m).2.toList } :
        Recording).feedAll ms := by
  simp [feedAll, Recorder.feedAll_cons]

end Recording

/-- The outcomes of one datagram, in order: each recognised message is fed to the
recorder, each refused one reported. The induction follows the outcomes. -/
theorem recordOutcomes_eq (r : Recording) (os : List Outcome) :
    recordOutcomes r os = (r.feedAll (recognized os), refusals os) := by
  induction os generalizing r with
  | nil => simp [recordOutcomes, recognized, refusals]
  | cons o os ih =>
    cases o with
    | recognized m => simp [recordOutcomes, ih, recognized, refusals, Recording.feedAll_cons]
    | unrecognized a xs => simp [recordOutcomes, ih, recognized, refusals]
    | invalid e => simp [recordOutcomes, ih, recognized, refusals]

/-- One datagram within the room: its accepted messages are fed to the recorder, and it is
reported as it failed to decode or as its messages were refused. -/
theorem recordBody_eq {room : Nat} {maxDepth : Int} (r : Recording) {d : Datagram}
    (h : escapeOf room maxDepth d = none) :
    recordBody room maxDepth r d =
      .ok (r.feedAll (acceptedMessages room maxDepth d), recordReports room maxDepth d) := by
  unfold recordBody acceptedMessages recordReports
  rw [decodeReported_of_escapeOf h]
  cases parseWithin d.data (.int maxDepth) (some room) with
  | ok os =>
    simp only [recordOutcomes_eq]
    rfl
  | error e =>
    simp only [Recording.feedAll_nil]
    rfl

theorem bodyRun_record {room : Nat} {maxDepth : Int} (r : Recording) {ds : List Datagram}
    (h : ∀ d ∈ ds, escapeOf room maxDepth d = none) :
    Marionette.bodyRun (recordBody room maxDepth) r ds =
      .ok (r.feedAll (ds.flatMap (acceptedMessages room maxDepth)),
        ds.flatMap fun d => Marionette.arrival d :: recordReports room maxDepth d) := by
  induction ds generalizing r with
  | nil => simp [Marionette.bodyRun]
  | cons d ds ih =>
    rw [Marionette.bodyRun_cons_of_ok (recordBody_eq r (h d (List.mem_cons_self ..))),
      ih _ fun d' hd' => h d' (List.mem_cons_of_mem _ hd')]
    simp only [List.flatMap_cons, Recording.feedAll_append]
    rfl

theorem exists_first_escape {room : Nat} {maxDepth : Int} {ds : List Datagram}
    (h : ∃ d ∈ ds, escapeOf room maxDepth d ≠ none) :
    ∃ pre d post step, ds = pre ++ d :: post ∧ (∀ d' ∈ pre, escapeOf room maxDepth d' = none) ∧
      escapeOf room maxDepth d = some step := by
  induction ds with
  | nil => simp at h
  | cons d ds ih =>
    cases hd : escapeOf room maxDepth d with
    | some step => exact ⟨[], d, ds, step, rfl, by simp, hd⟩
    | none =>
      obtain ⟨d', hd', hesc⟩ := h
      have hmem : d' ∈ ds := by
        rcases List.mem_cons.1 hd' with rfl | hmem
        · exact absurd hd hesc
        · exact hmem
      obtain ⟨pre, e, post, step, rfl, hpre, he⟩ := ih ⟨d', hmem, hesc⟩
      refine ⟨d :: pre, e, post, step, rfl, fun d'' hd'' => ?_, he⟩
      rcases List.mem_cons.1 hd'' with rfl | hin
      · exact hd
      · exact hpre d'' hin

/-- The recording loop over a stream of datagrams that then closes. When no datagram's
decoding goes past the room of calls, the loop returns: the frames kept are those a fresh
recorder completes when fed, in arrival order, the recognised messages of every datagram
that decodes under the nesting limit; the frame still open at the end stays in the
recorder and is not kept. Every datagram is reported on arrival, then as it failed to
decode or as its messages were refused, and the stream ends closed. A datagram whose
decoding goes past the room ends the loop with that error instead, and a datagram that
does not decode adds no message and is reported once, as a decoding failure. -/
theorem record_loop (room : Nat) (maxDepth : Int) (ds : List Datagram) :
    ((∀ d ∈ ds, escapeOf room maxDepth d = none) →
      ({ link := .ofDatagrams ds } : Marionette).drainAll (recordBody room maxDepth) {} =
        ⟨{ link := { inbox := [.error .handleClosed], closed := true }, phase := .closed },
          { recorder := (Recorder.empty.feedAll (ds.flatMap (acceptedMessages room maxDepth))).1,
            frames := (Recorder.empty.feedAll (ds.flatMap (acceptedMessages room maxDepth))).2 },
          ds.flatMap (fun d => Marionette.arrival d :: recordReports room maxDepth d) ++
            [Marionette.closedEvent], none⟩) ∧
    ((∃ d ∈ ds, escapeOf room maxDepth d ≠ none) →
      (({ link := .ofDatagrams ds } : Marionette).drainAll (recordBody room maxDepth) {}).escaped ≠ none) ∧
    ∀ d, escapeOf room maxDepth d = none → (∃ e, parseWithin d.data (.int maxDepth) (some room) = .error e) →
      acceptedMessages room maxDepth d = [] ∧ ∃ failure, recordReports room maxDepth d = [failure] ∧
        failure.level = .warning ∧ failure.event = "vmc.decode_failed" := by
  refine ⟨fun h => ?_, fun h => ?_, ?_⟩
  · rw [Marionette.drainAll_ofDatagrams (bodyRun_record {} h)]
    simp [Recording.feedAll]
  · obtain ⟨pre, d, post, step, rfl, hpre, hd⟩ := exists_first_escape h
    have hbody : recordBody room maxDepth
        (({} : Recording).feedAll (pre.flatMap (acceptedMessages room maxDepth))) d = .error step := by
      rw [recordBody, decodeReported_escape hd]
      rfl
    rw [Marionette.drainAll_escape (bodyRun_record {} hpre) hbody]
    simp
  · rintro d - ⟨e, he⟩
    simp [acceptedMessages, recordReports, decodeFailure, he]

end Session

end VirtualMocap
