import VirtualMocap.Proofs.Transport.Loop

/-!
# Where pending requests wait

A request that has not finished waits in exactly one place: the ready list, the readers
waiting for an item, or the writers waiting for the socket to become writable (`Waits`).
It holds in every state a fresh socket reaches (`waits_play`), because a job runs only
its own request.
-/

namespace VirtualMocap

namespace Transport

def Job.request? : Job → Option Nat
  | .run i => some i
  | .connectionLost => none

@[simp] theorem Job.request?_run (i : Nat) : (Job.run i).request? = some i := rfl

@[simp] theorem Job.request?_connectionLost : Job.connectionLost.request? = none := rfl

namespace Socket

/-- The requests that wait, by number: the jobs on the ready list, then the readers, then
the writers. -/
def waiting (s : Socket) : List Nat := s.ready.filterMap Job.request? ++ s.readers ++ s.writers

/-- Every pending request waits in one place at most, and waits as what it is. -/
structure Waits (s : Socket) : Prop where
  nodup : s.waiting.Nodup
  lt : ∀ i ∈ s.waiting, i < s.requests.length
  readers : ∀ i ∈ s.readers, s.requests[i]? = some (.receive, .blocked)
  writers : ∀ i ∈ s.writers, ∃ data, s.requests[i]? = some (.send data, .blocked)
  idle : s.writable = true → s.writers = []

theorem Waits.init (capacity : Int) (receiving : Bool) : Waits (Socket.init capacity receiving) where
  nodup := by simp [waiting, Socket.init]
  lt := by simp [waiting, Socket.init]
  readers := by simp [Socket.init]
  writers := by simp [Socket.init]
  idle _ := rfl

/-- `t` comes from `s` by a step that moves no request but may wake readers: the same
requests wait in the same order, the requests, the writers and the write state are the
same, and the readers are among those of `s`. -/
structure Moves (s t : Socket) : Prop where
  waiting : t.waiting = s.waiting
  requests : t.requests = s.requests
  writers : t.writers = s.writers
  writable : t.writable = s.writable
  readers : t.readers ⊆ s.readers

section Moves

variable {s t u : Socket}

theorem Moves.refl (s : Socket) : Moves s s := ⟨rfl, rfl, rfl, rfl, List.Subset.refl _⟩

theorem Moves.trans (h₁ : Moves s t) (h₂ : Moves t u) : Moves s u :=
  ⟨h₂.waiting.trans h₁.waiting, h₂.requests.trans h₁.requests, h₂.writers.trans h₁.writers,
    h₂.writable.trans h₁.writable, fun _ hi => h₁.readers (h₂.readers hi)⟩

theorem Waits.moves (h : Waits s) (hm : Moves s t) : Waits t where
  nodup := hm.waiting ▸ h.nodup
  lt := by rw [hm.waiting, hm.requests]; exact h.lt
  readers i hi := by rw [hm.requests]; exact h.readers i (hm.readers hi)
  writers i hi := by rw [hm.requests]; exact h.writers i (hm.writers ▸ hi)
  idle hw := by rw [hm.writers]; exact h.idle (hm.writable ▸ hw)

/-- Appending to the queue wakes a reader: it leaves the readers for the ready list, and
the order of the waiting requests stays as it was. -/
theorem moves_put (s : Socket) (x : Item) : Moves s (s.put x) where
  waiting := by
    simp only [waiting, put_eq, List.filterMap_append, List.filterMap_map]
    have hrun : (Job.request? ∘ Job.run) = some := rfl
    rw [hrun, List.filterMap_some, List.append_assoc (List.filterMap _ _),
      List.take_append_drop]
  requests := by rw [put_eq]
  writers := by rw [put_eq]
  writable := by rw [put_eq]
  readers := by rw [put_eq]; exact List.drop_subset 1 s.readers

theorem moves_offer (s : Socket) (x : Item) : Moves s (s.offer x) := by
  unfold offer
  split_ifs
  · exact Moves.refl s
  · exact ⟨rfl, rfl, rfl, rfl, List.Subset.refl _⟩
  · exact moves_put s x

theorem moves_reportFault (s : Socket) (f : Fault) : Moves s (s.reportFault f) := by
  unfold reportFault
  split
  · exact moves_offer s _
  · exact ⟨rfl, rfl, rfl, rfl, List.Subset.refl _⟩

theorem moves_sendto (s : Socket) (data : List UInt8) : Moves s (s.sendto data) := by
  unfold sendto
  split
  · have h1 : Moves s { s with nextSendFault := none } := ⟨rfl, rfl, rfl, rfl, List.Subset.refl _⟩
    exact h1.trans (moves_reportFault _ _)
  · exact ⟨rfl, rfl, rfl, rfl, List.Subset.refl _⟩

theorem moves_close (s : Socket) : Moves s s.close := by
  unfold close
  split
  · exact Moves.refl s
  · refine ⟨?_, rfl, rfl, rfl, List.Subset.refl _⟩
    simp [waiting]

end Moves

/-! ## A job runs only its own request -/

section Requests

variable (s : Socket)

theorem requests_setWritable : s.setWritable.requests = s.requests := by
  unfold setWritable
  split <;> rfl

theorem requests_loseConnection : s.loseConnection.requests = s.requests := by
  simp only [loseConnection]
  split <;> rw [(moves_put _ _).requests] <;> exact requests_setWritable _

theorem requests_transmit (j : Nat) (data : List UInt8) :
    ∃ g, (s.transmit j data).requests = s.requests.modify j g := by
  cases hc : s.isClosed
  · rcases Option.eq_none_or_eq_some s.heldFault with hf | ⟨f, hf⟩
    · rw [transmit_of_open hc hf]
      unfold finishSend
      split <;> exact ⟨_, by simp only [finish, mark, (moves_sendto s data).requests]; rfl⟩
    · rw [transmit_of_held hc hf]
      exact ⟨_, rfl⟩
  · rw [transmit_of_closed hc]
    exact ⟨_, rfl⟩

theorem requests_takeItem (j : Nat) : ∃ g, (s.takeItem j).requests = s.requests.modify j g := by
  unfold takeItem
  split
  · exact ⟨_, rfl⟩
  · exact ⟨_, rfl⟩
  · exact ⟨_, rfl⟩
  · exact ⟨_, by simp only [finish, mark, (moves_put _ _).requests]; rfl⟩

theorem requests_runJob_run (j : Nat) :
    ∃ g, (s.runJob (.run j)).requests = s.requests.modify j g := by
  simp only [runJob]
  split
  · exact requests_takeItem s j
  · exact requests_takeItem s j
  · split_ifs
    · exact ⟨_, rfl⟩
    · exact requests_transmit s j _
    · exact ⟨_, rfl⟩
  · exact requests_transmit s j _
  · exact ⟨id, (List.modify_id j s.requests).symm⟩

theorem requests_act (a : Action) (k : Nat) :
    (s.act a).requests[k]? = s.requests[k]? ∨ (a = .job ∧ s.ready.head? = some (.run k)) ∨
      s.requests[k]? = none := by
  cases a with
  | event e =>
    cases e with
    | deliver d =>
      left
      simp only [act, apply]
      split
      · rw [(moves_offer _ _).requests]
      · rfl
    | reportFault f => exact .inl (by rw [act, apply, (moves_reportFault s f).requests])
    | failNextSend f => exact .inl rfl
    | loseConnection => exact .inl (by rw [act, apply, requests_loseConnection])
    | pauseWriting => exact .inl rfl
    | resumeWriting => exact .inl (by rw [act, apply, requests_setWritable])
    | close => exact .inl (by rw [act, apply, (moves_close s).requests])
    | start r =>
      rcases hk : s.requests[k]? with _ | rp
      · exact .inr (.inr rfl)
      · left
        have hlt : k < s.requests.length := (List.getElem?_eq_some_iff.1 hk).1
        simp only [act, apply]
        rw [List.getElem?_append_left hlt, hk]
  | job =>
    cases hready : s.ready with
    | nil => exact .inl (by simp only [act, hready])
    | cons j js =>
      cases j with
      | connectionLost =>
        left
        simp only [act, hready, runJob]
        rw [requests_loseConnection]
      | run j =>
        by_cases hjk : j = k
        · exact .inr (.inl ⟨rfl, by simp [hjk]⟩)
        · left
          obtain ⟨g, hg⟩ := requests_runJob_run { s with ready := js } j
          simp only [act, hready]
          rw [hg, List.getElem?_modify]
          simp [hjk]

end Requests

section Steps

variable {s : Socket}

theorem nodup_append_fresh {l : List Nat} {i : Nat} (h : l.Nodup) (hi : i ∉ l) :
    (l ++ [i]).Nodup :=
  List.nodup_append.2 ⟨h, by simp, fun _ ha _ hb hab => hi (by simp_all)⟩

theorem Waits.setWritable (h : Waits s) : Waits s.setWritable := by
  unfold Socket.setWritable
  split
  · exact h
  · -- the writers join the ready list: the same requests wait, in another order
    have hperm : ({ s with writable := true, writers := [],
                           ready := s.ready ++ s.writers.map .run } : Socket).waiting.Perm
        s.waiting := by
      have hrun : (Job.request? ∘ Job.run) = some := rfl
      simp only [waiting, List.filterMap_append, List.filterMap_map, hrun, List.filterMap_some,
        List.append_nil, List.append_assoc]
      exact List.Perm.append_left _ List.perm_append_comm
    exact ⟨hperm.nodup_iff.2 h.nodup, fun i hi => h.lt i (hperm.subset hi), h.readers,
      by simp, fun _ => rfl⟩

theorem Waits.loseConnection (h : Waits s) : Waits s.loseConnection := by
  have h0 : Waits { s with lost := true } := h.moves ⟨rfl, rfl, rfl, rfl, List.Subset.refl _⟩
  have h1 : Waits ({ s with lost := true }.setWritable) := h0.setWritable
  simp only [Socket.loseConnection]
  split
  · refine Waits.moves ?_ (moves_put _ _)
    exact h1.moves ⟨rfl, rfl, rfl, rfl, List.Subset.refl _⟩
  · exact h1.moves (moves_put _ _)

theorem Waits.mark (h : Waits s) {i : Nat} (hi : i ∉ s.waiting) (p : Progress) :
    Waits (s.mark i p) := by
  have hother : ∀ k ∈ s.waiting, (s.mark i p).requests[k]? = s.requests[k]? := by
    intro k hk
    have hne : i ≠ k := fun hik => hi (hik ▸ hk)
    simp [Socket.mark, hne]
  refine ⟨h.nodup, ?_, ?_, ?_, h.idle⟩
  · intro k hk
    simpa [Socket.mark] using h.lt k hk
  · intro k (hk : k ∈ s.readers)
    rw [hother k (by simp [waiting, hk])]
    exact h.readers k hk
  · intro k (hk : k ∈ s.writers)
    rw [hother k (by simp [waiting, hk])]
    exact h.writers k hk

theorem Waits.finish (h : Waits s) {i : Nat} (hi : i ∉ s.waiting) (c : Completion) :
    Waits (s.finish i c) :=
  h.mark hi (.finished c)

theorem Waits.finish_moves (h : Waits s) {t : Socket} (hm : Moves s t) {i : Nat}
    (hi : i ∉ s.waiting) (c : Completion) : Waits (t.finish i c) :=
  (h.moves hm).finish (hm.waiting ▸ hi) c

theorem Waits.addReader (h : Waits s) {i : Nat} (hi : i ∉ s.waiting)
    (hlt : i < s.requests.length) (hreq : s.requests[i]? = some (.receive, .blocked)) :
    Waits { s with readers := s.readers ++ [i] } := by
  have hperm : ({ s with readers := s.readers ++ [i] } : Socket).waiting.Perm
      (s.waiting ++ [i]) := by
    simp only [waiting, List.append_assoc]
    exact List.Perm.append_left _ (List.Perm.append_left _ List.perm_append_comm)
  refine ⟨hperm.nodup_iff.2 (nodup_append_fresh h.nodup hi), ?_, ?_, h.writers, h.idle⟩
  · intro k hk
    rcases List.mem_append.1 (hperm.subset hk) with hk | hk
    · exact h.lt k hk
    · simp_all
  · intro k hk
    rcases List.mem_append.1 hk with hk | hk
    · exact h.readers k hk
    · simp_all

theorem Waits.addWriter (h : Waits s) {i : Nat} {data : List UInt8} (hi : i ∉ s.waiting)
    (hlt : i < s.requests.length) (hreq : s.requests[i]? = some (.send data, .blocked))
    (hw : s.writable = false) :
    Waits { s with writers := s.writers ++ [i] } := by
  have heq : ({ s with writers := s.writers ++ [i] } : Socket).waiting = s.waiting ++ [i] := by
    simp [waiting]
  refine ⟨heq ▸ nodup_append_fresh h.nodup hi, ?_, h.readers, ?_, by simp [hw]⟩
  · intro k hk
    rw [heq] at hk
    rcases List.mem_append.1 hk with hk | hk
    · exact h.lt k hk
    · simp_all
  · intro k hk
    rcases List.mem_append.1 hk with hk | hk
    · exact h.writers k hk
    · simp_all

theorem Waits.start (h : Waits s) (r : Request) : Waits (s.apply (.start r)) := by
  let n := s.requests.length
  have hperm : (s.apply (.start r)).waiting.Perm (s.waiting ++ [n]) := by
    simp only [apply, waiting, List.filterMap_append, List.filterMap_cons, Job.request?_run,
      List.filterMap_nil, List.append_assoc]
    refine List.Perm.append_left _ ?_
    simpa only [List.append_assoc] using @List.perm_append_comm _ [n] (s.readers ++ s.writers)
  have hfresh : n ∉ s.waiting := fun hn => Nat.lt_irrefl n (h.lt n hn)
  have hold : ∀ k ∈ s.waiting, (s.apply (.start r)).requests[k]? = s.requests[k]? :=
    fun k hk => List.getElem?_append_left (h.lt k hk)
  refine ⟨hperm.nodup_iff.2 (nodup_append_fresh h.nodup hfresh), ?_, ?_, ?_, h.idle⟩
  · intro k hk
    have hlen : (s.apply (.start r)).requests.length = n + 1 := by simp [apply, n]
    rw [hlen]
    rcases List.mem_append.1 (hperm.subset hk) with hk | hk
    · exact Nat.lt_succ_of_lt (h.lt k hk)
    · simp_all
  · intro k (hk : k ∈ s.readers)
    rw [hold k (by simp [waiting, hk])]
    exact h.readers k hk
  · intro k (hk : k ∈ s.writers)
    rw [hold k (by simp [waiting, hk])]
    exact h.writers k hk

theorem Waits.pop (h : Waits s) {j : Job} {js : List Job} (hready : s.ready = j :: js) :
    Waits { s with ready := js } ∧ ∀ i, j.request? = some i → i ∉ ({ s with ready := js }).waiting := by
  have heq : s.waiting = j.request?.toList ++ ({ s with ready := js } : Socket).waiting := by
    cases hj : j.request? <;> simp [waiting, hready, hj]
  have hnd := h.nodup
  rw [heq] at hnd
  refine ⟨⟨(List.nodup_append.1 hnd).2.1, fun i hi => h.lt i (by simp [heq, hi]), h.readers,
    h.writers, h.idle⟩, ?_⟩
  intro i hj hi
  rw [hj] at hnd
  exact (List.nodup_cons.1 hnd).1 hi

theorem Waits.transmit (h : Waits s) {i : Nat} (hi : i ∉ s.waiting) (data : List UInt8) :
    Waits (s.transmit i data) := by
  cases hc : s.isClosed
  · rcases Option.eq_none_or_eq_some s.heldFault with hf | ⟨f, hf⟩
    · rw [transmit_of_open hc hf]
      have hw : Waits (s.sendto data) := h.moves (moves_sendto s data)
      have hi' : i ∉ (s.sendto data).waiting := (moves_sendto s data).waiting ▸ hi
      unfold finishSend
      split
      · refine hw.finish_moves ?_ hi' _
        exact ⟨rfl, rfl, rfl, rfl, List.Subset.refl _⟩
      · exact hw.finish hi' _
    · rw [transmit_of_held hc hf]
      refine h.finish_moves ?_ hi _
      exact ⟨rfl, rfl, rfl, rfl, List.Subset.refl _⟩
  · rw [transmit_of_closed hc]
    exact h.finish hi _

theorem Waits.takeItem (h : Waits s) {i : Nat} (hi : i ∉ s.waiting) {p : Progress}
    (hreq : s.requests[i]? = some (.receive, p)) : Waits (s.takeItem i) := by
  have hlt : i < s.requests.length := (List.getElem?_eq_some_iff.1 hreq).1
  unfold Socket.takeItem
  split
  · -- no item: the receive joins the readers
    exact (h.mark hi .blocked).addReader hi (by simpa [Socket.mark] using hlt)
      (by simp [Socket.mark, hreq])
  · refine h.finish_moves ?_ hi _
    exact ⟨rfl, rfl, rfl, rfl, List.Subset.refl _⟩
  · refine h.finish_moves ?_ hi _
    exact ⟨rfl, rfl, rfl, rfl, List.Subset.refl _⟩
  · -- the closing mark is put back, which may wake a reader
    refine h.finish_moves (Moves.trans ?_ (moves_put _ _)) hi _
    exact ⟨rfl, rfl, rfl, rfl, List.Subset.refl _⟩

theorem Waits.runJob_run (h : Waits s) {i : Nat} (hi : i ∉ s.waiting) :
    Waits (s.runJob (.run i)) := by
  simp only [Socket.runJob]
  split
  · rename_i hreq
    exact h.takeItem hi hreq
  · rename_i hreq
    exact h.takeItem hi hreq
  · rename_i data hreq
    have hlt : i < s.requests.length := (List.getElem?_eq_some_iff.1 hreq).1
    split_ifs with hc hw
    · exact h.finish hi _
    · exact h.transmit hi data
    · -- the send waits to write
      have hreq' : (s.mark i .blocked).requests[i]? = some (.send data, .blocked) := by
        simp [Socket.mark, hreq]
      have hw' : (s.mark i .blocked).writable = false := by simpa [Socket.mark] using hw
      exact (h.mark hi .blocked).addWriter hi (by simpa [Socket.mark] using hlt) hreq' hw'
  · exact h.transmit hi _
  · exact h

theorem Waits.act (h : Waits s) : ∀ a, Waits (s.act a)
  | .event (.deliver d) => by
    simp only [Socket.act, apply]
    split
    · exact h.moves (moves_offer _ _)
    · exact h
  | .event (.reportFault f) => h.moves (moves_reportFault _ _)
  | .event (.failNextSend f) => h.moves ⟨rfl, rfl, rfl, rfl, List.Subset.refl _⟩
  | .event .loseConnection => h.loseConnection
  | .event .pauseWriting => ⟨h.nodup, h.lt, h.readers, h.writers, fun hw => nomatch hw⟩
  | .event .resumeWriting => h.setWritable
  | .event .close => h.moves (moves_close _)
  | .event (.start r) => h.start r
  | .job => by
    cases hready : s.ready with
    | nil =>
      simp only [Socket.act, hready]
      exact h
    | cons j js =>
      obtain ⟨ht, hfree⟩ := h.pop hready
      simp only [Socket.act, hready]
      cases j with
      | connectionLost => exact ht.loseConnection
      | run i => exact ht.runJob_run (hfree i rfl)

theorem Waits.play (h : Waits s) (as : List Action) : Waits (s.play as) := by
  induction as generalizing s with
  | nil => exact h
  | cons a as ih => exact ih (h.act a)

end Steps

/-- In every state a fresh socket reaches, every pending request waits in one place at
most, readers are waiting receives, writers are waiting sends, and no send waits to write
on a writable socket. -/
theorem waits_play (capacity : Int) (receiving : Bool) (as : List Action) :
    Waits ((init capacity receiving).play as) :=
  (Waits.init capacity receiving).play as

end Socket

end Transport

end VirtualMocap
