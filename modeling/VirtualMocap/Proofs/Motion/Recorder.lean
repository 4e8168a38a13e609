import VirtualMocap.Motion.Recording

/-!
# Cutting a stream into frames

Fed to a fresh recorder and flushed, a stream gives one frame per time marker, in order,
stamped with the marker's seconds and holding the messages after it
(`Recorder.cuts_at_markers`). The recorder is run block by block: messages grow the open
frame (`Recorder.feedAll_unmarked`), and a marker hands it out (`Recorder.feedAll_marks`).
-/

namespace VirtualMocap

namespace Motion

def Message.isTime : Message → Bool
  | .time _ => true
  | _ => false

def Frame.ofMark (mark : Binary32 × List Message) : Frame :=
  ⟨mark.1.toBinary64, mark.2⟩

def markedStream (marks : List (Binary32 × List Message)) : List Message :=
  marks.flatMap fun mark => .time mark.1 :: mark.2

namespace Recorder

/-! ## One message -/

@[simp] theorem feed_time (r : Recorder) (s : Binary32) :
    r.feed (.time s) = (⟨some { timeDelta := s.toBinary64 }⟩, r.current) := rfl

theorem feed_of_isTime_false {m : Message} (h : m.isTime = false) (r : Recorder) :
    r.feed m = (⟨r.current.map fun f => { f with messages := f.messages ++ [m] }⟩, none) := by
  cases m <;> simp_all [feed, Message.isTime]

@[simp] theorem feedAll_nil (r : Recorder) : r.feedAll [] = (r, []) := rfl

theorem feedAll_cons (r : Recorder) (m : Message) (ms : List Message) :
    r.feedAll (m :: ms) =
      (((r.feed m).1.feedAll ms).1, (r.feed m).2.toList ++ ((r.feed m).1.feedAll ms).2) := rfl

/-! ## Runs -/

theorem feedAll_append (r : Recorder) (xs ys : List Message) :
    r.feedAll (xs ++ ys) =
      (((r.feedAll xs).1.feedAll ys).1, (r.feedAll xs).2 ++ ((r.feedAll xs).1.feedAll ys).2) := by
  induction xs generalizing r with
  | nil => rfl
  | cons x xs ih => simp [feedAll_cons, ih]

/-- Messages that are no marker join the open frame, if any, and hand nothing out. -/
theorem feedAll_unmarked {ms : List Message} (h : ∀ m ∈ ms, m.isTime = false) (r : Recorder) :
    r.feedAll ms = (⟨r.current.map fun f => { f with messages := f.messages ++ ms }⟩, []) := by
  induction ms generalizing r with
  | nil => cases r with | mk c => cases c <;> simp
  | cons m ms ih =>
    rw [feedAll_cons, feed_of_isTime_false (h m (List.mem_cons_self ..)),
      ih (fun m' hm' => h m' (List.mem_cons_of_mem _ hm'))]
    cases r with
    | mk c => cases c <;> simp

/-- Run over blocks of a marker and what follows it, from a recorder whose open frame is
`c`: the frames handed out, then the one left open, are `c` and one frame per block. The
open frame carries the induction: after each block it is that block's frame. -/
theorem feedAll_marks (marks : List (Binary32 × List Message))
    (h : ∀ mark ∈ marks, ∀ m ∈ mark.2, m.isTime = false) (c : Option Frame) :
    ((⟨c⟩ : Recorder).feedAll (markedStream marks)).2 ++
        ((⟨c⟩ : Recorder).feedAll (markedStream marks)).1.current.toList =
      c.toList ++ marks.map Frame.ofMark := by
  induction marks generalizing c with
  | nil => simp [markedStream]
  | cons mark marks ih =>
    have hblock := feedAll_unmarked (h mark (List.mem_cons_self ..))
      ⟨some { timeDelta := mark.1.toBinary64 }⟩
    have hrest := ih (fun b hb => h b (List.mem_cons_of_mem _ hb))
      (some ⟨mark.1.toBinary64, mark.2⟩)
    simp only [markedStream, List.flatMap_cons, List.cons_append, feedAll_cons, feed_time,
      feedAll_append, hblock] at hrest ⊢
    simp only [Option.map_some, List.nil_append] at hrest ⊢
    rw [List.append_assoc, hrest]
    simp [Frame.ofMark]

theorem current_feedAll (r : Recorder) (ms : List Message) :
    (r.feedAll ms).1.current.isSome = (r.current.isSome || ms.any Message.isTime) := by
  induction ms generalizing r with
  | nil => simp
  | cons m ms ih =>
    rw [feedAll_cons, ih]
    cases hm : m.isTime with
    | true =>
      cases m <;> simp_all [Message.isTime]
    | false =>
      rw [feed_of_isTime_false hm]
      simp [hm]

/-- A stream fed to a fresh recorder and then flushed gives one frame per time marker, in
order, each stamped with its marker's seconds and holding exactly the messages between
that marker and the next one or the end; messages before the first marker are in no
frame. A feed hands out a frame exactly when it is given a marker and an earlier message
of the stream was one. -/
theorem cuts_at_markers :
    (∀ (pre : List Message) (marks : List (Binary32 × List Message)),
      (∀ m ∈ pre, m.isTime = false) → (∀ mark ∈ marks, ∀ m ∈ mark.2, m.isTime = false) →
        (empty.feedAll (pre ++ markedStream marks)).2 ++
            ((empty.feedAll (pre ++ markedStream marks)).1.flush.2).toList =
          marks.map Frame.ofMark) ∧
    ∀ (ms : List Message) (m : Message),
      ((empty.feedAll ms).1.feed m).2.isSome = (m.isTime && ms.any Message.isTime) := by
  refine ⟨fun pre marks hpre hmarks => ?_, fun ms m => ?_⟩
  · -- before the first marker no frame is open, and the blocks then run from there
    rw [feedAll_append, feedAll_unmarked hpre]
    simpa [empty, flush] using feedAll_marks marks hmarks none
  · -- a frame is open once a marker has been fed, and only a marker hands it out
    have hopen : (empty.feedAll ms).1.current.isSome = ms.any Message.isTime := by
      simpa [empty] using current_feedAll empty ms
    cases hm : m.isTime with
    | true =>
      cases m with
      | time s => simpa using hopen
      | _ => simp [Message.isTime] at hm
    | false =>
      rw [feed_of_isTime_false hm]
      rfl

/-- The recorder's own test stream: a blend value before the first marker is dropped, the
first marker's frame holds the two messages after it, and flushing hands out the second
marker's frame. -/
theorem cuts_at_markers_blend :
    (empty.feedAll ([.blendShape "A" ⟨0x3F800000⟩] ++
        markedStream [(⟨0x3F800000⟩, [.blendShape "A" ⟨0x3F000000⟩, .applyBlendShapes]),
          (⟨0x3FC00000⟩, [.state .loaded none])])).2 ++
        ((empty.feedAll ([.blendShape "A" ⟨0x3F800000⟩] ++
          markedStream [(⟨0x3F800000⟩, [.blendShape "A" ⟨0x3F000000⟩, .applyBlendShapes]),
            (⟨0x3FC00000⟩, [.state .loaded none])])).1.flush.2).toList =
      [⟨Binary32.toBinary64 ⟨0x3F800000⟩, [.blendShape "A" ⟨0x3F000000⟩, .applyBlendShapes]⟩,
        ⟨Binary32.toBinary64 ⟨0x3FC00000⟩, [.state .loaded none]⟩] :=
  cuts_at_markers.1 _ _ (by decide) (by decide)

end Recorder

end Motion

end VirtualMocap
