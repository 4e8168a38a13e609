import VirtualMocap.Proofs.Motion.LooseAdapters

/-!
# A recording file read back

For every lawful library, frames whose messages are as their classes make them and whose
texts hold no unpaired surrogate are written one line per frame and read back with each
NaN made canonical (`readFrames_writeFrames`); a frame without NaN comes back bit for bit
(`Frame.canon_of_noNaN`).
-/

namespace VirtualMocap

namespace Motion

open Json

/-! ## A frame on a line -/

section Lawful

variable {lib : Adapters}

/-- A frame as its line reads back: every NaN, of its time or of a message, made the
canonical NaN. -/
def Frame.canon (f : Frame) : Frame :=
  ⟨canonFloat f.timeDelta, f.messages.map (·.mapNumbers Binary32.canon)⟩

/-- A frame without NaN is its own canonical form. -/
theorem Frame.canon_of_noNaN {f : Frame} (ht : f.timeDelta.isNaN = false)
    (hm : ∀ m ∈ f.messages, m.hasNaN = false) : f.canon = f := by
  obtain ⟨t, ms⟩ := f
  simp only [Frame.canon, canonFloat, ht, Bool.false_eq_true, if_false, Frame.mk.injEq, true_and]
  exact (List.map_congr_left fun m hm' => Message.mapNumbers_canon_of_hasNaN (hm m hm')).trans
    (List.map_id' ms)

theorem Frame.canon_toJson (hlib : lib.Lawful) (f : Frame) : Json.canon (f.toJson lib) = f.canon.toJson lib := by
  simp [Frame.toJson, Frame.canon, Json.canon, Json.canonFields, canonItems_eq_map, Message.canon_toJson hlib]

theorem Frame.faithful_toJson (hlib : lib.Lawful) {f : Frame}
    (h : ∀ m ∈ f.messages, ∀ s ∈ m.texts, Text.Held s) : Faithful (f.toJson lib) := by
  have htime := (plain_of_ascii (s := "time_delta") (by simp)).1
  have hmessages := (plain_of_ascii (s := "messages") (by simp)).1
  simp [Frame.toJson, Faithful, FaithfulFields, faithfulItems_iff, htime, hmessages]
  intro m hm
  exact Message.faithful_toJson hlib (h m hm)

theorem Frame.nesting_toJson (hlib : lib.Lawful) (f : Frame) : nesting (f.toJson lib) ≤ 4 := by
  have hms : itemsNesting (f.messages.map (Message.toJson lib)) ≤ 2 :=
    itemsNesting_le fun v hv => by
      obtain ⟨m, -, rfl⟩ := List.mem_map.1 hv
      exact m.nesting_toJson hlib
  simp [Frame.toJson, nesting, fieldsNesting]
  omega

theorem Frame.plain_toJson (hlib : lib.Lawful) {f : Frame} (h : ∀ m ∈ f.messages, m.Utf8Texts) :
    Plain (f.toJson lib) := by
  have htime := (plain_of_ascii (s := "time_delta") (by simp)).2
  have hmessages := (plain_of_ascii (s := "messages") (by simp)).2
  simp [Frame.toJson, Plain, PlainFields, plainItems_iff, htime, hmessages]
  intro m hm
  exact Message.plain_toJson hlib (h m hm)

theorem readMessages_canon (hlib : lib.Lawful) {ms : List Message} (hms : ∀ m ∈ ms, m.Valid) :
    readMessages lib (ms.map fun m => (m.mapNumbers Binary32.canon).toJson lib) =
      .ok (ms.map (·.mapNumbers Binary32.canon)) := by
  induction ms with
  | nil => rfl
  | cons m ms ih =>
    simp [readMessages, Message.ofFields_canon hlib (hms m (List.mem_cons_self ..)),
      ih fun m' hm' => hms m' (List.mem_cons_of_mem _ hm')]

theorem Frame.ofJson_canon (hlib : lib.Lawful) {f : Frame} (hf : ∀ m ∈ f.messages, m.Valid) :
    Frame.ofJson lib (f.canon.toJson lib) = .ok f.canon := by
  have hms := readMessages_canon hlib hf
  simp [Frame.ofJson, Frame.toJson, Frame.canon, asFloat?, elements, List.map_map, Function.comp_def,
    Except.mapError, hms]

/-! ## The file -/

theorem writeFrames_eq_ok {fs : List Frame} (h : ∀ f ∈ fs, Plain (f.toJson lib)) :
    writeFrames lib fs = .ok (String.join (fs.map fun f => write Style.spaced (f.toJson lib) ++ "\n")) := by
  induction fs with
  | nil => rfl
  | cons f fs ih =>
    have hline := OneLine.hasSurrogate_eq_false (oneLine_write (h f (List.mem_cons_self ..)))
    rw [String.ofList_toList] at hline
    have hnone : Text.surrogateRun? (write Style.spaced (f.toJson lib)) = none := by
      rw [Text.surrogateRun?_eq_none_iff]
      simpa [Text.hasSurrogate] using hline
    simp [writeFrames, hnone, ih fun f' hf' => h f' (List.mem_cons_of_mem _ hf'), String.append_assoc]

theorem lines_of_written {fs : List Frame} (h : ∀ f ∈ fs, Plain (f.toJson lib)) :
    Text.lines (String.join (fs.map fun f => write Style.spaced (f.toJson lib) ++ "\n")) =
      fs.map (fun f => write Style.spaced (f.toJson lib)) ++ [""] := by
  have hls := @Text.lines_join (fs.map fun f => write Style.spaced (f.toJson lib)) fun l hl => by
    obtain ⟨f, hf, rfl⟩ := List.mem_map.1 hl
    exact OneLine.ne_lineEnd (oneLine_write (h f hf))
  simpa [List.map_map, Function.comp_def] using hls

theorem readLines_written (hlib : lib.Lawful) {fs : List Frame} (h : ∀ f ∈ fs, ∀ m ∈ f.messages, m.Valid) :
    readLines lib (fs.map (fun f => write Style.spaced (f.toJson lib)) ++ [""]) = .ok (fs.map Frame.canon) := by
  induction fs with
  | nil => rfl
  | cons f fs ih =>
    obtain ⟨mid, hbraced⟩ : ∃ mid, (write Style.spaced (f.toJson lib)).toList = '{' :: mid ++ ['}'] :=
      ⟨_, by rw [Frame.toJson, toList_write_obj]⟩
    -- the line has no blank to trim and is no blank line
    have htext : String.ofList (Text.trimBlanks (write Style.spaced (f.toJson lib)).toList) =
        write Style.spaced (f.toJson lib) := by
      rw [hbraced, Text.trimBlanks_braced, ← hbraced, String.ofList_toList]
    have hempty : (write Style.spaced (f.toJson lib)).isEmpty = false := by
      refine Bool.eq_false_iff.2 fun he => ?_
      have := congrArg String.toList (String.isEmpty_iff.1 he)
      rw [hbraced] at this
      simp at this
    have hf := h f (List.mem_cons_self ..)
    have hread : readWithin lineNesting (write Style.spaced (f.toJson lib)) = .ok (Json.canon (f.toJson lib)) :=
      readWithin_write (Frame.faithful_toJson hlib fun m hm => (hf m hm).2)
        ((f.nesting_toJson hlib).trans (by decide))
    simp [readLines, htext, hempty, hread, Frame.canon_toJson hlib, Frame.ofJson_canon hlib hf,
      ih fun f' hf' => h f' (List.mem_cons_of_mem _ hf')]

/-- Frames whose texts are held and hold no unpaired surrogate are written one per line and
read back, each NaN made canonical. -/
theorem readFrames_writeFrames (hlib : lib.Lawful) {fs : List Frame}
    (h : ∀ f ∈ fs, ∀ m ∈ f.messages, m.Valid ∧ m.Utf8Texts) :
    ∃ text, writeFrames lib fs = .ok text ∧
      Text.lines text = fs.map (fun f => write Style.spaced (f.toJson lib)) ++ [""] ∧
      readFrames lib text = .ok (fs.map Frame.canon) := by
  have hplain : ∀ f ∈ fs, Plain (f.toJson lib) := fun f hf =>
    Frame.plain_toJson hlib fun m hm => (h f hf m hm).2
  refine ⟨_, writeFrames_eq_ok hplain, lines_of_written hplain, ?_⟩
  rw [readFrames, lines_of_written hplain]
  exact readLines_written hlib fun f hf m hm => (h f hf m hm).1

end Lawful

/-! ## The round trip of a recording -/

/-- For a lawful library, a message as its class makes it reads back from its recording
form as itself, and through JSON text with each NaN made canonical. Frames of such
messages whose texts hold no unpaired surrogate are written one per line and read back,
each NaN made canonical; a message or frames without NaN come back bit for bit. -/
theorem recording_roundtrip (lib : Adapters) (hlib : lib.Lawful) (m : Message) (fs : List Frame) :
    (m.Valid → Message.ofFields lib (m.toJson lib) = .ok m) ∧
    (m.Valid → ∀ room, 2 ≤ room →
      ∃ v, readWithin room (write Style.spaced (m.toJson lib)) = .ok v ∧
        Message.ofFields lib v = .ok (m.mapNumbers Binary32.canon)) ∧
    ((∀ f ∈ fs, ∀ m ∈ f.messages, m.Valid ∧ m.Utf8Texts) →
      ∃ text, writeFrames lib fs = .ok text ∧
        Text.lines text = fs.map (fun f => write Style.spaced (f.toJson lib)) ++ [""] ∧
        readFrames lib text = .ok (fs.map Frame.canon)) ∧
    (m.hasNaN = false → m.mapNumbers Binary32.canon = m) ∧
    ((∀ f ∈ fs, f.timeDelta.isNaN = false ∧ ∀ m ∈ f.messages, m.hasNaN = false) →
      fs.map Frame.canon = fs) := by
  refine ⟨Message.ofFields_toJson hlib, fun hm room hroom => ?_, readFrames_writeFrames hlib,
    Message.mapNumbers_canon_of_hasNaN, fun hfs => ?_⟩
  · exact ⟨_, Message.readWithin_write hlib hm.2 hroom, Message.ofFields_canon hlib hm⟩
  · exact (List.map_congr_left fun f hf => Frame.canon_of_noNaN (hfs f hf).1 (hfs f hf).2).trans
      (List.map_id' fs)

theorem recording_roundtrip_frame :
    Adapters.loose.Lawful ∧
      ∃ text, writeFrames .loose [⟨Binary64.nan, [.configRequest "x"]⟩] = .ok text ∧
        Text.lines text = [write Style.spaced (Frame.toJson .loose ⟨Binary64.nan, [.configRequest "x"]⟩), ""] ∧
        readFrames .loose text = .ok [Frame.canon ⟨Binary64.nan, [.configRequest "x"]⟩] := by
  have hx := plain_of_ascii (s := "x") (by simp)
  refine ⟨Adapters.loose_lawful, ?_⟩
  exact (recording_roundtrip .loose Adapters.loose_lawful (.configRequest "x")
    [⟨Binary64.nan, [.configRequest "x"]⟩]).2.2.1
    (by simp [Message.Valid, Message.Utf8Texts, Message.texts, Message.numbers, hx.1, hx.2])

/-- The two places where the file does not give the frames back: a text with an unpaired
surrogate cannot be written as UTF-8, and a NaN with its sign bit set comes back as the
canonical NaN. -/
theorem recording_roundtrip_limits :
    (∃ run, writeFrames .loose [⟨Binary64.nan, [.configRequest (Text.ofCodePoints [.surrogate 0xD800])]⟩] =
      .error run) ∧
    ∃ text, writeFrames .loose [⟨⟨0xfff8000000000000⟩, []⟩] = .ok text ∧
      readFrames .loose text = .ok [⟨Binary64.nan, []⟩] ∧ Binary64.nan ≠ ⟨0xfff8000000000000⟩ := by
  constructor
  · have hfail : (writeFrames .loose
        [⟨Binary64.nan, [.configRequest (Text.ofCodePoints [.surrogate 0xD800])]⟩]).isOk = false := by
      decide +kernel
    cases hw : writeFrames .loose [⟨Binary64.nan, [.configRequest (Text.ofCodePoints [.surrogate 0xD800])]⟩] with
    | error run => exact ⟨run, rfl⟩
    | ok text => simp [hw, Except.isOk, Except.toBool] at hfail
  obtain ⟨text, hw, -, hr⟩ := @readFrames_writeFrames _ Adapters.loose_lawful [⟨⟨0xfff8000000000000⟩, []⟩]
    (by simp)
  refine ⟨text, hw, ?_, by decide⟩
  have hnan : (⟨0xfff8000000000000⟩ : Binary64).isNaN = true := by decide
  simp [hr, Frame.canon, Json.canonFloat, hnan]

end Motion

end VirtualMocap
