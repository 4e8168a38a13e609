import VirtualMocap.Proofs.Json.Loose
import VirtualMocap.Proofs.Motion.RecordingForm
import VirtualMocap.Motion.Fields

/-!
# The loose adapters are lawful

The program records with `Adapters.loose`, which meets every law of `Adapters.Lawful`
(`Adapters.loose_lawful`). Each field's writer is read back by its loose reader
(`looseSingle_single`, `looseVec3_toJson`, `looseWord_word`, the `readCode` lemmas), so
`readKind` gives each kind back (`readKind_fieldList`); each written field is JSON data
of its message, and canonical NaNs in a message are canonical NaNs in its fields.
-/

namespace VirtualMocap

namespace Motion

open Json

/-! ## Each field read back -/

theorem looseSingle_single (x : Binary32) : looseSingle (single x) = .ok x.quiet := by
  simp [looseSingle, single, looseFloat, textOf?, Binary32.ofBinary64?_toBinary64]

theorem map_range_eq_ok {α : Type} {f : ℕ → Checked α} {xs : List α}
    (h : ∀ i (hi : i < xs.length), f i = .ok xs[i]) : (List.range xs.length).map f = xs.map .ok := by
  apply List.ext_getElem (by simp)
  intro i h1 h2
  simp [h i (by simpa using h1)]

theorem looseSingles_singles (names : List String) {xs : List Binary32}
    (hlen : xs.length = names.length) :
    looseSingles names (.arr (xs.map single)) = .ok (xs.map Binary32.quiet) := by
  have hissues : ((xs.map Binary32.quiet).map (Except.ok : Binary32 → Checked Binary32)).flatMap
      Checked.issues = [] := by
    simp [List.flatMap_map, Checked.issues]
  simp only [looseSingles, List.length_map, hlen, gt_iff_lt, lt_self_iff_false, if_false]
  rw [← hlen, ← List.length_map (f := Binary32.quiet), map_range_eq_ok fun i hi => by
    simp [List.getElem?_eq_getElem (by simpa using hi), looseSingle_single, Checked.under], hissues]
  simp [List.filterMap_map]

theorem looseVec3_toJson (v : Vec3) :
    looseVec3 (.arr (v.toList.map single)) = .ok (v.map Binary32.quiet) := by
  have hs := looseSingles_singles ["x", "y", "z"] (show v.toList.length = 3 from rfl)
  rw [looseVec3, hs]
  rfl

theorem looseQuat_toJson (q : Quat) :
    looseQuat (.arr (q.toList.map single)) = .ok (q.map Binary32.quiet) := by
  have hs := looseSingles_singles ["x", "y", "z", "w"] (show q.toList.length = 4 from rfl)
  rw [looseQuat, hs]
  rfl

theorem looseColor_toJson (c : Color) :
    looseColor (.arr (c.toList.map single)) = .ok (c.map Binary32.quiet) := by
  have hs := looseSingles_singles ["r", "g", "b", "a"] (show c.toList.length = 4 from rfl)
  rw [looseColor, hs]
  rfl

theorem looseWord_word (n : Int32) : looseWord (word n) = .ok n := by
  obtain ⟨hlo, hhi⟩ := Bytes.toInt_range_int32 n
  have hhi' : n.toInt ≤ (twoPow 31 : Int) - 1 := by omega
  simp [looseWord, word, Json.looseInt_int, bounded, Int.not_lt.2 hlo, Int.not_lt.2 hhi', Except.map,
    Int32.ofInt_toInt]

theorem ModelState.code_lt (x : ModelState) : x.code < 10 := by
  cases x <;> decide

theorem CalibrationMode.code_lt (x : CalibrationMode) : x.code < 10 := by
  cases x <;> decide

theorem CalibrationState.code_lt (x : CalibrationState) : x.code < 10 := by
  cases x <;> decide

theorem TrackingState.code_lt (x : TrackingState) : x.code < 10 := by
  cases x <;> decide

theorem InputAction.code_lt (x : InputAction) : x.code < 10 := by
  cases x <;> decide

theorem ModelState.readCode (x : ModelState) : intMember ModelState.ofCode? (.int x.code) = .ok x :=
  intMember_code (fun x => by cases x <;> rfl) ModelState.code_lt x

theorem CalibrationMode.readCode (x : CalibrationMode) :
    intMember CalibrationMode.ofCode? (.int x.code) = .ok x :=
  intMember_code (fun x => by cases x <;> rfl) CalibrationMode.code_lt x

theorem CalibrationState.readCode (x : CalibrationState) :
    intMember CalibrationState.ofCode? (.int x.code) = .ok x :=
  intMember_code (fun x => by cases x <;> rfl) CalibrationState.code_lt x

theorem TrackingState.readCode (x : TrackingState) :
    intMember TrackingState.ofCode? (.int x.code) = .ok x :=
  intMember_code (fun x => by cases x <;> rfl) TrackingState.code_lt x

theorem InputAction.readCode (x : InputAction) : intMember InputAction.ofCode? (.int x.code) = .ok x :=
  intMember_code (fun x => by cases x <;> rfl) InputAction.code_lt x

theorem strMember_segment (d : DeviceType) :
    strMember DeviceType.ofSegment? (.str d.segment) = .ok d := by
  cases d <;> decide

/-! ## Each kind read back -/

theorem readKind_fieldList (m : Message) :
    readKind m.typeName m.fieldList = some (.ok (m.mapNumbers Binary32.quiet)) := by
  rcases m with ⟨p, r, _ | ⟨s, o⟩⟩ | _ | _ | _ | _ | ⟨_, _ | ⟨_, _, _ | _⟩⟩ | _ | _ | _ | _ | _ | _ | _ | _ |
    ⟨_, _, _ | _⟩ | _ | _ | _ | _ | ⟨_, _, _ | _⟩
  all_goals
    simp only [readKind, Message.typeName, Message.fieldList, Message.mapNumbers, required, Json.optional,
      fieldOr, Json.lookup_cons, String.reduceEq, beq_iff_eq, ↓reduceIte, Option.bind_none, Option.bind_some,
      Option.getD_none, Option.getD_some, Option.isNone_iff_eq_none, Option.isSome_none, Option.isSome_some,
      Option.map_none, Option.map_some, ExceptT.stM_eq, except_ok_bind, except_pure, both_ok, Checked.map_ok,
      Checked.under_ok, Vec3.toJson, Quat.toJson, Color.toJson, looseVec3_toJson, looseQuat_toJson,
      looseColor_toJson, looseWord_word, looseSingle_single, Json.looseBool_bool, strictString, strMember_segment,
      optionalText, recordCheck, ModelState.readCode, CalibrationMode.readCode, CalibrationState.readCode,
      TrackingState.readCode, InputAction.readCode]

theorem Adapters.loose_validate {name : String} {fields : List (String × Json)} {m : Message}
    (hplain : ∀ kv ∈ fields, Text.hasSurrogate kv.1 = false) (hread : readKind name fields = some (.ok m)) :
    Adapters.loose.validate name (fields.map fun kv => (.str kv.1, kv.2)) = .ok m := by
  have hkeys : extraKeyIssues false (fields.map fun kv => .str kv.1) = some [] := by
    simpa [Function.comp_def] using @extraKeyIssues_plain (fields.map (·.1)) (by simpa using hplain)
  simp [Adapters.loose, List.filterMap_map, Function.comp_def, hread, hkeys, withKeyIssues, Checked.issues]

/-! ## The fields as data -/

theorem Message.fieldList_names (m : Message) : m.fieldList.map (·.1) = m.fieldNames := by
  cases m <;> rfl

theorem DeviceType.segment_ascii (d : DeviceType) :
    ∀ c ∈ d.segment.toList, 0x20 ≤ c.toNat ∧ c.toNat < 0x80 := by
  cases d <;> simp [DeviceType.segment]

section DumpValue

variable (m : Message)

theorem dumpValue_singles (xs : List Binary32) : m.DumpValue (.arr (xs.map single)) := by
  have h := Message.DumpValue.floats (m := m) (xs.map Binary32.toBinary64)
  rwa [List.map_map] at h

@[simp] theorem dumpValue_single (x : Binary32) : m.DumpValue (single x) :=
  .float _

@[simp] theorem dumpValue_vec3 (v : Vec3) : m.DumpValue v.toJson :=
  dumpValue_singles m v.toList

@[simp] theorem dumpValue_quat (q : Quat) : m.DumpValue q.toJson :=
  dumpValue_singles m q.toList

@[simp] theorem dumpValue_color (c : Color) : m.DumpValue c.toJson :=
  dumpValue_singles m c.toList

@[simp] theorem dumpValue_word (n : Int32) : m.DumpValue (word n) := by
  obtain ⟨hlo, hhi⟩ := Bytes.toInt_range_int32 n
  refine .int ?_
  simp only [Bytes.twoPow_eq, Nat.reducePow] at hlo hhi ⊢
  omega

theorem dumpValue_code {n : ℕ} (h : n < 10) : m.DumpValue (.int n) :=
  .int (by simp only [Int.natAbs_natCast, Bytes.twoPow_eq, Nat.reducePow]; omega)

@[simp] theorem dumpValue_segment (d : DeviceType) : m.DumpValue (.str d.segment) :=
  .word d.segment_ascii

end DumpValue

theorem Message.dumpValue_fieldList (m : Message) : ∀ kv ∈ m.fieldList, m.DumpValue kv.2 := by
  rcases m with ⟨p, r, _ | ⟨s, o⟩⟩ | _ | _ | _ | _ | ⟨_, _ | ⟨_, _, _ | _⟩⟩ | _ | _ | _ | _ | _ | _ | _ | _ |
    ⟨_, _, _ | _⟩ | _ | _ | _ | _ | ⟨_, _, _ | _⟩
  -- texts are the message's own; flags, codes and absent fields are data as they are
  all_goals simp [Message.fieldList, optionalText, Message.texts, Message.dumpValue_str, Message.DumpValue.null,
    Message.DumpValue.bool, dumpValue_code, ModelState.code_lt, CalibrationMode.code_lt, CalibrationState.code_lt,
    TrackingState.code_lt, InputAction.code_lt]
  exact .inr (DeviceType.segment_ascii _)

theorem canon_single (x : Binary32) : canon (single x) = single x.canon := by
  simp [single, canon, canonFloat_toBinary64]

@[simp] theorem Vec3.canon_toJson (v : Vec3) : canon v.toJson = (v.map Binary32.canon).toJson := by
  simp [Vec3.toJson, Vec3.toList, Vec3.map, canon, canonItems, canon_single]

@[simp] theorem Quat.canon_toJson (q : Quat) : canon q.toJson = (q.map Binary32.canon).toJson := by
  simp [Quat.toJson, Quat.toList, Quat.map, canon, canonItems, canon_single]

@[simp] theorem Color.canon_toJson (c : Color) : canon c.toJson = (c.map Binary32.canon).toJson := by
  simp [Color.toJson, Color.toList, Color.map, canon, canonItems, canon_single]

theorem Message.fieldList_mapNumbers_canon (m : Message) :
    (m.mapNumbers Binary32.canon).fieldList = m.fieldList.map fun kv => (kv.1, canon kv.2) := by
  rcases m with ⟨p, r, _ | ⟨s, o⟩⟩ | _ | _ | _ | _ | ⟨_, _ | ⟨_, _, _ | _⟩⟩ | _ | _ | _ | _ | _ | _ | _ | _ |
    ⟨_, _, _ | _⟩ | _ | _ | _ | _ | ⟨_, _, _ | _⟩
  all_goals simp [Message.fieldList, Message.mapNumbers, canon, canon_single, word, optionalText]

/-! ## The loose adapters -/

theorem Adapters.loose_lawful : Adapters.loose.Lawful where
  dump_names := Message.fieldList_names
  dump_value := Message.dumpValue_fieldList
  dump_canon := Message.fieldList_mapNumbers_canon
  validate_dump m hm := by
    have hread := readKind_fieldList m
    rw [Message.mapNumbers_of_fixed hm.1] at hread
    refine Adapters.loose_validate (fun kv hkv => ?_) hread
    have hname : kv.1 ∈ m.fieldNames := by
      rw [← m.fieldList_names]
      exact List.mem_map_of_mem hkv
    exact (plain_of_ascii (m.fieldNames_ascii _ hname).2).2

end Motion

end VirtualMocap
