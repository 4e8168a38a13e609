import VirtualMocap.Proofs.Json.Line
import VirtualMocap.Proofs.Motion.Catalog
import VirtualMocap.Proofs.Osc.ReadBack
import VirtualMocap.Motion.Recording

/-!
# A message's recording form read back

A message is recorded as its kind's name under `type` and the fields a validating library
dumps. `Adapters.Lawful` states what the form needs of that library, and for every lawful
library a message reads back from its form (`Message.ofFields_toJson`) and from the form's
JSON text, each NaN made canonical (`Message.readWithin_write`).
-/

namespace VirtualMocap

namespace Json

@[simp] theorem sameKey_str (s t : String) : sameKey (.str s) (.str t) = (s == t) :=
  rfl

/-! ## Lists of values -/

theorem canonItems_eq_map : ∀ items : List Json, canonItems items = items.map canon
  | [] => rfl
  | v :: rest => by rw [canonItems, canonItems_eq_map rest, List.map_cons]

theorem canonFields_eq_map :
    ∀ fields : List (String × Json), canonFields fields = fields.map fun kv => (kv.1, canon kv.2)
  | [] => rfl
  | (k, v) :: rest => by rw [canonFields, canonFields_eq_map rest, List.map_cons]

theorem faithfulItems_iff : ∀ {items : List Json}, FaithfulItems items ↔ ∀ v ∈ items, Faithful v
  | [] => by simp [FaithfulItems]
  | v :: rest => by simp [FaithfulItems, @faithfulItems_iff rest]

theorem faithfulFields_iff : ∀ {fields : List (String × Json)},
    FaithfulFields fields ↔ ∀ kv ∈ fields, Text.Held kv.1 ∧ Faithful kv.2
  | [] => by simp [FaithfulFields]
  | (k, v) :: rest => by simp [FaithfulFields, @faithfulFields_iff rest, and_assoc]

theorem plainItems_iff : ∀ {items : List Json}, PlainItems items ↔ ∀ v ∈ items, Plain v
  | [] => by simp [PlainItems]
  | v :: rest => by simp [PlainItems, @plainItems_iff rest]

theorem plainFields_iff : ∀ {fields : List (String × Json)},
    PlainFields fields ↔ ∀ kv ∈ fields, Text.hasSurrogate kv.1 = false ∧ Plain kv.2
  | [] => by simp [PlainFields]
  | (k, v) :: rest => by simp [PlainFields, @plainFields_iff rest, and_assoc]

theorem itemsNesting_le {n : ℕ} : ∀ {items : List Json}, (∀ v ∈ items, nesting v ≤ n) →
    itemsNesting items ≤ n
  | [], _ => Nat.zero_le n
  | v :: rest, h => by
    rw [itemsNesting]
    exact max_le (h v (List.mem_cons_self ..)) (itemsNesting_le fun w hw => h w (List.mem_cons_of_mem _ hw))

theorem fieldsNesting_le {n : ℕ} : ∀ {fields : List (String × Json)}, (∀ kv ∈ fields, nesting kv.2 ≤ n) →
    fieldsNesting fields ≤ n
  | [], _ => Nat.zero_le n
  | (k, v) :: rest, h => by
    rw [fieldsNesting]
    exact max_le (h (k, v) (List.mem_cons_self ..))
      (fieldsNesting_le fun kv hkv => h kv (List.mem_cons_of_mem _ hkv))

theorem foldl_setField_fresh : ∀ {acc more : List (String × Json)}, (more.map (·.1)).Nodup →
    (∀ kv ∈ more, kv.1 ∉ acc.map (·.1)) →
    more.foldl (fun acc kv => setField acc kv.1 kv.2) acc = acc ++ more
  | acc, [], _, _ => by simp
  | acc, (k, v) :: rest, hnodup, hfresh => by
    simp only [List.map_cons, List.nodup_cons] at hnodup
    have hk : k ∉ acc.map (·.1) := hfresh (k, v) (List.mem_cons_self ..)
    have hany : acc.any (·.1 == k) = false := by
      rw [List.any_eq_false]
      intro kv hkv heq
      exact hk (List.mem_map.2 ⟨kv, hkv, by simpa using heq⟩)
    -- the keys after `k` are new to the fields with `k` set
    have hrest : ∀ kv ∈ rest, kv.1 ∉ (acc ++ [(k, v)]).map (·.1) := by
      intro kv hkv hmem
      rw [List.map_append, List.mem_append] at hmem
      rcases hmem with hmem | hmem
      · exact hfresh kv (List.mem_cons_of_mem _ hkv) hmem
      · have hkey : kv.1 = k := by simpa using hmem
        exact hnodup.1 (List.mem_map.2 ⟨kv, hkv, hkey⟩)
    rw [List.foldl_cons, setField, hany, if_neg Bool.false_ne_true, foldl_setField_fresh hnodup.2 hrest]
    simp

end Json

namespace Motion

open Json

/-! ## Numbers of a message -/

def Vec3.map (f : Binary32 → Binary32) (v : Vec3) : Vec3 := ⟨f v.x, f v.y, f v.z⟩

def Quat.map (f : Binary32 → Binary32) (q : Quat) : Quat := ⟨f q.x, f q.y, f q.z, f q.w⟩

def Color.map (f : Binary32 → Binary32) (c : Color) : Color := ⟨f c.r, f c.g, f c.b, f c.a⟩

/-- A message with a map applied to every single-precision number it carries. -/
def Message.mapNumbers (f : Binary32 → Binary32) : Message → Message
  | .rootTransform p r so =>
    .rootTransform (p.map f) (r.map f) (so.map fun so => (so.1.map f, so.2.map f))
  | .boneTransform b p r => .boneTransform b (p.map f) (r.map f)
  | .deviceTransform d j p r l => .deviceTransform d j (p.map f) (r.map f) l
  | .blendShape k v => .blendShape k (f v)
  | .time s => .time (f s)
  | .cameraTransform n p r v => .cameraTransform n (p.map f) (r.map f) (f v)
  | .controllerInput a n l t x ax => .controllerInput a n l t x (ax.map f)
  | .midiNote a c n v => .midiNote a c n (f v)
  | .midiControlValue k v => .midiControlValue k (f v)
  | .directionalLight n p r c => .directionalLight n (p.map f) (r.map f) (c.map f)
  | m => m

theorem Message.numbers_mapNumbers (f : Binary32 → Binary32) (m : Message) :
    (m.mapNumbers f).numbers = m.numbers.map f := by
  rcases m with ⟨p, r, _ | ⟨s, o⟩⟩ | _ | _ | _ | _ | _ | _ | _ | _ | _ | _ | _ | _ | _ | _ | _ | _ | _ |
    _ | _
  all_goals simp [Message.mapNumbers, Message.numbers, Vec3.map, Quat.map, Color.map, Vec3.toList,
    Quat.toList, Color.toList]

theorem Message.mapNumbers_of_fixed {f : Binary32 → Binary32} {m : Message}
    (h : ∀ x ∈ m.numbers, f x = x) : m.mapNumbers f = m := by
  rcases m with ⟨p, r, _ | ⟨s, o⟩⟩ | _ | _ | _ | _ | _ | _ | _ | _ | _ | _ | _ | _ | _ | _ | _ | _ | _ |
    _ | _
  all_goals simp_all [Message.mapNumbers, Message.numbers, Vec3.map, Quat.map, Color.map, Vec3.toList,
    Quat.toList, Color.toList]

theorem canonFloat_toBinary64 (x : Binary32) : canonFloat x.toBinary64 = x.canon.toBinary64 := by
  unfold canonFloat Binary32.canon
  rw [Binary32.isNaN_toBinary64]
  split
  · exact Binary32.toBinary64_canonNaN.symm
  · rfl

theorem Message.mapNumbers_canon_of_hasNaN {m : Message} (h : m.hasNaN = false) :
    m.mapNumbers Binary32.canon = m := by
  have hnum : ∀ x ∈ m.numbers, x.isNaN = false := by
    simpa [Message.hasNaN] using h
  exact Message.mapNumbers_of_fixed fun x hx => Binary32.canon_of_isNaN_eq_false (hnum x hx)

theorem Message.texts_mapNumbers (f : Binary32 → Binary32) (m : Message) :
    (m.mapNumbers f).texts = m.texts := by
  cases m <;> rfl

theorem Message.typeName_mapNumbers (f : Binary32 → Binary32) (m : Message) :
    (m.mapNumbers f).typeName = m.typeName := by
  cases m <;> rfl

theorem Message.Valid.mapNumbers_canon {m : Message} (hm : m.Valid) :
    (m.mapNumbers Binary32.canon).Valid := by
  refine ⟨fun x hx => ?_, by rw [Message.texts_mapNumbers]; exact hm.2⟩
  rw [Message.numbers_mapNumbers] at hx
  obtain ⟨y, -, rfl⟩ := List.mem_map.1 hx
  exact Binary32.quiet_canon y

/-! ## The laws of a validating library -/

/-- The names of a message's fields, in the order its kind declares them. -/
def Message.fieldNames : Message → List String
  | .rootTransform .. => ["position", "rotation", "scale", "offset"]
  | .boneTransform .. => ["bone", "position", "rotation"]
  | .deviceTransform .. => ["device", "joint", "position", "rotation", "local"]
  | .blendShape .. => ["key", "value"]
  | .applyBlendShapes => []
  | .state .. => ["model_state", "calibration_mode", "calibration_state", "tracking_state"]
  | .time .. => ["seconds"]
  | .cameraTransform .. => ["name", "position", "rotation", "fov"]
  | .controllerInput .. => ["action", "name", "is_left", "is_touch", "is_axis", "axis"]
  | .keyInput .. => ["action", "name", "keycode"]
  | .midiNote .. => ["active", "channel", "note", "velocity"]
  | .midiControlValue .. => ["knob", "value"]
  | .midiControlButton .. => ["knob", "active"]
  | .directionalLight .. => ["name", "position", "rotation", "color"]
  | .receiveEnable .. => ["enable", "port", "address"]
  | .sendPeriod .. => ["status", "root", "bone", "blend_shape", "camera", "devices"]
  | .calibrationReady => []
  | .calibrationExec .. => ["mode"]
  | .configRequest .. => ["path"]
  | .loadedModel .. => ["path", "title", "hash"]

/-- The JSON data that a dump gives a field of `m`: nothing, a flag, an integer of at most
32 bits, a number or a list of numbers, one of the message's own texts, or a printable
ASCII word naming a member of an enumeration. -/
inductive Message.DumpValue (m : Message) : Json → Prop
  | null : m.DumpValue .null
  | bool (b : Bool) : m.DumpValue (.bool b)
  | int {n : Int} : n.natAbs < twoPow 32 → m.DumpValue (.int n)
  | float (x : Binary64) : m.DumpValue (.float x)
  | floats (xs : List Binary64) : m.DumpValue (.arr (xs.map .float))
  | text {s : String} : s ∈ m.texts → m.DumpValue (.str s)
  | word {s : String} : (∀ c ∈ s.toList, 0x20 ≤ c.toNat ∧ c.toNat < 0x80) → m.DumpValue (.str s)

/-- The laws that recording relies on. A dump names the fields that the message's kind
declares, in order, and gives each JSON data; dumping a message whose NaNs are made
canonical makes the dump's NaNs canonical; and a message as its class makes it is
validated back from its dump under its kind's name. -/
structure Adapters.Lawful (lib : Adapters) : Prop where
  dump_names : ∀ m, (lib.dump m).map (·.1) = m.fieldNames
  dump_value : ∀ m, ∀ kv ∈ lib.dump m, m.DumpValue kv.2
  dump_canon : ∀ m, lib.dump (m.mapNumbers Binary32.canon) = (lib.dump m).map fun kv => (kv.1, canon kv.2)
  validate_dump : ∀ m, m.Valid →
    lib.validate m.typeName ((lib.dump m).map fun kv => (.str kv.1, kv.2)) = .ok m

/-! ## What a dump gives -/

theorem Message.dumpValue_str {m : Message} {s : String} :
    m.DumpValue (.str s) ↔ s ∈ m.texts ∨ ∀ c ∈ s.toList, 0x20 ≤ c.toNat ∧ c.toNat < 0x80 := by
  constructor
  · intro h
    cases h with
    | text hs => exact .inl hs
    | word hs => exact .inr hs
  · rintro (hs | hs)
    · exact .text hs
    · exact .word hs

theorem Message.DumpValue.faithful {m : Message} (hm : ∀ s ∈ m.texts, Text.Held s) {v : Json}
    (h : m.DumpValue v) : Faithful v := by
  cases h with
  | null | bool | float => simp [Faithful]
  | int hn =>
    have hlen := (Nat.length_toDigits_le_iff (b := 10) (k := 10) (by norm_num) (by norm_num)).2
      (hn.trans (by decide))
    simp only [Faithful, Decimal.maxIntDigits]
    omega
  | floats xs =>
    refine faithfulItems_iff.2 fun v hv => ?_
    obtain ⟨x, -, rfl⟩ := List.mem_map.1 hv
    simp [Faithful]
  | text hs => exact hm _ hs
  | word hs => exact (plain_of_ascii hs).1

theorem Message.DumpValue.plain {m : Message} (hm : m.Utf8Texts) {v : Json} (h : m.DumpValue v) :
    Plain v := by
  cases h with
  | null | bool | int | float => simp [Plain]
  | floats xs =>
    refine plainItems_iff.2 fun v hv => ?_
    obtain ⟨x, -, rfl⟩ := List.mem_map.1 hv
    simp [Plain]
  | text hs => exact hm _ hs
  | word hs => exact (plain_of_ascii hs).2

theorem Message.DumpValue.nesting_le {m : Message} {v : Json} (h : m.DumpValue v) : nesting v ≤ 1 := by
  cases h with
  | floats xs =>
    have hitems : itemsNesting (xs.map Json.float) ≤ 0 := itemsNesting_le fun v hv => by
      obtain ⟨x, -, rfl⟩ := List.mem_map.1 hv
      simp [nesting]
    simp only [nesting]
    omega
  | _ => simp [nesting]

theorem Message.fieldNames_nodup (m : Message) : m.fieldNames.Nodup := by
  cases m <;> simp [Message.fieldNames]

theorem Message.fieldNames_ascii (m : Message) :
    ∀ k ∈ m.fieldNames, k ≠ "type" ∧ ∀ c ∈ k.toList, 0x20 ≤ c.toNat ∧ c.toNat < 0x80 := by
  cases m <;> simp only [Message.fieldNames, List.mem_cons, List.not_mem_nil, or_false, forall_eq_or_imp,
    forall_eq, IsEmpty.forall_iff, implies_true, ne_eq, String.reduceEq, not_false_eq_true,
    String.reduceToList, Char.reduceToNat, Nat.reduceLeDiff, Nat.reduceLT, and_self]

theorem Message.typeName_ascii (m : Message) :
    ∀ c ∈ m.typeName.toList, 0x20 ≤ c.toNat ∧ c.toNat < 0x80 := by
  cases m <;> simp only [Message.typeName, String.reduceToList, List.mem_cons, List.not_mem_nil, or_false,
    forall_eq_or_imp, forall_eq, Char.reduceToNat, Nat.reduceLeDiff, Nat.reduceLT, and_self]

theorem Message.typeName_mem (m : Message) : m.typeName ∈ typeNames := by
  cases m <;> simp [Message.typeName, typeNames]

/-! ## The recording form under a lawful library -/

section Lawful

variable {lib : Adapters}

theorem Adapters.Lawful.dump_keys (hlib : lib.Lawful) (m : Message) :
    ∀ kv ∈ lib.dump m, kv.1 ≠ "type" ∧ ∀ c ∈ kv.1.toList, 0x20 ≤ c.toNat ∧ c.toNat < 0x80 := by
  intro kv hkv
  apply m.fieldNames_ascii
  rw [← hlib.dump_names m]
  exact List.mem_map_of_mem hkv

theorem Message.toJson_eq (hlib : lib.Lawful) (m : Message) :
    m.toJson lib = .obj (("type", .str m.typeName) :: lib.dump m) := by
  rw [Message.toJson, foldl_setField_fresh]
  · rfl
  · rw [hlib.dump_names]
    exact m.fieldNames_nodup
  · intro kv hkv
    simpa using (hlib.dump_keys m kv hkv).1

theorem Message.ofFields_typed {name : String} (hname : name ∈ typeNames) {fields : List (String × Json)}
    (htype : ∀ kv ∈ fields, kv.1 ≠ "type") :
    Message.ofFields lib (.obj (("type", .str name) :: fields)) =
      (lib.validate name (fields.map fun kv => (.str kv.1, kv.2))).mapError .invalid := by
  have hrest : fields.filter (fun kv => !kv.1 == "type") = fields :=
    List.filter_eq_self.2 fun kv hkv => by simpa using htype kv hkv
  simp [Message.ofFields, toMapping, List.filter_map, Function.comp_def, hrest, hname]

/-- A message as its class makes it reads back from its recording form. -/
theorem Message.ofFields_toJson (hlib : lib.Lawful) {m : Message} (hm : m.Valid) :
    Message.ofFields lib (m.toJson lib) = .ok m := by
  rw [m.toJson_eq hlib, Message.ofFields_typed m.typeName_mem fun kv hkv => (hlib.dump_keys m kv hkv).1,
    hlib.validate_dump m hm]
  rfl

theorem Message.canon_toJson (hlib : lib.Lawful) (m : Message) :
    canon (m.toJson lib) = (m.mapNumbers Binary32.canon).toJson lib := by
  rw [m.toJson_eq hlib, (m.mapNumbers Binary32.canon).toJson_eq hlib, hlib.dump_canon,
    Message.typeName_mapNumbers]
  simp [canon, canonFields, canonFields_eq_map]

theorem Message.faithful_toJson (hlib : lib.Lawful) {m : Message} (hm : ∀ s ∈ m.texts, Text.Held s) :
    Faithful (m.toJson lib) := by
  have hnodup : ("type" :: m.fieldNames).Nodup :=
    List.nodup_cons.2 ⟨fun h => (m.fieldNames_ascii _ h).1 rfl, m.fieldNames_nodup⟩
  rw [m.toJson_eq hlib, Faithful, List.map_cons, hlib.dump_names]
  refine ⟨hnodup, faithfulFields_iff.2 fun kv hkv => ?_⟩
  rcases List.mem_cons.1 hkv with rfl | hkv
  · exact ⟨(plain_of_ascii (by simp)).1, (plain_of_ascii m.typeName_ascii).1⟩
  · exact ⟨(plain_of_ascii (hlib.dump_keys m kv hkv).2).1, (hlib.dump_value m kv hkv).faithful hm⟩

theorem Message.plain_toJson (hlib : lib.Lawful) {m : Message} (hm : m.Utf8Texts) :
    Plain (m.toJson lib) := by
  rw [m.toJson_eq hlib, Plain]
  refine plainFields_iff.2 fun kv hkv => ?_
  rcases List.mem_cons.1 hkv with rfl | hkv
  · exact ⟨(plain_of_ascii (by simp)).2, (plain_of_ascii m.typeName_ascii).2⟩
  · exact ⟨(plain_of_ascii (hlib.dump_keys m kv hkv).2).2, (hlib.dump_value m kv hkv).plain hm⟩

theorem Message.nesting_toJson (hlib : lib.Lawful) (m : Message) : nesting (m.toJson lib) ≤ 2 := by
  have hdump : fieldsNesting (lib.dump m) ≤ 1 :=
    fieldsNesting_le fun kv hkv => (hlib.dump_value m kv hkv).nesting_le
  rw [m.toJson_eq hlib]
  simp only [nesting, fieldsNesting]
  omega

/-- A message with held texts written as JSON text reads back as its recording form, each
NaN made canonical. -/
theorem Message.readWithin_write (hlib : lib.Lawful) {m : Message} (hm : ∀ s ∈ m.texts, Text.Held s)
    {room : ℕ} (hroom : 2 ≤ room) :
    readWithin room (write Style.spaced (m.toJson lib)) = .ok ((m.mapNumbers Binary32.canon).toJson lib) := by
  rw [Json.readWithin_write (m.faithful_toJson hlib hm) ((m.nesting_toJson hlib).trans hroom),
    m.canon_toJson hlib]

/-- A message as its class makes it, its NaNs made canonical, reads back from its
recording form. -/
theorem Message.ofFields_canon (hlib : lib.Lawful) {m : Message} (hm : m.Valid) :
    Message.ofFields lib ((m.mapNumbers Binary32.canon).toJson lib) = .ok (m.mapNumbers Binary32.canon) :=
  Message.ofFields_toJson hlib hm.mapNumbers_canon

end Lawful

end Motion

end VirtualMocap
