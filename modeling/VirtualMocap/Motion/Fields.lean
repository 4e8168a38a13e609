import VirtualMocap.Motion.Recording
import VirtualMocap.Json.Loose

/-!
# The program's field adapters

The adapters the executable records with (`Adapters.loose`): triples, quaternions and
colours as lists of numbers, enumerations as their codes, an absent field as `null`,
read back loosely (`Json.Loose`) with numbers rounded to single precision.
-/

namespace VirtualMocap

namespace Motion

open Json

def single (x : Binary32) : Json := .float x.toBinary64

def Vec3.toJson (v : Vec3) : Json := .arr (v.toList.map single)

def Quat.toJson (q : Quat) : Json := .arr (q.toList.map single)

def Color.toJson (c : Color) : Json := .arr (c.toList.map single)

def word (n : Int32) : Json := .int n.toInt

def optionalText : Option String → Json
  | some s => .str s
  | none => .null

def Message.fieldList : Message → List (String × Json)
  | .rootTransform p r so =>
    [("position", p.toJson), ("rotation", r.toJson),
      ("scale", (so.map (·.1.toJson)).getD .null), ("offset", (so.map (·.2.toJson)).getD .null)]
  | .boneTransform b p r => [("bone", .str b), ("position", p.toJson), ("rotation", r.toJson)]
  | .deviceTransform d j p r l =>
    [("device", .str d.segment), ("joint", .str j), ("position", p.toJson),
      ("rotation", r.toJson), ("local", .bool l)]
  | .blendShape k v => [("key", .str k), ("value", single v)]
  | .applyBlendShapes => []
  | .state m c =>
    [("model_state", .int m.code),
      ("calibration_mode", (c.map fun c => Json.int c.mode.code).getD .null),
      ("calibration_state", (c.map fun c => Json.int c.state.code).getD .null),
      ("tracking_state", ((c.bind (·.tracking)).map fun t => Json.int t.code).getD .null)]
  | .time s => [("seconds", single s)]
  | .cameraTransform n p r f =>
    [("name", .str n), ("position", p.toJson), ("rotation", r.toJson), ("fov", single f)]
  | .controllerInput a n l t x ax =>
    [("action", .int a.code), ("name", .str n), ("is_left", .bool l), ("is_touch", .bool t),
      ("is_axis", .bool x), ("axis", ax.toJson)]
  | .keyInput a n k => [("action", .int a.code), ("name", .str n), ("keycode", word k)]
  | .midiNote a c n v =>
    [("active", .bool a), ("channel", word c), ("note", word n), ("velocity", single v)]
  | .midiControlValue k v => [("knob", word k), ("value", single v)]
  | .midiControlButton k a => [("knob", word k), ("active", .bool a)]
  | .directionalLight n p r c =>
    [("name", .str n), ("position", p.toJson), ("rotation", r.toJson), ("color", c.toJson)]
  | .receiveEnable e p a => [("enable", .bool e), ("port", word p), ("address", optionalText a)]
  | .sendPeriod s r b bs c d =>
    [("status", word s), ("root", word r), ("bone", word b), ("blend_shape", word bs),
      ("camera", word c), ("devices", word d)]
  | .calibrationReady => []
  | .calibrationExec m => [("mode", .int m.code)]
  | .configRequest p => [("path", .str p)]
  | .loadedModel p t h => [("path", .str p), ("title", .str t), ("hash", optionalText h)]

/-- Read a single-precision number loosely; an overflow is a value error. -/
def looseSingle (v : Json) : Checked Binary32 := do
  let x ← looseFloat v
  match Binary32.ofBinary64? x with
  | some y => pure y
  | none => Checked.fail (.valueError (x.toText ++ " does not fit in a float32"))

def looseWord (v : Json) : Checked Int32 :=
  (looseInt v >>= bounded (some (-(twoPow 31 : Int))) (some ((twoPow 31 : Int) - 1))).map Int32.ofInt

/-- Read `names.length` numbers from a list (by position) or an object (by name); a
longer list is refused as a whole, and so is every key of an object that names no
number. -/
def looseSingles (names : List String) : Json → Checked (List Binary32)
  | .arr items =>
    if items.length > names.length then Checked.fail .tooLong
    else
      let reads := (List.range names.length).map fun i =>
        match items[i]? with
        | some v => (looseSingle v).under (.index i)
        | none => (Checked.fail .missing).under (.index i)
      let issues := reads.flatMap Checked.issues
      if issues.isEmpty then .ok (reads.filterMap fun r => match r with | .ok x => some x | _ => none)
      else .error issues
  | .obj fields =>
    let reads := names.map fun n => required fields n looseSingle
    let extras := (fields.filter fun kv => !names.contains kv.1).map fun kv => Json.str kv.1
    match extraKeyIssues true extras with
    | none => Checked.fail .stringUnicode
    | some extras =>
      let issues := reads.flatMap Checked.issues ++ extras
      if issues.isEmpty then .ok (reads.filterMap fun r => match r with | .ok x => some x | _ => none)
      else .error issues
  | _ => Checked.fail .namedTupleType

def looseVec3 (v : Json) : Checked Vec3 := do
  match ← looseSingles ["x", "y", "z"] v with
  | [x, y, z] => pure ⟨x, y, z⟩
  | _ => Checked.fail .namedTupleType

def looseQuat (v : Json) : Checked Quat := do
  match ← looseSingles ["x", "y", "z", "w"] v with
  | [x, y, z, w] => pure ⟨x, y, z, w⟩
  | _ => Checked.fail .namedTupleType

def looseColor (v : Json) : Checked Color := do
  match ← looseSingles ["r", "g", "b", "a"] v with
  | [r, g, b, a] => pure ⟨r, g, b, a⟩
  | _ => Checked.fail .namedTupleType

def recordCheck (ok : Bool) (detail : String) : Checked Unit :=
  if ok then .ok () else Checked.fail (.valueError detail)

def readKind (name : String) (fs : List (String × Json)) : Option (Checked Message) :=
  let vec (k : String) : Checked Vec3 := required fs k looseVec3
  let quat (k : String) : Checked Quat := required fs k looseQuat
  let text (k : String) : Checked String := required fs k strictString
  let single (k : String) : Checked Binary32 := required fs k looseSingle
  let flag (k : String) : Checked Bool := required fs k looseBool
  let w (k : String) : Checked Int32 := required fs k looseWord
  let action (k : String) : Checked InputAction := required fs k (intMember InputAction.ofCode?)
  match name with
  | "RootTransform" => some do
    let (p, r, s, o) ← both (vec "position") (both (quat "rotation")
      (both (optional fs "scale" looseVec3) (optional fs "offset" looseVec3)))
    match s, o with
    | some s, some o => pure (.rootTransform p r (some (s, o)))
    | none, none => pure (.rootTransform p r none)
    | _, _ => Checked.fail (.valueError "scale and offset must be given together")
  | "BoneTransform" => some do
    let (b, p, r) ← both (text "bone") (both (vec "position") (quat "rotation"))
    pure (.boneTransform b p r)
  | "DeviceTransform" => some do
    let (d, j, p, r, l) ← both (required fs "device" (strMember DeviceType.ofSegment?))
      (both (text "joint") (both (vec "position") (both (quat "rotation")
        (fieldOr fs "local" (some false) looseBool))))
    pure (.deviceTransform d j p r l)
  | "BlendShape" => some do
    let (k, v) ← both (text "key") (single "value")
    pure (.blendShape k v)
  | "ApplyBlendShapes" => some (.ok .applyBlendShapes)
  | "State" => some do
    let (m, cm, cs, t) ← both (required fs "model_state" (intMember ModelState.ofCode?))
      (both (optional fs "calibration_mode" (intMember CalibrationMode.ofCode?))
        (both (optional fs "calibration_state" (intMember CalibrationState.ofCode?))
          (optional fs "tracking_state" (intMember TrackingState.ofCode?))))
    recordCheck (cm.isSome == cs.isSome)
      "calibration_mode and calibration_state must be given together"
    match cm, cs with
    | some mode, some state => pure (.state m (some ⟨mode, state, t⟩))
    | _, _ => do
      recordCheck t.isNone "tracking_state requires calibration info"
      pure (.state m none)
  | "Time" => some do
    let s ← single "seconds"
    pure (.time s)
  | "CameraTransform" => some do
    let (n, p, r, f) ← both (text "name") (both (vec "position") (both (quat "rotation")
      (single "fov")))
    pure (.cameraTransform n p r f)
  | "ControllerInput" => some do
    let (a, n, l, t, x, ax) ← both (action "action") (both (text "name") (both (flag "is_left")
      (both (flag "is_touch") (both (flag "is_axis") (vec "axis")))))
    pure (.controllerInput a n l t x ax)
  | "KeyInput" => some do
    let (a, n, k) ← both (action "action") (both (text "name") (w "keycode"))
    pure (.keyInput a n k)
  | "MidiNote" => some do
    let (a, c, n, v) ← both (flag "active") (both (w "channel") (both (w "note")
      (single "velocity")))
    pure (.midiNote a c n v)
  | "MidiControlValue" => some do
    let (k, v) ← both (w "knob") (single "value")
    pure (.midiControlValue k v)
  | "MidiControlButton" => some do
    let (k, a) ← both (w "knob") (flag "active")
    pure (.midiControlButton k a)
  | "DirectionalLight" => some do
    let (n, p, r, c) ← both (text "name") (both (vec "position") (both (quat "rotation")
      (required fs "color" looseColor)))
    pure (.directionalLight n p r c)
  | "ReceiveEnable" => some do
    let (e, p, a) ← both (flag "enable") (both (w "port") (optional fs "address" strictString))
    pure (.receiveEnable e p a)
  | "SendPeriod" => some do
    let (s, r, b, bs, c, d) ← both (w "status") (both (w "root") (both (w "bone")
      (both (w "blend_shape") (both (w "camera") (w "devices")))))
    pure (.sendPeriod s r b bs c d)
  | "CalibrationReady" => some (.ok .calibrationReady)
  | "CalibrationExec" => some do
    let m ← required fs "mode" (intMember CalibrationMode.ofCode?)
    pure (.calibrationExec m)
  | "ConfigRequest" => some do
    let p ← text "path"
    pure (.configRequest p)
  | "LoadedModel" => some do
    let (p, t, h) ← both (text "path") (both (text "title") (optional fs "hash" strictString))
    pure (.loadedModel p t h)
  | _ => none

/-- The issues of a message whose fields gave `fieldIssues` and whose keys gave
`keyIssues`. Bad keys refuse the record before its own checks run, so with bad keys
only the issues of fields are kept, those of the record's checks (the issues without a
path) being dropped. -/
def withKeyIssues (fieldIssues keyIssues : List Issue) : List Issue :=
  if keyIssues.isEmpty then fieldIssues
  else fieldIssues.filter (!·.path.isEmpty) ++ keyIssues

/-- The program's adapters: fields dumped by `Message.fieldList`, and read back by the
loose reader of the kind named, the issues of the keys joining those of the fields. A
name of no kind, which the recording form never hands over, gives no issue. -/
def Adapters.loose : Adapters where
  dump := Message.fieldList
  validate name rest :=
    let fs := rest.filterMap fun kv => match kv.1 with
      | .str k => some (k, kv.2)
      | _ => none
    match readKind name fs with
    | some fields =>
      match extraKeyIssues false (rest.map (·.1)) with
      | none => .error [⟨.stringUnicode, []⟩]
      | some keyIssues =>
        match withKeyIssues fields.issues keyIssues, fields with
        | [], .ok m => .ok m
        | issues, _ => .error issues
    | none => .error []

end Motion

end VirtualMocap
