import VirtualMocap.Motion.Catalog
import VirtualMocap.Json.Write
import VirtualMocap.Osc.Packet

/-!
# Messages on the wire

`Motion.fromOsc` turns an OSC message into a motion message: an address outside the
catalog is kept as it is, and at a catalog address the tags must fit the signature and
every enumeration code be known, else a `MessageError` refuses it. `Message.toOsc` is the
other way.
-/

namespace VirtualMocap

namespace Motion

open Osc

/-- Why a message at a catalog address is refused. -/
inductive MessageError where
  /-- The type tags fit none of the signature's variants. -/
  | signatureMismatch (address : String) (expected : List String) (got : String)
  /-- An enumeration code that names no member of `field`. -/
  | invalidArgument (address : String) (field : String) (value : Int)
  deriving DecidableEq, Repr

namespace MessageError

def code : MessageError → String
  | .signatureMismatch .. => "SIGNATURE_MISMATCH"
  | .invalidArgument .. => "INVALID_ARGUMENT"

def address : MessageError → String
  | .signatureMismatch a .. => a
  | .invalidArgument a .. => a

def message : MessageError → String
  | .signatureMismatch _ expected got =>
    "type tags " ++ Text.quoted got ++ " do not match any of " ++
      Json.literal (.arr (expected.map .str))
  | .invalidArgument _ field value => s!"unsupported value {value} for {field}"

def details : MessageError → Json
  | .signatureMismatch _ expected got =>
    .obj [("expected", .arr (expected.map .str)), ("got", .str got)]
  | .invalidArgument _ field value => .obj [("field", .str field), ("value", .int value)]

def text (e : MessageError) : String := e.address ++ ": " ++ e.message

def toJson (e : MessageError) : Json :=
  .obj [("code", .str e.code), ("message", .str e.message), ("address", .str e.address),
    ("details", e.details)]

end MessageError

/-- What an OSC message is, for the motion protocol. -/
inductive Conversion where
  | recognized (m : Message)
  /-- An address outside the catalog, with its arguments. -/
  | unrecognized (address : String) (args : List Arg)
  deriving Repr

def intAt (args : List Arg) (i : Nat) : Int32 :=
  match args[i]? with
  | some (.int v) => v
  | _ => 0

def floatAt (args : List Arg) (i : Nat) : Binary32 :=
  match args[i]? with
  | some (.float v) => v
  | _ => default

def strAt (args : List Arg) (i : Nat) : String :=
  match args[i]? with
  | some (.str s) => s
  | _ => ""

/-- The arguments of a message as its fields read them: the argument at a position read
as an integer, a number or a text. -/
structure ArgReader where
  int : Nat → Int32
  float : Nat → Binary32
  str : Nat → String

/-- Reading an argument list; a position without an argument of the kind read gives
zero or the empty text. -/
def ArgReader.ofArgs (args : List Arg) : ArgReader := ⟨intAt args, floatAt args, strAt args⟩

namespace ArgReader

variable (r : ArgReader)

def vec (i : Nat) : Vec3 := ⟨r.float i, r.float (i + 1), r.float (i + 2)⟩

def quat (i : Nat) : Quat := ⟨r.float i, r.float (i + 1), r.float (i + 2), r.float (i + 3)⟩

def flag (i : Nat) : Bool := (r.int i).toInt != 0

/-- The member of an enumeration coded by the integer at a position. -/
def member {α : Type} (route : Route) (field : String) (ofCode? : Int → Option α) (i : Nat) :
    Except MessageError α :=
  let n := (r.int i).toInt
  match ofCode? n with
  | some a => .ok a
  | none => .error (.invalidArgument route.address field n)

end ArgReader

/-- The message of an entry, from arguments that fit its signature with `groups`
optional groups, read by `r`. -/
def Route.decode (route : Route) (r : ArgReader) (groups : Nat) : Except MessageError Message :=
  match route with
  | .root =>
    .ok (.rootTransform (r.vec 1) (r.quat 4) (if groups > 0 then some (r.vec 8, r.vec 11) else none))
  | .bone => .ok (.boneTransform (r.str 0) (r.vec 1) (r.quat 4))
  | .device kind isLocal => .ok (.deviceTransform kind (r.str 0) (r.vec 1) (r.quat 4) isLocal)
  | .blend => .ok (.blendShape (r.str 0) (r.float 1))
  | .apply => .ok .applyBlendShapes
  | .state => do
    let model ← r.member route "model_state" ModelState.ofCode? 0
    if groups = 0 then return .state model none
    -- state comes before mode on the wire
    let state ← r.member route "calibration_state" CalibrationState.ofCode? 1
    let mode ← r.member route "calibration_mode" CalibrationMode.ofCode? 2
    let tracking ←
      if groups > 1 then (r.member route "tracking_state" TrackingState.ofCode? 3).map some
      else pure none
    return .state model (some ⟨mode, state, tracking⟩)
  | .time => .ok (.time (r.float 0))
  | .camera => .ok (.cameraTransform (r.str 0) (r.vec 1) (r.quat 4) (r.float 8))
  | .controller => do
    let action ← r.member route "action" InputAction.ofCode? 0
    return .controllerInput action (r.str 1) (r.flag 2) (r.flag 3) (r.flag 4) (r.vec 5)
  | .key => do
    let action ← r.member route "action" InputAction.ofCode? 0
    return .keyInput action (r.str 1) (r.int 2)
  | .midiNote => .ok (.midiNote (r.flag 0) (r.int 1) (r.int 2) (r.float 3))
  | .midiValue => .ok (.midiControlValue (r.int 0) (r.float 1))
  | .midiButton => .ok (.midiControlButton (r.int 0) (r.flag 1))
  | .light =>
    .ok (.directionalLight (r.str 0) (r.vec 1) (r.quat 4)
      ⟨r.float 8, r.float 9, r.float 10, r.float 11⟩)
  | .receive => .ok (.receiveEnable (r.flag 0) (r.int 1) (if groups > 0 then some (r.str 2) else none))
  | .period => .ok (.sendPeriod (r.int 0) (r.int 1) (r.int 2) (r.int 3) (r.int 4) (r.int 5))
  | .calibrationReady => .ok .calibrationReady
  | .calibrationExec => do
    let mode ← r.member route "mode" CalibrationMode.ofCode? 0
    return .calibrationExec mode
  | .config => .ok (.configRequest (r.str 0))
  | .model => .ok (.loadedModel (r.str 0) (r.str 1) (if groups > 0 then some (r.str 2) else none))

/-- What an OSC message is for the motion protocol. -/
def fromOsc (address : String) (args : List Arg) : Except MessageError Conversion :=
  match lookup address with
  | none => .ok (.unrecognized address args)
  | some route =>
    let tags := tagsOf args
    match route.signature.groups? tags with
    | none => .error (.signatureMismatch address route.signature.variants tags)
    | some groups => (route.decode (.ofArgs args) groups).map .recognized

def floats (xs : List Binary32) : List Arg := xs.map .float

def code (n : Nat) : Arg := .int (Int32.ofInt n)

def flag (b : Bool) : Arg := .int (if b then 1 else 0)

/-- The address and arguments of a message; texts are checked as arguments are. -/
def Message.toOscParts : Message → String × List (Except ArgError Arg)
  | .rootTransform p r so =>
    (Route.root.address, [.ok (.str "root")] ++ (floats (p.toList ++ r.toList) ++
      (match so with | some (s, o) => floats (s.toList ++ o.toList) | none => [])).map .ok)
  | .boneTransform b p r => (Route.bone.address, strArg? b :: (floats (p.toList ++ r.toList)).map .ok)
  | .deviceTransform d j p r l =>
    ((Route.device d l).address, strArg? j :: (floats (p.toList ++ r.toList)).map .ok)
  | .blendShape k v => (Route.blend.address, [strArg? k, .ok (.float v)])
  | .applyBlendShapes => (Route.apply.address, [])
  | .state m c =>
    (Route.state.address, ([code m.code] ++
      (match c with
        | some c => [code c.state.code, code c.mode.code] ++ (c.tracking.map fun t => code t.code).toList
        | none => [])).map .ok)
  | .time s => (Route.time.address, [.ok (.float s)])
  | .cameraTransform n p r f =>
    (Route.camera.address, strArg? n :: (floats (p.toList ++ r.toList ++ [f])).map .ok)
  | .controllerInput a n l t x ax =>
    (Route.controller.address,
      [.ok (code a.code), strArg? n] ++ ([flag l, flag t, flag x] ++ floats ax.toList).map .ok)
  | .keyInput a n k => (Route.key.address, [.ok (code a.code), strArg? n, .ok (.int k)])
  | .midiNote a c n v => (Route.midiNote.address, [flag a, .int c, .int n, .float v].map .ok)
  | .midiControlValue k v => (Route.midiValue.address, [.ok (.int k), .ok (.float v)])
  | .midiControlButton k a => (Route.midiButton.address, [.ok (.int k), .ok (flag a)])
  | .directionalLight n p r c =>
    (Route.light.address, strArg? n :: (floats (p.toList ++ r.toList ++ c.toList)).map .ok)
  | .receiveEnable e p a =>
    (Route.receive.address, [.ok (flag e), .ok (.int p)] ++ (a.map strArg?).toList)
  | .sendPeriod s r b bs c d => (Route.period.address, [s, r, b, bs, c, d].map fun v => .ok (.int v))
  | .calibrationReady => (Route.calibrationReady.address, [])
  | .calibrationExec m => (Route.calibrationExec.address, [.ok (code m.code)])
  | .configRequest p => (Route.config.address, [strArg? p])
  | .loadedModel p t h => (Route.model.address, [strArg? p, strArg? t] ++ (h.map strArg?).toList)

/-- The OSC message of a motion message. -/
def Message.toOsc (m : Message) : Except ArgError Packet := do
  let (address, args) := m.toOscParts
  let args ← args.mapM id
  return .message address args

end Motion

end VirtualMocap
