import VirtualMocap.Motion.Message

/-!
# The address catalog

Each kind of message has a fixed address and a signature: required type tags, optional
groups that follow in order, and whether further arguments are tolerated.
`Signature.groups?` counts the groups a tag string carries, or refuses it.
-/

namespace VirtualMocap

namespace Motion

/-- The type tags an address accepts. -/
structure Signature where
  required : String
  optional : List String := []
  trailing : Bool := false
  deriving DecidableEq, Repr

namespace Signature

/-- Count the optional groups at the start of `rest`, in order, stopping at the first
that is not there; answer the count and what follows them. -/
def takeGroups : List String → List Char → Nat × List Char
  | [], rest => (0, rest)
  | g :: gs, rest =>
    if g.toList.isPrefixOf rest then
      let (n, after) := takeGroups gs (rest.drop g.length)
      (n + 1, after)
    else (0, rest)

/-- How many optional groups a tag string carries, or `none` when the signature does not
accept it. -/
def groups? (sig : Signature) (tags : String) : Option Nat :=
  let cs := tags.toList
  if !sig.required.toList.isPrefixOf cs then none
  else
    let (n, after) := takeGroups sig.optional (cs.drop sig.required.length)
    if after.isEmpty || sig.trailing then some n else none

/-- The required tags followed by the first `k` groups, for each `k`. -/
def prefixes (required : String) : List String → List String
  | [] => [required]
  | g :: gs => required :: prefixes (required ++ g) gs

/-- The accepted tag strings, each marked with `*` when more may follow. -/
def variants (sig : Signature) : List String :=
  let vs := prefixes sig.required sig.optional
  if sig.trailing then vs.map (· ++ "*") else vs

end Signature

/-- The entries of the catalog: one per address. -/
inductive Route where
  | root
  | bone
  | blend
  | apply
  | state
  | time
  | camera
  | controller
  | key
  | midiNote
  | midiValue
  | midiButton
  | light
  | receive
  | period
  | calibrationReady
  | calibrationExec
  | config
  | model
  | device (kind : DeviceType) (isLocal : Bool)
  deriving DecidableEq, Repr

namespace Route

def pose : String := "sfffffff"

def address : Route → String
  | .root => "/VMC/Ext/Root/Pos"
  | .bone => "/VMC/Ext/Bone/Pos"
  | .blend => "/VMC/Ext/Blend/Val"
  | .apply => "/VMC/Ext/Blend/Apply"
  | .state => "/VMC/Ext/OK"
  | .time => "/VMC/Ext/T"
  | .camera => "/VMC/Ext/Cam"
  | .controller => "/VMC/Ext/Con"
  | .key => "/VMC/Ext/Key"
  | .midiNote => "/VMC/Ext/Midi/Note"
  | .midiValue => "/VMC/Ext/Midi/CC/Val"
  | .midiButton => "/VMC/Ext/Midi/CC/Bit"
  | .light => "/VMC/Ext/Light"
  | .receive => "/VMC/Ext/Rcv"
  | .period => "/VMC/Ext/Set/Period"
  | .calibrationReady => "/VMC/Ext/Set/Calib/Ready"
  | .calibrationExec => "/VMC/Ext/Set/Calib/Exec"
  | .config => "/VMC/Ext/Set/Config"
  | .model => "/VMC/Ext/VRM"
  | .device kind isLocal => "/VMC/Ext/" ++ kind.segment ++ "/Pos" ++ (if isLocal then "/Local" else "")

def signature : Route → Signature
  | .root => { required := pose, optional := ["ffffff"], trailing := true }
  | .bone => { required := pose }
  | .blend => { required := "sf", trailing := true }
  | .apply => { required := "", trailing := true }
  | .state => { required := "i", optional := ["ii", "i"], trailing := true }
  | .time => { required := "f", trailing := true }
  | .camera => { required := pose ++ "f", trailing := true }
  | .controller => { required := "isiiifff", trailing := true }
  | .key => { required := "isi", trailing := true }
  | .midiNote => { required := "iiif", trailing := true }
  | .midiValue => { required := "if", trailing := true }
  | .midiButton => { required := "ii", trailing := true }
  | .light => { required := pose ++ "ffff", trailing := true }
  | .receive => { required := "ii", optional := ["s"], trailing := true }
  | .period => { required := "iiiiii", trailing := true }
  | .calibrationReady => { required := "", trailing := true }
  | .calibrationExec => { required := "i", trailing := true }
  | .config => { required := "s", trailing := true }
  | .model => { required := "ss", optional := ["s"], trailing := true }
  | .device _ _ => { required := pose, trailing := true }

def typeName : Route → String
  | .root => "RootTransform"
  | .bone => "BoneTransform"
  | .blend => "BlendShape"
  | .apply => "ApplyBlendShapes"
  | .state => "State"
  | .time => "Time"
  | .camera => "CameraTransform"
  | .controller => "ControllerInput"
  | .key => "KeyInput"
  | .midiNote => "MidiNote"
  | .midiValue => "MidiControlValue"
  | .midiButton => "MidiControlButton"
  | .light => "DirectionalLight"
  | .receive => "ReceiveEnable"
  | .period => "SendPeriod"
  | .calibrationReady => "CalibrationReady"
  | .calibrationExec => "CalibrationExec"
  | .config => "ConfigRequest"
  | .model => "LoadedModel"
  | .device _ _ => "DeviceTransform"

end Route

def catalog : List Route :=
  [.root, .bone, .blend, .apply, .state, .time, .camera, .controller, .key, .midiNote,
    .midiValue, .midiButton, .light, .receive, .period, .calibrationReady, .calibrationExec,
    .config, .model] ++
  DeviceType.all.flatMap fun kind => [.device kind false, .device kind true]

def lookup (address : String) : Option Route := catalog.find? (·.address == address)

end Motion

end VirtualMocap
