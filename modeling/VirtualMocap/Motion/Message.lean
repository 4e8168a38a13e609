import VirtualMocap.Motion.Basic

/-!
# Motion messages

The twenty kinds of message of the motion capture protocol. Fields that travel together
are one optional field (the root's scale and offset, the model state's calibration), so
every value of these types is a valid message.
-/

namespace VirtualMocap

namespace Motion

/-- Calibration details of a model state: mode, state and, optionally, tracking. -/
structure Calibration where
  mode : CalibrationMode
  state : CalibrationState
  tracking : Option TrackingState
  deriving DecidableEq, Repr

/-- A motion message. -/
inductive Message where
  /-- Pose of the model root, with the mixed-reality scale and offset when given. -/
  | rootTransform (position : Vec3) (rotation : Quat) (scaleOffset : Option (Vec3 × Vec3))
  | boneTransform (bone : String) (position : Vec3) (rotation : Quat)
  /-- Pose of a tracked device; `local` selects the device's own scale. -/
  | deviceTransform (device : DeviceType) (joint : String) (position : Vec3) (rotation : Quat)
      (isLocal : Bool)
  | blendShape (key : String) (value : Binary32)
  | applyBlendShapes
  | state (model : ModelState) (calibration : Option Calibration)
  | time (seconds : Binary32)
  | cameraTransform (name : String) (position : Vec3) (rotation : Quat) (fov : Binary32)
  | controllerInput (action : InputAction) (name : String) (isLeft isTouch isAxis : Bool)
      (axis : Vec3)
  | keyInput (action : InputAction) (name : String) (keycode : Int32)
  | midiNote (active : Bool) (channel note : Int32) (velocity : Binary32)
  | midiControlValue (knob : Int32) (value : Binary32)
  | midiControlButton (knob : Int32) (active : Bool)
  | directionalLight (name : String) (position : Vec3) (rotation : Quat) (color : Color)
  | receiveEnable (enable : Bool) (port : Int32) (address : Option String)
  | sendPeriod (status root bone blendShape camera devices : Int32)
  | calibrationReady
  | calibrationExec (mode : CalibrationMode)
  | configRequest (path : String)
  | loadedModel (path title : String) (hash : Option String)
  deriving DecidableEq, Repr

def Message.typeName : Message → String
  | .rootTransform .. => "RootTransform"
  | .boneTransform .. => "BoneTransform"
  | .deviceTransform .. => "DeviceTransform"
  | .blendShape .. => "BlendShape"
  | .applyBlendShapes => "ApplyBlendShapes"
  | .state .. => "State"
  | .time .. => "Time"
  | .cameraTransform .. => "CameraTransform"
  | .controllerInput .. => "ControllerInput"
  | .keyInput .. => "KeyInput"
  | .midiNote .. => "MidiNote"
  | .midiControlValue .. => "MidiControlValue"
  | .midiControlButton .. => "MidiControlButton"
  | .directionalLight .. => "DirectionalLight"
  | .receiveEnable .. => "ReceiveEnable"
  | .sendPeriod .. => "SendPeriod"
  | .calibrationReady => "CalibrationReady"
  | .calibrationExec .. => "CalibrationExec"
  | .configRequest .. => "ConfigRequest"
  | .loadedModel .. => "LoadedModel"

/-- The single-precision numbers a message carries, in field order. -/
def Message.numbers : Message → List Binary32
  | .rootTransform p r so =>
    p.toList ++ r.toList ++ (match so with | some (s, o) => s.toList ++ o.toList | none => [])
  | .boneTransform _ p r => p.toList ++ r.toList
  | .deviceTransform _ _ p r _ => p.toList ++ r.toList
  | .blendShape _ v => [v]
  | .time s => [s]
  | .cameraTransform _ p r f => p.toList ++ r.toList ++ [f]
  | .controllerInput _ _ _ _ _ ax => ax.toList
  | .midiNote _ _ _ v => [v]
  | .midiControlValue _ v => [v]
  | .directionalLight _ p r c => p.toList ++ r.toList ++ c.toList
  | _ => []

/-- Whether a message carries a NaN, which makes it unequal to every message under
numeric comparison, itself included. -/
def Message.hasNaN (m : Message) : Bool := m.numbers.any Binary32.isNaN

def typeNames : List String :=
  ["RootTransform", "BoneTransform", "DeviceTransform", "BlendShape", "ApplyBlendShapes",
    "State", "Time", "CameraTransform", "ControllerInput", "KeyInput", "MidiNote",
    "MidiControlValue", "MidiControlButton", "DirectionalLight", "ReceiveEnable", "SendPeriod",
    "CalibrationReady", "CalibrationExec", "ConfigRequest", "LoadedModel"]

end Motion

end VirtualMocap
