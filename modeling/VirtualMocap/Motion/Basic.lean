import VirtualMocap.Number.Binary32

/-!
# Motion vocabulary

The values that motion messages carry: positions and other triples, rotations as
quaternions, colours, and the small enumerations of the protocol, each with the
integer code (or text) it has on the wire. The humanoid bone names of the standard
avatar skeleton are listed with the names of their members.
-/

namespace VirtualMocap

namespace Motion

/-- A position, scale or axis triple, in single precision. -/
structure Vec3 where
  x : Binary32
  y : Binary32
  z : Binary32
  deriving DecidableEq, Repr

/-- A rotation as a quaternion, in single precision. -/
structure Quat where
  x : Binary32
  y : Binary32
  z : Binary32
  w : Binary32
  deriving DecidableEq, Repr

/-- A colour with alpha, in single precision. -/
structure Color where
  r : Binary32
  g : Binary32
  b : Binary32
  a : Binary32
  deriving DecidableEq, Repr

def Vec3.toList (v : Vec3) : List Binary32 := [v.x, v.y, v.z]

def Quat.toList (q : Quat) : List Binary32 := [q.x, q.y, q.z, q.w]

def Color.toList (c : Color) : List Binary32 := [c.r, c.g, c.b, c.a]

/-- Whether the avatar model is loaded. -/
inductive ModelState where
  | notLoaded
  | loaded
  deriving DecidableEq, Repr

/-- Progress of calibration. -/
inductive CalibrationState where
  | uncalibrated
  | waitingForCalibration
  | calibrating
  | calibrated
  deriving DecidableEq, Repr

/-- How calibration is done. -/
inductive CalibrationMode where
  | normal
  | mixedRealityHand
  | mixedRealityFloor
  deriving DecidableEq, Repr

/-- Quality of tracking. -/
inductive TrackingState where
  | poor
  | good
  deriving DecidableEq, Repr

/-- What a controller or key did. -/
inductive InputAction where
  | release
  | press
  | axis
  deriving DecidableEq, Repr

/-- The kind of a tracked device. -/
inductive DeviceType where
  | hmd
  | controller
  | tracker
  deriving DecidableEq, Repr

namespace ModelState

def code : ModelState → Nat
  | .notLoaded => 0
  | .loaded => 1

def ofCode? : Int → Option ModelState
  | 0 => some .notLoaded
  | 1 => some .loaded
  | _ => none

end ModelState

namespace CalibrationState

def code : CalibrationState → Nat
  | .uncalibrated => 0
  | .waitingForCalibration => 1
  | .calibrating => 2
  | .calibrated => 3

def ofCode? : Int → Option CalibrationState
  | 0 => some .uncalibrated
  | 1 => some .waitingForCalibration
  | 2 => some .calibrating
  | 3 => some .calibrated
  | _ => none

end CalibrationState

namespace CalibrationMode

def code : CalibrationMode → Nat
  | .normal => 0
  | .mixedRealityHand => 1
  | .mixedRealityFloor => 2

def ofCode? : Int → Option CalibrationMode
  | 0 => some .normal
  | 1 => some .mixedRealityHand
  | 2 => some .mixedRealityFloor
  | _ => none

end CalibrationMode

namespace TrackingState

def code : TrackingState → Nat
  | .poor => 0
  | .good => 1

def ofCode? : Int → Option TrackingState
  | 0 => some .poor
  | 1 => some .good
  | _ => none

end TrackingState

namespace InputAction

def code : InputAction → Nat
  | .release => 0
  | .press => 1
  | .axis => 2

def ofCode? : Int → Option InputAction
  | 0 => some .release
  | 1 => some .press
  | 2 => some .axis
  | _ => none

end InputAction

namespace DeviceType

def segment : DeviceType → String
  | .hmd => "Hmd"
  | .controller => "Con"
  | .tracker => "Tra"

def ofSegment? : String → Option DeviceType
  | "Hmd" => some .hmd
  | "Con" => some .controller
  | "Tra" => some .tracker
  | _ => none

def all : List DeviceType := [.hmd, .controller, .tracker]

end DeviceType

def standardBones : List (String × String) := [
  ("HIPS", "Hips"), ("LEFT_UPPER_LEG", "LeftUpperLeg"),
  ("RIGHT_UPPER_LEG", "RightUpperLeg"), ("LEFT_LOWER_LEG", "LeftLowerLeg"),
  ("RIGHT_LOWER_LEG", "RightLowerLeg"), ("LEFT_FOOT", "LeftFoot"),
  ("RIGHT_FOOT", "RightFoot"), ("PELVIS", "Pelvis"), ("SPINE", "Spine"),
  ("CHEST", "Chest"), ("UPPER_CHEST", "UpperChest"), ("NECK", "Neck"), ("HEAD", "Head"),
  ("LEFT_SHOULDER", "LeftShoulder"), ("RIGHT_SHOULDER", "RightShoulder"),
  ("LEFT_UPPER_ARM", "LeftUpperArm"), ("RIGHT_UPPER_ARM", "RightUpperArm"),
  ("LEFT_LOWER_ARM", "LeftLowerArm"), ("RIGHT_LOWER_ARM", "RightLowerArm"),
  ("LEFT_HAND", "LeftHand"), ("RIGHT_HAND", "RightHand"), ("LEFT_TOES", "LeftToes"),
  ("RIGHT_TOES", "RightToes"), ("LEFT_EYE", "LeftEye"), ("RIGHT_EYE", "RightEye"),
  ("JAW", "Jaw"), ("LEFT_THUMB_PROXIMAL", "LeftThumbProximal"),
  ("LEFT_THUMB_INTERMEDIATE", "LeftThumbIntermediate"),
  ("LEFT_THUMB_DISTAL", "LeftThumbDistal"), ("LEFT_INDEX_PROXIMAL", "LeftIndexProximal"),
  ("LEFT_INDEX_INTERMEDIATE", "LeftIndexIntermediate"),
  ("LEFT_INDEX_DISTAL", "LeftIndexDistal"), ("LEFT_MIDDLE_PROXIMAL", "LeftMiddleProximal"),
  ("LEFT_MIDDLE_INTERMEDIATE", "LeftMiddleIntermediate"),
  ("LEFT_MIDDLE_DISTAL", "LeftMiddleDistal"), ("LEFT_RING_PROXIMAL", "LeftRingProximal"),
  ("LEFT_RING_INTERMEDIATE", "LeftRingIntermediate"),
  ("LEFT_RING_DISTAL", "LeftRingDistal"), ("LEFT_LITTLE_PROXIMAL", "LeftLittleProximal"),
  ("LEFT_LITTLE_INTERMEDIATE", "LeftLittleIntermediate"),
  ("LEFT_LITTLE_DISTAL", "LeftLittleDistal"),
  ("RIGHT_THUMB_PROXIMAL", "RightThumbProximal"),
  ("RIGHT_THUMB_INTERMEDIATE", "RightThumbIntermediate"),
  ("RIGHT_THUMB_DISTAL", "RightThumbDistal"),
  ("RIGHT_INDEX_PROXIMAL", "RightIndexProximal"),
  ("RIGHT_INDEX_INTERMEDIATE", "RightIndexIntermediate"),
  ("RIGHT_INDEX_DISTAL", "RightIndexDistal"),
  ("RIGHT_MIDDLE_PROXIMAL", "RightMiddleProximal"),
  ("RIGHT_MIDDLE_INTERMEDIATE", "RightMiddleIntermediate"),
  ("RIGHT_MIDDLE_DISTAL", "RightMiddleDistal"),
  ("RIGHT_RING_PROXIMAL", "RightRingProximal"),
  ("RIGHT_RING_INTERMEDIATE", "RightRingIntermediate"),
  ("RIGHT_RING_DISTAL", "RightRingDistal"),
  ("RIGHT_LITTLE_PROXIMAL", "RightLittleProximal"),
  ("RIGHT_LITTLE_INTERMEDIATE", "RightLittleIntermediate"),
  ("RIGHT_LITTLE_DISTAL", "RightLittleDistal")]

def standardBone? (bone : String) : Option String :=
  (standardBones.find? (·.2 == bone)).map (·.1)

end Motion

end VirtualMocap
