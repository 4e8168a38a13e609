import VirtualMocap.Motion.Message
import VirtualMocap.Decimal.Read
import VirtualMocap.Number.Numeral

/-!
# The idle animation

A performer with nothing to play sends an idle animation (`demoFrame`): the mouth and eyes
move with `sin t` and `cos t`, and every frame ends with a model state and a time marker.
Rotations are computed in double precision from Euler angles (`Quaternion.ofEuler`).
-/

namespace VirtualMocap

namespace Motion

/-- A rotation as a quaternion in double precision. -/
structure Quaternion where
  x : Binary64
  y : Binary64
  z : Binary64
  w : Binary64
  deriving DecidableEq, Repr

namespace Quaternion

/-- The rotation about X by `x`, then about Y by `y`, then about Z by `z` (radians),
composed as `qx * qy * qz`; each angle is halved, the halves' sines and cosines taken
in that order, and each product and sum is rounded in the order written. -/
def ofEuler (x y z : Numeral) : Except MathError Quaternion := do
  let sx ← (← x.half).sin?
  let cx ← (← x.half).cos?
  let sy ← (← y.half).sin?
  let cy ← (← y.half).cos?
  let sz ← (← z.half).sin?
  let cz ← (← z.half).cos?
  return { x := sx * cy * cz + cx * sy * sz
           y := cx * sy * cz - sx * cy * sz
           z := cx * cy * sz + sx * sy * cz
           w := cx * cy * cz - sx * sy * sz }

def toList (q : Quaternion) : List Binary64 := [q.x, q.y, q.z, q.w]

def toQuat (q : Quaternion) : Quat :=
  ⟨.ofBinary64 q.x, .ofBinary64 q.y, .ofBinary64 q.z, .ofBinary64 q.w⟩

end Quaternion

def singleOfDecimal (negative : Bool) (digits : Nat) (exponent : Int) : Binary32 :=
  .ofBinary64 (Binary64.ofDecimal negative digits exponent)

def leftEye : Vec3 :=
  ⟨singleOfDecimal true 16136881 (-9), singleOfDecimal false 61875343 (-9),
    singleOfDecimal false 2154272 (-8)⟩

def rightEye : Vec3 :=
  ⟨singleOfDecimal false 16136864 (-9), singleOfDecimal false 61875224 (-9),
    singleOfDecimal false 2154272 (-8)⟩

/-- The messages of the idle animation at `t` seconds, the last a time marker carrying
`clock`. The mouth shape is `sin t / 2 + 1/2`, the fun shape six tenths of it, and both
eyes take the rotation of Euler angles `cos t / 20`, `sin t / 20`, `0`. -/
def demoFrame (t : Numeral) (clock : Binary32) : Except MathError (List Message) := do
  let t ← t.toBinary64
  let half := Binary64.ofRatio false 1 2
  let wave := (← t.sin?) / Binary64.ofNat 2 + half
  let twentieth := Binary64.ofDecimal false 5 (-2)
  let eyes ← Quaternion.ofEuler (.float ((← t.cos?) * twentieth))
    (.float ((← t.sin?) * twentieth)) (.float Binary64.zero)
  let eyes := eyes.toQuat
  return [ .blendShape "A" (.ofBinary64 wave),
    .blendShape "Fun" (.ofBinary64 (wave * Binary64.ofDecimal false 6 (-1))),
    .boneTransform "LeftEye" leftEye eyes,
    .boneTransform "RightEye" rightEye eyes,
    .applyBlendShapes,
    .state .loaded none,
    .time clock ]

/-- The pause between frames at `fps` frames a second; sixty a second when `fps` is not
positive. -/
def sleepInterval (fps : Numeral) : Except MathError Binary64 :=
  let positive := match fps with
    | .int n => 0 < n
    | .float x => x.isPositive
  if !positive then .ok (Binary64.ofRatio false 1 60)
  else return Binary64.ofNat 1 / (← fps.toBinary64)

end Motion

end VirtualMocap
