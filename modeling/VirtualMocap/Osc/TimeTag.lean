import VirtualMocap.Number.Binary64

/-!
# Time tags

An OSC time tag counts seconds since 1900 in one 32-bit word and fractions of a second in
another. A Unix time converts to a tag in double precision, its fraction rounded to the
nearest 2⁻³² of a second, a half going to the even count.
-/

namespace VirtualMocap

namespace Osc

/-- A 64-bit time tag. -/
structure TimeTag where
  seconds : UInt32
  fraction : UInt32
  deriving DecidableEq, Repr, Inhabited

/-- Why a time tag cannot be made. -/
inductive TimeError where
  /-- A part outside the 32-bit range; `field` names it. -/
  | outOfRange (field : String) (value : Int)
  | beforeEpoch
  /-- A Unix time that is NaN (`isNaN`) or infinite. -/
  | notFinite (isNaN : Bool)
  deriving DecidableEq, Repr

def TimeError.message : TimeError → String
  | .outOfRange field value => s!"OSCTime.{field}={value} does not fit in uint32"
  | .beforeEpoch => "time is before the unix epoch"
  | .notFinite true => "cannot convert float NaN to integer"
  | .notFinite false => "cannot convert float infinity to integer"

namespace TimeTag

def unixEpoch : Nat := 2208988800

def immediate : TimeTag := ⟨0, 1⟩

def isImmediate (t : TimeTag) : Bool := t == immediate

def compare (a b : TimeTag) : Ordering :=
  match Ord.compare a.seconds.toNat b.seconds.toNat with
  | .eq => Ord.compare a.fraction.toNat b.fraction.toNat
  | o => o

def ofParts? (seconds fraction : Int) : Except TimeError TimeTag :=
  if ¬(0 ≤ seconds ∧ seconds < (twoPow 32 : Int)) then .error (.outOfRange "seconds" seconds)
  else if ¬(0 ≤ fraction ∧ fraction < (twoPow 32 : Int)) then .error (.outOfRange "fraction" fraction)
  else .ok ⟨seconds.toNat.toUInt32, fraction.toNat.toUInt32⟩

/-- A tag from whole seconds and a rounded fraction, carrying a full second. -/
def carry (seconds fraction : Int) : Except TimeError TimeTag :=
  if fraction ≥ (twoPow 32 : Int) then ofParts? (seconds + 1) 0 else ofParts? seconds fraction

def ofUnixInt? (t : Int) : Except TimeError TimeTag :=
  if t < 0 then .error .beforeEpoch else ofParts? (t + unixEpoch) 0

def ofUnix? (t : Binary64) : Except TimeError TimeTag :=
  if t.isNegative then .error .beforeEpoch
  else
    let ntp := t + Binary64.ofNat unixEpoch
    match ntp.truncate? with
    | none => .error (.notFinite ntp.isNaN)
    | some seconds =>
      let rest := (ntp - (Binary64.ofInt? seconds).getD Binary64.zero) * Binary64.ofNat (twoPow 32)
      match rest.roundEven? with
      | none => .error (.notFinite rest.isNaN)
      | some fraction => carry seconds fraction

def toUnix (t : TimeTag) : Binary64 :=
  -- seconds - epoch + fraction / 2^32, as one exact ratio over 2^32
  let num : Int := ((t.seconds.toNat : Int) - unixEpoch) * (twoPow 32 : Int) + t.fraction.toNat
  Binary64.ofRatio (num < 0) num.natAbs (twoPow 32)

end TimeTag

end Osc

end VirtualMocap
