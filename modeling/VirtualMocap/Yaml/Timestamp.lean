/-!
# Timestamps

A YAML timestamp is a date, optionally followed by a time, a fraction of a second and a
zone (`Timestamp.read?`). `Timestamp.check` then asks that it be a point in time, checking
the zone, then the date, then the time; the first failed check gives the message.
-/

namespace VirtualMocap

namespace Yaml

/-- A time of day, to the microsecond. -/
structure ClockTime where
  hour : Nat
  minute : Nat
  second : Nat
  micro : Nat
  deriving DecidableEq, Repr

/-- A time zone: universal time, or an offset from it. -/
inductive Zone where
  | utc
  | offset (negative : Bool) (hours minutes : Nat)
  deriving DecidableEq, Repr

/-- A timestamp as written: a date, and a time of day with an optional zone. -/
structure Timestamp where
  year : Nat
  month : Nat
  day : Nat
  time : Option (ClockTime × Option Zone)
  deriving DecidableEq, Repr

def isDecimalDigit (c : Char) : Bool := '0' ≤ c && c ≤ '9'

def decimalValue (ds : List Char) : Nat :=
  ds.foldl (fun n d => n * 10 + (d.toNat - '0'.toNat)) 0

def oneOrTwoDigits : List Char → Option (Nat × List Char)
  | d :: e :: rest =>
    if !isDecimalDigit d then none
    else if isDecimalDigit e then some (decimalValue [d, e], rest)
    else some (decimalValue [d], e :: rest)
  | [d] => if isDecimalDigit d then some (decimalValue [d], []) else none
  | [] => none

def twoDigits : List Char → Option (Nat × List Char)
  | d :: e :: rest =>
    if isDecimalDigit d && isDecimalDigit e then some (decimalValue [d, e], rest) else none
  | _ => none

def isTextEnd : List Char → Bool
  | [] | ['\n'] => true
  | _ => false

def isSpaceOrTab (c : Char) : Bool := c == ' ' || c == '\t'

def readZone? (cs : List Char) : Option (Option Zone) :=
  if isTextEnd cs then some none
  else
    match cs.dropWhile isSpaceOrTab with
    | 'Z' :: rest => if isTextEnd rest then some (some .utc) else none
    | s :: rest =>
      if s != '-' && s != '+' then none
      else do
        let (hours, rest) ← oneOrTwoDigits rest
        let (minutes, rest) ← match rest with
          | ':' :: more => twoDigits more
          | _ => some (0, rest)
        if isTextEnd rest then some (some (.offset (s == '-') hours minutes)) else none
    | [] => none

def readTime? (cs : List Char) : Option (ClockTime × Option Zone) := do
  let (hour, rest) ← oneOrTwoDigits cs
  let rest ← match rest with
    | ':' :: more => some more
    | _ => none
  let (minute, rest) ← twoDigits rest
  let rest ← match rest with
    | ':' :: more => some more
    | _ => none
  let (second, rest) ← twoDigits rest
  let (micro, rest) := match rest with
    | '.' :: more =>
      let ds := more.takeWhile isDecimalDigit
      (decimalValue ((ds.take 6) ++ List.replicate (6 - (ds.take 6).length) '0'), more.drop ds.length)
    | _ => (0, rest)
  let zone ← readZone? rest
  return (⟨hour, minute, second, micro⟩, zone)

/-- Read a timestamp, if the text has the form of one. -/
def Timestamp.read? (text : String) : Option Timestamp := do
  let cs := text.toList
  let year := cs.take 4
  if !(year.length == 4 && year.all isDecimalDigit) then none
  let rest ← match cs.drop 4 with
    | '-' :: more => some more
    | _ => none
  let (month, rest) ← oneOrTwoDigits rest
  let rest ← match rest with
    | '-' :: more => some more
    | _ => none
  let (day, rest) ← oneOrTwoDigits rest
  if isTextEnd rest then return ⟨decimalValue year, month, day, none⟩
  let afterSep ← match rest with
    | c :: more =>
      if c == 'T' || c == 't' then some more
      else if isSpaceOrTab c then some (more.dropWhile isSpaceOrTab)
      else none
    | [] => none
  let time ← readTime? afterSep
  return ⟨decimalValue year, month, day, some time⟩

def isLeapYear (year : Nat) : Bool := year % 4 == 0 && (year % 100 != 0 || year % 400 == 0)

def daysInMonth (year month : Nat) : Nat :=
  match month with
  | 2 => if isLeapYear year then 29 else 28
  | 4 | 6 | 9 | 11 => 30
  | _ => 31

def spanText (seconds : Int) : String :=
  let days := seconds / 86400
  let rest := seconds - days * 86400
  let parts := (if days != 0 then [s!"days={days}"] else []) ++
    (if rest != 0 then [s!"seconds={rest}"] else [])
  let inner := if parts.isEmpty then "0" else ", ".intercalate parts
  "datetime.timedelta(" ++ inner ++ ")"

/-- Check a zone: its offset must be strictly less than a day either way. -/
def Zone.check : Zone → Except String Unit
  | .utc => .ok ()
  | .offset negative hours minutes =>
    let magnitude : Int := (hours * 3600 + minutes * 60 : Nat)
    let seconds := if negative then -magnitude else magnitude
    if seconds ≤ -86400 ∨ seconds ≥ 86400 then
      .error ("offset must be a timedelta strictly between -timedelta(hours=24) and " ++
        s!"timedelta(hours=24), not {spanText seconds}.")
    else .ok ()

def checkDate (year month day : Nat) : Except String Unit :=
  if year < 1 then .error s!"year {year} is out of range"
  else if month < 1 ∨ month > 12 then .error "month must be in 1..12"
  else if day < 1 ∨ day > daysInMonth year month then .error "day is out of range for month"
  else .ok ()

/-- Check a time of day: hour, minute, then second. -/
def ClockTime.check (t : ClockTime) : Except String Unit :=
  if t.hour > 23 then .error "hour must be in 0..23"
  else if t.minute > 59 then .error "minute must be in 0..59"
  else if t.second > 59 then .error "second must be in 0..59"
  else .ok ()

/-- Check that a timestamp is a point in time: the zone first, then the date, then the
time of day. -/
def Timestamp.check (t : Timestamp) : Except String Unit :=
  match t.time with
  | none => checkDate t.year t.month t.day
  | some (clock, zone) => do
    if let some z := zone then z.check
    checkDate t.year t.month t.day
    clock.check

end Yaml

end VirtualMocap
