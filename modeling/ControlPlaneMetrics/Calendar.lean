import ControlPlaneMetrics.Text.Basic

/-!
Dates of the proleptic Gregorian calendar, and the time of day of a number of seconds
since the beginning of 1970.
-/
namespace ControlPlaneMetrics.Calendar

structure Date where
  year : Int
  month : Nat
  day : Nat
  deriving DecidableEq

structure Time where
  hour : Nat
  minute : Nat
  second : Nat
  deriving DecidableEq

def isLeap (year : Int) : Bool := year % 4 = 0 && (year % 100 ≠ 0 || year % 400 = 0)

def daysInMonth (year : Int) (month : Nat) : Nat :=
  if month = 2 then if isLeap year then 29 else 28
  else if month = 4 ∨ month = 6 ∨ month = 9 ∨ month = 11 then 30
  else 31

/-- The date that many days after the first of January 1970. Years are counted from March, so that a
leap day is the last of its year, in cycles of 400 years. -/
def dateOfDays (days : Int) : Date :=
  let z := days + 719468
  let cycle := Int.fdiv z 146097
  let d := (z - cycle * 146097).toNat
  let y := (d - d / 1460 + d / 36524 - d / 146096) / 365
  let dayOfYear := d - (365 * y + y / 4 - y / 100)
  let m := (5 * dayOfYear + 2) / 153
  let day := dayOfYear - (153 * m + 2) / 5 + 1
  let month := if m < 10 then m + 3 else m - 9
  ⟨(y : Int) + cycle * 400 + (if month ≤ 2 then 1 else 0), month, day⟩

/-- Date and time of that many seconds after the beginning of 1970. -/
def dateTimeOfSeconds (seconds : Int) : Date × Time :=
  let days := Int.fdiv seconds 86400
  let rest := (seconds - days * 86400).toNat
  (dateOfDays days, ⟨rest / 3600, rest / 60 % 60, rest % 60⟩)

def padded (width n : Nat) : Text :=
  let digits := Text.ofNat n
  List.replicate (width - digits.length) (.char '0') ++ digits

/-- Date and time as in `1970-01-01 00:00:00`. -/
def dateTimeText (date : Date) (time : Time) : Text :=
  Text.ofInt date.year ++ .char '-' :: padded 2 date.month ++ .char '-' :: padded 2 date.day ++
    .char ' ' :: padded 2 time.hour ++ .char ':' :: padded 2 time.minute ++
    .char ':' :: padded 2 time.second

/-- Why numbers are no date or time. -/
inductive Fault where
  | year (year : Nat)
  | month
  | day
  | hour
  | minute
  | second
  /-- An offset from universal time of a day or more, in minutes. -/
  | offset (minutes : Int)
  deriving DecidableEq

/-- A duration as days and seconds, of which only those that are not zero are named. -/
def durationText (minutes : Int) : Text :=
  let days := Int.fdiv minutes 1440
  let seconds := (minutes - days * 1440) * 60
  let parts := (if days ≠ 0 then [Text.ofString "days=" ++ Text.ofInt days] else []) ++
    (if seconds ≠ 0 then [Text.ofString "seconds=" ++ Text.ofInt seconds] else [])
  Text.ofString "datetime.timedelta(" ++ Text.joinWith (Text.ofString ", ") parts ++
    Text.ofString ")"

def Fault.message : Fault → Text
  | year y => Text.ofString "year " ++ Text.ofNat y ++ Text.ofString " is out of range"
  | month => Text.ofString "month must be in 1..12"
  | day => Text.ofString "day is out of range for month"
  | hour => Text.ofString "hour must be in 0..23"
  | minute => Text.ofString "minute must be in 0..59"
  | second => Text.ofString "second must be in 0..59"
  | offset minutes =>
    Text.ofString ("offset must be a timedelta strictly between -timedelta(hours=24) and " ++
      "timedelta(hours=24), not ") ++ durationText minutes ++ Text.ofString "."

def Date.make (year month day : Nat) : Except Fault Date :=
  if year = 0 then .error (.year year)
  else if month = 0 ∨ 12 < month then .error .month
  else if day = 0 ∨ daysInMonth year month < day then .error .day
  else .ok ⟨year, month, day⟩

def Time.make (hour minute second : Nat) : Except Fault Time :=
  if 23 < hour then .error .hour
  else if 59 < minute then .error .minute
  else if 59 < second then .error .second
  else .ok ⟨hour, minute, second⟩

end ControlPlaneMetrics.Calendar
