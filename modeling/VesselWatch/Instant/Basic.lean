/-
  Instant/Basic.lean --- points in time, to the nanosecond.

  WHAT THIS FILE FIXES.  An instant is a day, a second of that day and a fraction
  of that second.  The fraction may run up to two seconds: the second half of it is
  a leap second.  `since` measures the time between two instants; a leap second
  that lies strictly between them is counted.
-/

set_option autoImplicit false

namespace VesselWatch

/-- A point in time, in Coordinated Universal Time. -/
structure Instant where
  /-- days since the first of January 1970 -/
  day : Int
  /-- second of the day, below 86400 -/
  second : Nat
  /-- nanoseconds, below two billion; from one billion on they lie in a leap second -/
  nano : Nat
  deriving DecidableEq, Repr, Inhabited

namespace Instant

/-- Nanoseconds in a second. -/
def nanosPerSecond : Nat := 1000000000

/-- Seconds in a day. -/
def secondsPerDay : Nat := 86400

/-- The instant so many seconds and nanoseconds after the beginning of 1970. -/
def ofUnix (seconds : Int) (nanos : Nat) : Instant :=
  ⟨seconds.fdiv secondsPerDay, (seconds.fmod secondsPerDay).toNat, nanos⟩

/-- Nanoseconds from `earlier` to `later`, negative when they come in the other order. -/
def since (later earlier : Instant) : Int :=
  let seconds : Int := later.second - earlier.second
  let leap : Int :=
    if earlier.second < later.second && nanosPerSecond ≤ earlier.nano then 1
    else if later.second < earlier.second && nanosPerSecond ≤ later.nano then -1
    else 0
  ((later.day - earlier.day) * secondsPerDay + seconds + leap) * nanosPerSecond
    + (later.nano - earlier.nano)

/-! ## The calendar -/

/-- The day of a date of the Gregorian calendar, extended backwards without end. -/
def dayOfDate (year : Int) (month day : Nat) : Int :=
  let y := if month ≤ 2 then year - 1 else year
  let era := y.fdiv 400
  let yearOfEra := y.fmod 400
  let monthFromMarch : Int := (month + 9) % 12
  let dayOfYear := (153 * monthFromMarch + 2) / 5 + day - 1
  let dayOfEra := yearOfEra * 365 + yearOfEra / 4 - yearOfEra / 100 + dayOfYear
  era * 146097 + dayOfEra - 719468

/-- Year, month and day of the month. -/
def dateOfDay (day : Int) : Int × Nat × Nat :=
  let z := day + 719468
  let era := z.fdiv 146097
  let dayOfEra := (z.fmod 146097).toNat
  let yearOfEra := (dayOfEra - dayOfEra / 1460 + dayOfEra / 36524 - dayOfEra / 146096) / 365
  let dayOfYear := dayOfEra - (365 * yearOfEra + yearOfEra / 4 - yearOfEra / 100)
  let monthFromMarch := (5 * dayOfYear + 2) / 153
  let dayOfMonth := dayOfYear - (153 * monthFromMarch + 2) / 5 + 1
  let month := if monthFromMarch < 10 then monthFromMarch + 3 else monthFromMarch - 9
  let year := (yearOfEra : Int) + era * 400
  (if month ≤ 2 then year + 1 else year, month, dayOfMonth)

/-- The year has a twenty-ninth of February. -/
def isLeapYear (year : Int) : Bool :=
  year.fmod 4 == 0 && (year.fmod 100 != 0 || year.fmod 400 == 0)

/-- Days of a month. -/
def daysInMonth (year : Int) (month : Nat) : Nat :=
  if month == 2 then (if isLeapYear year then 29 else 28)
  else if month == 4 || month == 6 || month == 9 || month == 11 then 30
  else 31

/-- The earliest day that can be written. -/
def firstDay : Int := dayOfDate (-262143) 1 1

/-- The latest day that can be written. -/
def lastDay : Int := dayOfDate 262142 12 31

end Instant

end VesselWatch
