/-!
# `SchemaModel.Time.Instant` — points in time

An instant is kept by its date and time of day in UTC, so that writing it down needs no
calculation. A leap second is a second that lasts up to two.

## Contents
- `daysInMonth`, `isLeapYear`: the calendar.
- `Instant`: a date and time of day that exist.
- `Instant.make?`: the instant with given parts, when they exist.
- `Instant.shifted?`: the instant some seconds, less than a day, earlier or later.
- `Instant.ofUnix`: the instant some seconds after the start of 1970.
-/

namespace SchemaModel.Time

/-! ## The calendar -/

/-- Leap years of the Gregorian calendar. -/
def isLeapYear (year : Int) : Bool :=
  year % 4 == 0 && (year % 100 != 0 || year % 400 == 0)

/-- The number of days of a month. -/
def daysInMonth (year : Int) (month : Nat) : Nat :=
  if month == 2 then (if isLeapYear year then 29 else 28)
  else if [4, 6, 9, 11].contains month then 30
  else 31

/-- The first year that can be represented. -/
def firstYear : Int := -262143

/-- The last year that can be represented. -/
def lastYear : Int := 262142

/-- A date exists. -/
def isDate (year : Int) (month day : Nat) : Bool :=
  firstYear ≤ year && year ≤ lastYear && 1 ≤ month && month ≤ 12 && 1 ≤ day &&
    day ≤ daysInMonth year month

/-- A time of day exists; the nanoseconds of a leap second reach two seconds. -/
def isTimeOfDay (hour minute second nano : Nat) : Bool :=
  hour < 24 && minute < 60 && second < 60 &&
    (nano < 1000000000 || (second == 59 && nano < 2000000000))

/-! ## Instants -/

/-- A date and time of day in UTC. -/
structure Instant where
  year : Int
  month : Nat
  day : Nat
  hour : Nat
  minute : Nat
  second : Nat
  nano : Nat
  exists_date : isDate year month day = true
  exists_time : isTimeOfDay hour minute second nano = true
  deriving DecidableEq

namespace Instant

/-- The instant with given parts, when they exist. -/
def make? (year : Int) (month day hour minute second nano : Nat) : Option Instant :=
  if hd : isDate year month day = true then
    if ht : isTimeOfDay hour minute second nano = true then
      some ⟨year, month, day, hour, minute, second, nano, hd, ht⟩
    else none
  else none

theorem make?_self (t : Instant) :
    make? t.year t.month t.day t.hour t.minute t.second t.nano = some t := by
  simp [make?, t.exists_date, t.exists_time]

/-- The day before a date. -/
def dayBefore (year : Int) (month day : Nat) : Int × Nat × Nat :=
  if 1 < day then (year, month, day - 1)
  else if 1 < month then (year, month - 1, daysInMonth year (month - 1))
  else (year - 1, 12, 31)

/-- The day after a date. -/
def dayAfter (year : Int) (month day : Nat) : Int × Nat × Nat :=
  if day < daysInMonth year month then (year, month, day + 1)
  else if month < 12 then (year, month + 1, 1)
  else (year + 1, 1, 1)

/-- The instant some seconds later, or earlier for a negative number; less than a day. -/
def shifted? (t : Instant) (seconds : Int) : Option Instant :=
  let total : Int := (t.hour * 3600 + t.minute * 60 + t.second : Nat) + seconds
  let (year, month, day) :=
    if total < 0 then dayBefore t.year t.month t.day
    else if 86400 ≤ total then dayAfter t.year t.month t.day
    else (t.year, t.month, t.day)
  let rest := (total % 86400).toNat
  let hour := rest / 3600
  let minute := rest / 60 % 60
  let second := rest % 60
  if seconds == 0 then some t
  else make? year month day hour minute second t.nano

/-- The date some days after the start of 1970. -/
def dateOfDays (days : Nat) : Int × Nat × Nat :=
  let z := days + 719468
  let era := z / 146097
  let dayOfEra := z % 146097
  let yearOfEra := (dayOfEra - dayOfEra / 1460 + dayOfEra / 36524 - dayOfEra / 146096) / 365
  let dayOfYear := dayOfEra - (365 * yearOfEra + yearOfEra / 4 - yearOfEra / 100)
  let shiftedMonth := (5 * dayOfYear + 2) / 153
  let day := dayOfYear - (153 * shiftedMonth + 2) / 5 + 1
  let month := if shiftedMonth < 10 then shiftedMonth + 3 else shiftedMonth - 9
  let year := yearOfEra + era * 400 + (if month ≤ 2 then 1 else 0)
  ((year : Int), month, day)

/-- The start of 1970. -/
def epoch : Instant := ⟨1970, 1, 1, 0, 0, 0, 0, by decide, by decide⟩

/-- The instant some seconds and nanoseconds after the start of 1970. -/
def ofUnix (seconds nano : Nat) : Instant :=
  let (year, month, day) := dateOfDays (seconds / 86400)
  let rest := seconds % 86400
  (make? year month day (rest / 3600) (rest / 60 % 60) (rest % 60) nano).getD epoch

end Instant

end SchemaModel.Time
