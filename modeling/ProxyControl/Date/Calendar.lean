/-!
# Calendar

The Gregorian calendar, extended without end to both sides, with a year 0. A civil time names a
moment on it; moments count seconds from the start of 1970 in UTC.
-/
namespace ProxyControl

/-- A point in time: whole seconds since the start of 1970, and nanoseconds after them. A leap
second is its predecessor with a full second of nanoseconds. -/
structure Moment where
  seconds : Int
  nanos : Nat
  deriving DecidableEq, Repr

namespace Calendar

def isLeap (year : Int) : Bool := year % 4 == 0 && (year % 100 != 0 || year % 400 == 0)

/-- Days from the first day of year 0. -/
def daysBeforeYear (year : Int) : Int :=
  -- year 0 is itself a leap year, so every count of leap days is rounded up
  365 * year + (year + 3) / 4 - (year + 99) / 100 + (year + 399) / 400

def monthLengths (leap : Bool) : List Nat :=
  [31, if leap then 29 else 28, 31, 30, 31, 30, 31, 31, 30, 31, 30, 31]

/-- Months count from 1; other numbers name a month without days. -/
def monthLength (year : Int) (month : Nat) : Nat :=
  match month with
  | 0 => 0
  | index + 1 => (monthLengths (isLeap year))[index]?.getD 0

def daysBeforeMonth (year : Int) (month : Nat) : Nat :=
  ((monthLengths (isLeap year)).take (month - 1)).foldl Nat.add 0

def epochDays : Int := daysBeforeYear 1970

/-- Days since the start of 1970. -/
def dayNumber (year : Int) (month day : Nat) : Int :=
  daysBeforeYear year + daysBeforeMonth year month + (day - 1 : Int) - epochDays

end Calendar

structure CivilTime where
  year : Int
  month : Nat
  day : Nat
  hour : Nat
  minute : Nat
  second : Nat
  nanos : Nat := 0
  deriving DecidableEq, Repr

namespace CivilTime

/-- The start of a day. -/
def midnight (year : Int) (month day : Nat) : CivilTime :=
  { year, month, day, hour := 0, minute := 0, second := 0 }

/-- The day exists, and so does the time of day; second 60 may follow any minute. -/
def isValid (t : CivilTime) : Bool :=
  1 ≤ t.day && t.day ≤ Calendar.monthLength t.year t.month
    && t.hour < 24 && t.minute < 60 && t.second ≤ 60

/-- The moment that a clock shows which is `offset` seconds ahead of UTC. -/
def moment (t : CivilTime) (offset : Int) : Moment :=
  let days := Calendar.dayNumber t.year t.month t.day
  -- what is left of second 60 goes into the nanoseconds
  let second := min t.second 59
  { seconds := days * 86400 + t.hour * 3600 + t.minute * 60 + second - offset
    nanos := t.nanos + (t.second - second) * 1000000000 }

end CivilTime

end ProxyControl
