import StudyPlanner.Calendar.Civil
/-!
# Moments on the UTC time line

A `Moment` is a point in time: whole seconds since 1970-01-01T00:00:00Z and a sub-second part
in nanoseconds. Moments run from `-262143-01-01T00:00:00Z` to `+262142-12-31T23:59:59Z`; a
sub-second part of a billion or more marks a leap second and is only allowed on the last
second of a minute.

Records on the wire carry dates as whole seconds, and `0` means *no date*; `ofEpochSeconds`
and `toEpochSeconds` are that convention, and the second one drops the sub-second part.
-/

namespace StudyPlanner.Calendar

/-- The first second of the calendar's range. -/
def minSeconds : Int := -8334601228800

/-- The last second of the calendar's range. -/
def maxSeconds : Int := 8210266876799

/-- A point in time: seconds since the epoch and nanoseconds within the second. -/
structure Moment where
  seconds : Int
  nanos : Nat := 0
  deriving DecidableEq, Repr

namespace Moment

/-- The moment of a timestamp and a sub-second part, when both are in range. -/
def ofTimestamp? (secs : Int) (nanos : Nat) : Option Moment :=
  if secs < minSeconds ∨ maxSeconds < secs then none
  else if 2000000000 ≤ nanos then none
  else if 1000000000 ≤ nanos ∧ secs % 60 ≠ 59 then none
  else some { seconds := secs, nanos := nanos }

/-- The day a moment falls on. -/
def date (m : Moment) : CivilDate := civilFromDays (m.seconds / 86400)

/-- Seconds since midnight of the moment's day. -/
def secondOfDay (m : Moment) : Nat := (m.seconds % 86400).toNat

/-- Midnight UTC at the start of a day. -/
def ofDate (d : CivilDate) : Moment := { seconds := daysFromCivil d * 86400 }

end Moment

/-- The date a wire number of seconds stands for: none for zero or out of range. -/
def ofEpochSeconds (secs : Int) : Option Moment :=
  if secs = 0 then none else Moment.ofTimestamp? secs 0

/-- The wire number of seconds of a date: the whole seconds, or zero for no date. -/
def toEpochSeconds : Option Moment → Int
  | some m => m.seconds
  | none => 0

end StudyPlanner.Calendar
