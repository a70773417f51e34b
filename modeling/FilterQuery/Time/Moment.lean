import FilterQuery.Number.Binary64
import FilterQuery.Number.Integer
import FilterQuery.Time.Calendar

/-!
# Moments

A moment is a wall-clock time with the offset of its zone from UTC. All times are counted in
microseconds since 1970-01-01, and offsets in microseconds too. Wall clocks show the years 1 to
9999.
-/

set_option autoImplicit false

namespace FilterQuery

def secondMicros : Int := 1000000

def dayMicros : Int := 86400 * secondMicros

/-- A wall-clock time in a zone at a fixed distance from UTC. -/
structure Moment where
  /-- Microseconds from 1970-01-01 00:00 to this time, both on the wall clock. -/
  wall : Int
  /-- Microseconds by which the wall clock is ahead of UTC. -/
  offset : Int
  deriving DecidableEq, Repr

structure WallFields where
  date : Date
  hour : Nat
  minute : Nat
  second : Nat
  microsecond : Nat
  deriving DecidableEq, Repr

namespace WallFields

/-- The microseconds from 1970-01-01 00:00 to a wall-clock time. -/
def wall (fields : WallFields) : Int :=
  fields.date.dayNumber * dayMicros +
    (3600 * fields.hour + 60 * fields.minute + fields.second : Nat) * secondMicros +
    fields.microsecond

/-- The wall-clock time at a distance in microseconds from 1970-01-01 00:00. -/
def ofWall (wall : Int) : WallFields :=
  let micros := (wall % dayMicros).toNat
  let seconds := micros / 1000000
  ⟨Date.ofDayNumber (wall / dayMicros), seconds / 3600, seconds / 60 % 60, seconds % 60,
    micros % 1000000⟩

end WallFields

/-- Why a time has no place on the wall clock of a zone. -/
inductive TimeFault where
  /-- The year of a wall-clock time is not one of 1 to 9999. -/
  | yearOutOfRange (year : Int)
  /-- The time in UTC is not in the years 1 to 9999. -/
  | outsideCalendar
  | yearTooWide
  /-- The seconds do not fit the field that holds them. -/
  | secondsTooWide
  deriving DecidableEq, Repr

/-- What is said of a year that is not one of 1 to 9999. -/
def yearMessage (year : Int) : String :=
  s!"year {Number.intText year} is out of range"

/-- The first microsecond of year 1. -/
def calendarStart : Int := -Date.epochDays * dayMicros

/-- The first microsecond after year 9999. -/
def calendarEnd : Int := (Date.mk 10000 1 1).dayNumber * dayMicros

/-- Whether a time in microseconds lies in the years 1 to 9999. -/
def InCalendar (micros : Int) : Prop :=
  calendarStart ≤ micros ∧ micros < calendarEnd

instance (micros : Int) : Decidable (InCalendar micros) :=
  inferInstanceAs (Decidable (_ ∧ _))

/-- The offset of a zone that is a number of minutes ahead of UTC. -/
def offsetMicros (minutes : Int) : Int :=
  60 * minutes * secondMicros

namespace Moment

/-- Microseconds since 1970-01-01 00:00 UTC. -/
def epochMicros (moment : Moment) : Int :=
  moment.wall - moment.offset

/-- Whole seconds since 1970-01-01 00:00 UTC, rounded down. -/
def epochSeconds (moment : Moment) : Int :=
  moment.epochMicros / 1000000

/-- Whole milliseconds since 1970-01-01 00:00 UTC, rounded down. -/
def epochMillis (moment : Moment) : Int :=
  moment.epochMicros / 1000

def sinceMidnight (moment : Moment) : Int :=
  moment.wall % dayMicros

def yearOf (wall : Int) : Int :=
  (Date.ofDayNumber (wall / dayMicros)).year

/-- The moment at which the wall clock of a zone shows a time. To find it the clock is looked up a
day earlier and at the same reading of UTC, so these two have to be in the calendar as well. -/
def ofWall (zone wall : Int) : Except TimeFault Moment :=
  let probe := wall + zone
  if wall - dayMicros < calendarStart then .error (.yearOutOfRange (yearOf (wall - dayMicros)))
  else if calendarEnd ≤ wall then .error (.yearOutOfRange (yearOf wall))
  else if calendarEnd ≤ probe then .error (.yearOutOfRange (yearOf probe))
  else if InCalendar (wall - zone) then .ok ⟨wall, zone⟩
  else .error .outsideCalendar

/-- The whole seconds and the microseconds that are nearest to a number of seconds. The fraction is
scaled and rounded on its own. -/
def splitSeconds (seconds : Binary64) : Except TimeFault (Int × Int) :=
  match seconds.truncate with
  | .error _ => .error .secondsTooWide
  | .ok whole =>
      let micros := (seconds.fraction * 1000000).roundToInt
      let (whole, micros) :=
        if 1000000 ≤ micros then (whole + 1, micros - 1000000)
        else if micros < 0 then (whole - 1, micros + 1000000)
        else (whole, micros)
      if -(Number.wordLimit : Int) ≤ whole && whole < Number.wordLimit then .ok (whole, micros)
      else .error .secondsTooWide

/-- The moment in a zone at a number of seconds since 1970-01-01 00:00 UTC. -/
def ofSeconds (zone : Int) (seconds : Binary64) : Except TimeFault Moment := do
  let (whole, micros) ← splitSeconds seconds
  let wall := whole * secondMicros + micros + zone
  let year := yearOf wall
  if year < -2147481748 || 2147485547 < year then throw .yearTooWide
  else if year < 1 || 9999 < year then throw (.yearOutOfRange year)
  else ofWall zone wall

/-- The moment in a zone at a number of milliseconds since 1970-01-01 00:00 UTC, taken by way of
the nearest number of seconds. -/
def ofMillis (zone millis : Int) : Except TimeFault Moment :=
  ofSeconds zone (.ofQuotient millis 1000)

end Moment

end FilterQuery
