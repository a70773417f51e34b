import FilterQuery.Proofs.Time.Calendar
import FilterQuery.Time.Moment

/-!
# Wall clocks

Times in the calendar are bounded. What a wall clock shows at one, and that the time is told from
it.
-/

set_option autoImplicit false

namespace FilterQuery

theorem natAbs_lt_of_inCalendar {n : Int} (within : InCalendar n) :
    n.natAbs < 1000000000000000000 := by
  have start : calendarStart = -62135596800000000 := by decide +kernel
  have finish : calendarEnd = 253402300800000000 := by decide +kernel
  have lower := within.1
  have upper := within.2
  omega

namespace WallFields

/-- A clock can show the fields: the day exists, in a year from 1 to 9999, and so does the time. -/
structure IsShown (fields : WallFields) : Prop where
  real : fields.date.IsReal
  year_ge : 1 ≤ fields.date.year
  year_le : fields.date.year ≤ 9999
  hour_le : fields.hour ≤ 23
  minute_le : fields.minute ≤ 59
  second_le : fields.second ≤ 59
  microsecond_lt : fields.microsecond < 1000000

/-- A time is told from the clock that shows it. -/
theorem wall_ofWall (wall : Int) : (ofWall wall).wall = wall := by
  simp only [WallFields.wall, ofWall, Date.dayNumber_ofDayNumber, dayMicros, secondMicros]
  omega

theorem year_ofWall {wall : Int} (inside : InCalendar wall) :
    1 ≤ (ofWall wall).date.year ∧ (ofWall wall).date.year < 10000 := by
  obtain ⟨start, finish⟩ := inside
  have number := Date.dayNumber_ofDayNumber (wall / dayMicros)
  have first : Date.daysBeforeYear 1 = 0 := by decide
  have last : (Date.mk 10000 1 1).dayNumber = Date.daysBeforeYear 10000 - Date.epochDays := by
    decide
  simp only [calendarStart, calendarEnd, last] at start finish
  simp only [ofWall]
  refine (Date.isReal_ofDayNumber (wall / dayMicros)).year_bounds ?_ ?_
  · rw [number, first]
    simp only [dayMicros, secondMicros] at start ⊢
    omega
  · rw [number]
    simp only [dayMicros, secondMicros] at finish ⊢
    omega

theorem isShown_ofWall {wall : Int} (inside : InCalendar wall) : (ofWall wall).IsShown where
  real := Date.isReal_ofDayNumber _
  year_ge := (year_ofWall inside).1
  year_le := Int.le_of_lt_add_one (year_ofWall inside).2
  hour_le := by
    simp only [ofWall, dayMicros, secondMicros]
    omega
  minute_le := by
    simp only [ofWall]
    omega
  second_le := by
    simp only [ofWall]
    omega
  microsecond_lt := by
    simp only [ofWall]
    omega

end WallFields

end FilterQuery
