import FilterQuery.Proofs.Filter.DateReading
import FilterQuery.Proofs.Time.Writing

/-!
# Written times in values

What a written time is read as: the milliseconds of its instant by the calendar. Main statement:
`writtenTime_read`.
-/

set_option autoImplicit false

namespace FilterQuery.Filter

open Rfc3339

theorem readNumeral_writing (w : Writing) : readNumeral w.text = none := by
  refine readNumeral_hyphen w.year.ascii ?_
  intro empty
  have length := w.year.length
  rw [empty] at length
  cases length

/-- What is read of any written time. -/
theorem readDate_writing (w : Writing) :
    readDate w.text =
      if w.IsReal then
        if w.InYears Date.dayNumber then
          .millis (1000 * w.seconds Date.dayNumber + w.fraction.leading 3)
        else .outsideCalendar
      else .notADate := by
  rw [readDate, readNumeral_writing, read?_text]
  by_cases real : w.IsReal
  · have fewer : w.fraction.leading 6 / 1000 = w.fraction.leading 3 :=
      Run.leading_div 3 3 w.fraction
    have millis : (1000000 * w.seconds Date.dayNumber + w.fraction.leading 6) / 1000 =
        1000 * w.seconds Date.dayNumber + w.fraction.leading 3 := by omega
    rw [if_pos real, if_pos real]
    have inside := w.inYears_iff_inCalendar (Run.leading_lt 6 w.fraction)
    simp only [Writing.parts_micros, inside, millis]
  · rw [if_neg real, if_neg real]

section Count

variable {days : Date → Int} {w other : Writing} {millis later : Int}

theorem readDate_writing_eq_millis_iff (count : Date.IsDayCount days) :
    readDate w.text = .millis millis ↔
      w.IsReal ∧ w.InYears days ∧ millis = 1000 * w.seconds days + w.fraction.leading 3 := by
  rw [readDate_writing]
  by_cases real : w.IsReal
  · rw [if_pos real, Writing.inYears_iff_dayNumber count real.2.1,
      Writing.seconds_eq count real.2.1]
    split
    · next inside => simp [real, inside, eq_comm]
    · next outside => simp [outside]
  · simp [real]

/-- The reading is the instant in milliseconds, rounded down. -/
theorem eq_floor_of_readDate (count : Date.IsDayCount days)
    (read : readDate w.text = .millis millis) : millis = ⌊w.instant days * 10 ^ 3⌋ := by
  rw [((readDate_writing_eq_millis_iff count).mp read).2.2, Writing.floor_instant, mul_comm]
  rfl

theorem readDate_le_of_instant_le (count : Date.IsDayCount days)
    (read : readDate w.text = .millis millis) (otherRead : readDate other.text = .millis later)
    (le : w.instant days ≤ other.instant days) : millis ≤ later := by
  rw [eq_floor_of_readDate count read, eq_floor_of_readDate count otherRead]
  exact Int.floor_le_floor (mul_le_mul_of_nonneg_right le (by positivity))

theorem readDate_eq_of_instant_eq (count : Date.IsDayCount days) (real : w.IsReal)
    (otherReal : other.IsReal) (same : w.instant days = other.instant days) :
    readDate w.text = readDate other.text := by
  obtain ⟨seconds, leading⟩ := Writing.eq_of_instant_eq same
  rw [Writing.seconds_eq count real.2.1, Writing.seconds_eq count otherReal.2.1] at seconds
  simp only [readDate_writing, if_pos real, if_pos otherReal, Writing.inYears_iff, seconds, leading]

/-- Only the digits that are read of a fraction count. -/
theorem readDate_fraction_eq (w : Writing) {fraction : Run}
    (same : fraction.leading 3 = w.fraction.leading 3) :
    readDate { w with fraction }.text = readDate w.text := by
  have seconds : { w with fraction }.seconds Date.dayNumber = w.seconds Date.dayNumber := rfl
  have real : { w with fraction }.IsReal ↔ w.IsReal := Iff.rfl
  have inside : { w with fraction }.InYears Date.dayNumber ↔ w.InYears Date.dayNumber := by
    rw [Writing.inYears_iff, Writing.inYears_iff, seconds]
  simp only [readDate_writing, real, inside, seconds, same]

end Count

/-- A written time that does not exist is no date. One that exists and is in the calendar is read by
the civil seconds, less the offset, and the first three digits of the fraction, whatever count of
days is taken. Therefore times of one instant are read alike, later times are not read as earlier
ones, and the digits after the third do not count. -/
theorem writtenTime_read {days : Date → Int} (count : Date.IsDayCount days) (w : Writing) :
    (¬w.IsReal → readDate w.text = .notADate) ∧
    (w.IsReal → w.InYears days →
      readDate w.text = .millis (1000 * w.seconds days + w.fraction.leading 3)) ∧
    (∀ other : Writing, w.IsReal → other.IsReal → w.instant days = other.instant days →
      readDate w.text = readDate other.text) ∧
    (∀ (other : Writing) (millis later : Int), readDate w.text = .millis millis →
      readDate other.text = .millis later → w.instant days ≤ other.instant days →
        millis ≤ later) ∧
    ∀ fraction : Run, fraction.leading 3 = w.fraction.leading 3 →
      readDate { w with fraction }.text = readDate w.text := by
  refine ⟨fun absent => ?_, fun real inside => ?_, fun other real otherReal same => ?_,
    fun other millis later read otherRead le => ?_, fun fraction same => ?_⟩
  · rw [readDate_writing, if_neg absent]
  · exact (readDate_writing_eq_millis_iff count).mpr ⟨real, inside, rfl⟩
  · exact readDate_eq_of_instant_eq count real otherReal same
  · exact readDate_le_of_instant_le count read otherRead le
  · exact readDate_fraction_eq w same

/-- The first instants of 1970 on a clock that is almost a day ahead. -/
def earlyMidnight : Writing where
  year := .ofNat 4 1970
  month := .ofNat 2 1
  day := .ofNat 2 1
  hour := .ofNat 2 0
  minute := .ofNat 2 0
  second := .ofNat 2 0
  fraction := (Digits.ofNat 5 199).toRun
  offset := some ⟨false, .ofNat 2 23, .ofNat 2 59, by decide, by decide⟩

/-- The same instants in UTC. -/
def lateMinute : Writing where
  year := .ofNat 4 1969
  month := .ofNat 2 12
  day := .ofNat 2 31
  hour := .ofNat 2 0
  minute := .ofNat 2 1
  second := .ofNat 2 0
  fraction := (Digits.ofNat 5 199).toRun
  offset := none

theorem writtenTime_read_earlyMidnight :
    Date.IsDayCount Date.dayNumber ∧ earlyMidnight.InYears Date.dayNumber ∧
      readDate "1970-01-01T00:00:00.00199+23:59".toList = .millis (-86339999) ∧
      readDate "1969-12-31T00:01:00.00199Z".toList = .millis (-86339999) := by
  have real : earlyMidnight.IsReal := by decide
  have inside : earlyMidnight.InYears Date.dayNumber := Writing.inYears_iff.mpr (by decide)
  have same : earlyMidnight.instant Date.dayNumber = lateMinute.instant Date.dayNumber := rfl
  obtain ⟨-, read, alike, -, -⟩ := writtenTime_read Date.isDayCount_dayNumber earlyMidnight
  have early : readDate "1970-01-01T00:00:00.00199+23:59".toList = .millis (-86339999) :=
    read real inside
  have late := alike lateMinute real (by decide) same
  exact ⟨Date.isDayCount_dayNumber, inside, early, late.symm.trans early⟩

end FilterQuery.Filter
