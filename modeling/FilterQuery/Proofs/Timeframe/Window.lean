import Mathlib.Data.Rat.Floor
import FilterQuery.Query
import FilterQuery.Proofs.Number.Quotient
import FilterQuery.Proofs.Time.Moment
import FilterQuery.Proofs.Timeframe

/-!
# Windows of timeframes

The end and the length of a window are rounded down apart, and the length in seconds is taken from a
floating-point number. The parts that are cut off cancel when a window starts whole seconds before
its end, or at midnight in a zone that is whole seconds from UTC: then its lower bounds are the
instant at which it starts, rounded down. In any other zone a window from midnight may start a second
late. Main statements: `wholeSeconds_eq`, `exists_form_of_window` and `timeClauses_window`.
-/

set_option autoImplicit false

namespace FilterQuery

open Number

/-- Rounding down commutes with a difference when nothing is cut off of one of its parts. -/
theorem ediv_sub_ediv {a b scale : Int} (positive : 0 < scale)
    (whole : scale ∣ b ∨ scale ∣ a - b) : a / scale - b / scale = (a - b) / scale := by
  have ne : scale ≠ 0 := Int.ne_of_gt positive
  rcases whole with ⟨count, same⟩ | ⟨count, same⟩
  · rw [same, Int.mul_ediv_cancel_left _ ne, Int.sub_mul_ediv_left _ _ ne]
  · obtain rfl : a = b + scale * count := by omega
    rw [same, Int.mul_ediv_cancel_left _ ne, Int.add_mul_ediv_left _ _ ne]
    omega

namespace Moment

/-- The seconds since 1970-01-01 00:00 UTC. -/
def instant (moment : Moment) : ℚ :=
  moment.epochMicros / 10 ^ 6

/-- The beginning of the day that the wall clock of the zone shows. -/
def midnight (moment : Moment) : Moment :=
  ⟨({ WallFields.ofWall moment.wall with hour := 0, minute := 0, second := 0, microsecond := 0 } :
    WallFields).wall, moment.offset⟩

variable (now : Moment)

theorem floor_instant : ⌊now.instant⌋ = now.epochSeconds := by
  rw [instant, epochSeconds]
  exact_mod_cast Rat.floor_intCast_div_natCast now.epochMicros (10 ^ 6)

theorem floor_instant_mul : ⌊now.instant * 10 ^ 3⌋ = now.epochMillis := by
  have millis : now.instant * 10 ^ 3 = (now.epochMicros : ℚ) / (1000 : ℕ) := by
    rw [instant]
    push_cast
    ring
  rw [millis, Rat.floor_intCast_div_natCast, epochMillis]
  rfl

theorem epochMicros_midnight : now.midnight.epochMicros = now.epochMicros - now.sinceMidnight := by
  simp only [epochMicros, midnight, WallFields.wall, WallFields.ofWall, Date.dayNumber_ofDayNumber,
    sinceMidnight, dayMicros, secondMicros]
  omega

/-- A day starts at a whole second in a zone that is whole seconds from UTC, and likewise for the
parts of a second. -/
theorem dvd_epochMicros_midnight {scale : Int} (part : scale ∣ secondMicros)
    (whole : scale ∣ now.offset) : scale ∣ now.midnight.epochMicros := by
  have day : scale ∣ dayMicros := Int.dvd_mul_of_dvd_right part
  have wall : now.midnight.wall = now.wall / dayMicros * dayMicros := by
    simp [midnight, WallFields.wall, WallFields.ofWall, Date.dayNumber_ofDayNumber]
  rw [epochMicros, wall]
  exact Int.dvd_sub (Int.dvd_mul_of_dvd_right day) whole

/-- What is cut off of a time and of its distance from midnight cancels in a unit that is a part of a
second, when the zone is whole units from UTC. -/
theorem epochMicros_ediv_sub_sinceMidnight {scale : Int} (positive : 0 < scale)
    (part : scale ∣ secondMicros) (whole : scale ∣ now.offset) :
    now.epochMicros / scale - now.sinceMidnight / scale = now.midnight.epochMicros / scale := by
  have start := now.dvd_epochMicros_midnight part whole
  rw [epochMicros_midnight] at start ⊢
  exact ediv_sub_ediv positive (.inr start)

end Moment

namespace Timeframe

variable {timeframe : String} {now : Moment} {micros : Int}

/-- The number of seconds of a duration is not rounded to the next integer when the duration is
shorter than a day, and not rounded at all when it is whole seconds. -/
theorem wholeSeconds_eq (nonneg : 0 ≤ micros)
    (exact : micros < dayMicros ∨ secondMicros ∣ micros ∧ micros < durationLimit) :
    wholeSeconds micros = micros / secondMicros := by
  obtain ⟨n, rfl⟩ := Int.eq_ofNat_of_zero_le nonneg
  have cut : (seconds n).truncate = .ok ((n / 1000000 : Nat) : Int) := by
    rcases exact with short | ⟨whole, within⟩
    · have narrow : n < 2 ^ 53 := by
        simp only [dayMicros, secondMicros] at short
        omega
      have small : 1000000 ≤ unit := Nat.le_trans (by decide) two_pow_le_unit
      exact Binary64.truncate_ofQuotient_of_lt narrow (by decide) small
    · have narrow : n / 1000000 < 2 ^ 53 := by
        simp only [durationLimit, dayMicros, secondMicros] at within
        omega
      have divides : 1000000 ∣ n := Int.natCast_dvd_natCast.mp whole
      exact Binary64.truncate_ofQuotient_of_dvd divides (by decide) narrow
  rw [wholeSeconds, cut]
  rfl

theorem Form.dvd_duration {form : Form} (other : form ≠ .word .today) (now : Moment) :
    secondMicros ∣ form.duration now := by
  cases form with
  | word keyword =>
      cases keyword with
      | today => exact absurd rfl other
      | week => exact ⟨7 * 86400, rfl⟩
      | month => exact ⟨30 * 86400, rfl⟩
      | quarter => exact ⟨90 * 86400, rfl⟩
      | year => exact ⟨365 * 86400, rfl⟩
  | amount number hours =>
      have hour : secondMicros ∣ hourMicros := ⟨3600, rfl⟩
      exact Int.dvd_mul_of_dvd_right (Int.dvd_mul_of_dvd_right hour)

/-- The bounds of a window are its ends, rounded down, less its length, rounded down. -/
theorem exists_form_of_window {result : Window} (known : window timeframe now = .ok result) :
    ∃ form, Spells (normalized timeframe) form ∧
      duration timeframe now = .ok (form.duration now) ∧
      result = {
        secondsFrom := now.epochSeconds - form.duration now / secondMicros
        secondsTo := now.epochSeconds
        millisFrom := now.epochMillis - form.duration now / 1000
        millisTo := now.epochMillis } := by
  obtain ⟨_, _, known⟩ := bind_eq_ok_iff.mp known
  obtain ⟨micros, found, known⟩ := bind_eq_ok_iff.mp known
  obtain ⟨form, spells, rfl, within⟩ := exists_form_of_duration found
  refine ⟨form, spells, found, ?_⟩
  have exact : form.duration now < dayMicros ∨
      secondMicros ∣ form.duration now ∧ form.duration now < durationLimit := by
    by_cases today : form = .word .today
    · rw [today]
      exact .inl (Int.emod_lt_of_pos _ (by decide))
    · exact .inr ⟨form.dvd_duration today now, within⟩
  rw [← wholeSeconds_eq (form.duration_nonneg now) exact]
  exact (Except.ok.inj known).symm

end Timeframe

namespace Query

open Timeframe FilterQuery.Filter

variable {timeframe : String} {now : Moment} {clause : Clause}

theorem exists_window_of_timeClauses (returned : timeClauses timeframe now = .ok [clause]) :
    ∃ window, clause = .within window ∧ Timeframe.window timeframe now = .ok window := by
  simp only [timeClauses] at returned
  split at returned
  · cases returned
  split at returned
  · next window known => exact ⟨window, by simpa [eq_comm] using returned, known⟩
  · cases returned
  · cases returned

/-- The text stands for the time since midnight. -/
def IsToday (timeframe : String) : Prop :=
  normalized timeframe = Keyword.today.text.toList

theorem dvd_duration_of_not_isToday {form : Form} (spells : Spells (normalized timeframe) form)
    (other : ¬IsToday timeframe) (now : Moment) : secondMicros ∣ form.duration now := by
  refine form.dvd_duration ?_ now
  rintro rfl
  rw [IsToday] at other
  generalize normalized timeframe = value at spells other
  cases spells
  exact other rfl

/-- The two ranges of a timeframe are one window in two units. It ends at the reference time, and
the times in milliseconds lie in the range in seconds as well; the window of today starts at
midnight, and any other one is as long as the timeframe says, in both units. For today this needs a
zone that is whole seconds from UTC, or whole milliseconds where only milliseconds are compared. -/
theorem timeClauses_window (returned : timeClauses timeframe now = .ok [clause]) :
    ∃ window, clause = .within window ∧
      window.secondsFrom ≤ window.secondsTo ∧ window.millisFrom ≤ window.millisTo ∧
      window.secondsTo = ⌊now.instant⌋ ∧ window.millisTo = ⌊now.instant * 10 ^ 3⌋ ∧
      (¬IsToday timeframe ∨ secondMicros ∣ now.offset →
        ∀ t, window.millisFrom ≤ t → t ≤ window.millisTo →
          window.secondsFrom ≤ t / 1000 ∧ t / 1000 ≤ window.secondsTo) ∧
      (IsToday timeframe → secondMicros ∣ now.offset →
        window.secondsFrom = now.midnight.epochSeconds) ∧
      (IsToday timeframe → 1000 ∣ now.offset →
        window.millisFrom = now.midnight.epochMillis) ∧
      (¬IsToday timeframe →
        ∃ micros, duration timeframe now = .ok micros ∧
          (window.secondsTo - window.secondsFrom) * 10 ^ 6 = micros ∧
          (window.millisTo - window.millisFrom) * 10 ^ 3 = micros) := by
  obtain ⟨window, rfl, known⟩ := exists_window_of_timeClauses returned
  obtain ⟨form, spells, found, rfl⟩ := exists_form_of_window known
  refine ⟨_, rfl, ?_⟩
  rw [now.floor_instant, now.floor_instant_mul]
  have nonneg := form.duration_nonneg now
  have sinceMidnight (today : IsToday timeframe) : form.duration now = now.sinceMidnight := by
    rw [duration_word today] at found
    exact (Except.ok.inj found).symm
  have seconds : (1000000 : Int) ∣ secondMicros := Int.dvd_refl _
  have millis : (1000 : Int) ∣ secondMicros := ⟨1000, rfl⟩
  have start (today : IsToday timeframe) {scale : Int} (positive : 0 < scale)
      (part : scale ∣ secondMicros) (whole : scale ∣ now.offset) :
      now.epochMicros / scale - form.duration now / scale =
        now.midnight.epochMicros / scale := by
    rw [sinceMidnight today]
    exact now.epochMicros_ediv_sub_sinceMidnight positive part whole
  simp only [Moment.epochSeconds, Moment.epochMillis]
  refine ⟨?_, ?_, trivial, trivial, fun whole t first last => ?_, fun today whole => ?_,
    fun today whole => ?_, fun other => ⟨_, found, ?_⟩⟩
  · simp only [secondMicros]
    omega
  · omega
  · by_cases today : IsToday timeframe
    · have offset := whole.resolve_left (not_not.mpr today)
      have secondsStart := start today (by decide) seconds offset
      have millisStart := start today (by decide) millis (Int.dvd_trans millis offset)
      simp only [secondMicros]
      omega
    · have whole := dvd_duration_of_not_isToday spells today now
      simp only [secondMicros] at whole ⊢
      omega
  · exact start today (by decide) seconds whole
  · exact start today (by decide) millis whole
  · have whole := dvd_duration_of_not_isToday spells other now
    simp only [secondMicros] at whole ⊢
    omega

/-- The last microsecond before a whole second of the afternoon of 1969-12-31, five hours and three
quarters ahead of UTC. -/
def lateAfternoon : Moment :=
  ⟨-31949000001, offsetMicros 345⟩

theorem timeClauses_window_lateAfternoon :
    timeClauses " Today" lateAfternoon =
        .ok [.within ⟨-107100, -52650, -107100000, -52649001⟩] ∧
      lateAfternoon.midnight.epochSeconds = -107100 ∧
      lateAfternoon.midnight.epochMillis = -107100000 ∧
      ⌊lateAfternoon.instant⌋ = -52650 ∧ ⌊lateAfternoon.instant * 10 ^ 3⌋ = -52649001 := by
  have returned : timeClauses " Today" lateAfternoon =
      .ok [.within ⟨-107100, -52650, -107100000, -52649001⟩] := by decide +kernel
  obtain ⟨window, same, -, -, seconds, millis, -, startSeconds, startMillis, -⟩ :=
    timeClauses_window returned
  obtain rfl := Clause.within.inj same
  have today : IsToday " Today" := by
    unfold IsToday
    decide +kernel
  exact ⟨returned, (startSeconds today (by decide)).symm, (startMillis today (by decide)).symm,
    seconds.symm, millis.symm⟩

/-- Six tenths of a second into 2024-05-01 in a zone that is less than half a second ahead of UTC. -/
def fractionalZone : Moment :=
  ⟨1714521600600000, 468750⟩

/-- Midnight and the reference time are in different seconds, but no second has passed between them:
the range in seconds starts one second after midnight and leaves out times of the other range. -/
theorem timeClauses_fractionalZone_late :
    timeClauses "today" fractionalZone =
        .ok [.within ⟨1714521600, 1714521600, 1714521599531, 1714521600131⟩] ∧
      fractionalZone.midnight.epochSeconds = 1714521599 ∧
      (1714521599531 : Int) / 1000 < 1714521600 := by
  decide +kernel

end Query

end FilterQuery
