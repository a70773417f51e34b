import FilterQuery.CommandLine.Run
import FilterQuery.Proofs.Time.Splitting
import FilterQuery.Proofs.Timeframe.Window
import FilterQuery.ReferenceTime
import FilterQuery.Service.Basic

/-!
# Instants of reference times

A reference time is read as milliseconds, which are divided by 1000 with rounding before the time is
placed on a clock. The second is kept. The millisecond is kept, or the one before it is taken: that
happens exactly when the rounded quotient is more than half a microsecond short. Main statement:
`taken_instant`.
-/

set_option autoImplicit false

namespace FilterQuery

open Number

/-- The rational number that a finite number is. -/
def Binary64.toRat (number : Binary64) : ℚ :=
  number.rank / unit

/-- The number of seconds that is nearest to an instant lies more than half a microsecond before
it. -/
def FallsShort (millis : Int) : Prop :=
  (Binary64.ofQuotient millis 1000).toRat + 1 / (2 * 10 ^ 6) < millis / 1000

instance (millis : Int) : Decidable (FallsShort millis) :=
  inferInstanceAs (Decidable (_ < _))

/-- A reader takes the moment from a text: that of the option for the reference time, or that of a
request, whose outer blanks do not count. -/
inductive IsTaken (zone : Int) : String → Moment → Prop where
  | option {current moment : Moment} {text : String} :
      text ≠ "" → CommandLine.readNow zone current (some text) = .ok moment →
      IsTaken zone text moment
  | request {current moment : Moment} {text : String} :
      text ≠ "" → Service.referenceTime ⟨zone, current⟩ (some text) = .ok moment →
      IsTaken zone (Text.trimmed text) moment

variable {zone millis : Int} {text : String} {current moment : Moment}

theorem readNow_eq_ok_iff (filled : text ≠ "") :
    CommandLine.readNow zone current (some text) = .ok moment ↔
      readReference zone text = .ok moment := by
  unfold CommandLine.readNow
  split
  · next none => cases none
  · next empty => exact absurd (Option.some.inj empty) filled
  · next same =>
      cases same
      split
      all_goals
        next known => simp [known]

theorem referenceTime_eq_ok_iff (filled : text ≠ "") :
    Service.referenceTime ⟨zone, current⟩ (some text) = .ok moment ↔
      readReference zone (Text.trimmed text) = .ok moment := by
  unfold Service.referenceTime
  split
  · next none => cases none
  · next empty => exact absurd (Option.some.inj empty) filled
  · next same =>
      cases same
      split
      all_goals
        next known => simp [known]

theorem IsTaken.readReference (taken : IsTaken zone text moment) :
    readReference zone text = .ok moment := by
  cases taken with
  | option filled read => exact (readNow_eq_ok_iff filled).mp read
  | request filled read => exact (referenceTime_eq_ok_iff filled).mp read

theorem readReference_eq_ok_iff : readReference zone text = .ok moment ↔
    ∃ millis, Filter.readDate text.toList = .millis millis ∧
      Moment.ofMillis zone millis = .ok moment := by
  unfold readReference
  split
  · next reading => simp [reading]
  · next reading => simp [reading]
  · next millis reading => simp [reading, mapError_eq_ok_iff]

section Instant

/-- The comparison in seconds is one in steps of any size. -/
theorem half_micro_lt_iff {scale : Nat} (positive : 0 < scale) (rank millis : Int) :
    (rank : ℚ) / scale + 1 / (2 * 10 ^ 6) < millis / 1000 ↔
      2 * (rank * 10 ^ 6) + scale < 2 * (1000 * (millis * scale)) := by
  have positiveRat : (0 : ℚ) < scale := Nat.cast_pos.mpr positive
  have product : millis * (scale * (2 * 10 ^ 6) : Nat) = 2 * 10 ^ 6 * (millis * scale) := by
    push_cast
    ring
  rw [div_add_div _ _ positiveRat.ne' (by norm_num), div_lt_div_iff₀ (by positivity) (by norm_num)]
  norm_cast
  rw [product]
  omega

variable (small : millis.natAbs ≤ 10 ^ 15)

include small

theorem fallsShort_iff : FallsShort millis ↔
    2 * (withSign (millis < 0) (thousandths millis.natAbs) * 10 ^ 6) + unit <
      2 * (1000 * (millis * unit)) := by
  obtain ⟨quotient, -, finite, steps, -, -⟩ :=
    Binary64.ofRatio_mul_thousand small (decide (millis < 0))
  have rank : (Binary64.ofQuotient millis 1000).rank =
      withSign (millis < 0) (thousandths millis.natAbs) := by
    rw [Binary64.ofQuotient, finite, ← steps]
    rfl
  rw [FallsShort, Binary64.toRat, rank]
  exact half_micro_lt_iff unit_pos _ millis

/-- What is read of an instant is less than the instant exactly when the seconds fall short. -/
theorem lt_iff_fallsShort :
    withSign (millis < 0) (splitMicros (thousandths millis.natAbs)) < 1000 * millis ↔
      FallsShort millis := by
  have product : millis * unit = withSign (millis < 0) (millis.natAbs * unit) := by
    rw [withSign_mul, withSign_natAbs]
  rw [fallsShort_iff small, product]
  by_cases negative : millis < 0
  · have more := lt_splitMicros_iff small
    simp only [withSign, negative, decide_true, ↓reduceIte]
    omega
  · have less := splitMicros_lt_iff small
    simp only [withSign, negative, decide_false, Bool.false_eq_true, ↓reduceIte]
    omega

theorem splitMicros_natAbs_near :
    1000 * millis - 500 < withSign (millis < 0) (splitMicros (thousandths millis.natAbs)) ∧
      withSign (millis < 0) (splitMicros (thousandths millis.natAbs)) < 1000 * millis + 500 := by
  obtain ⟨upper, lower⟩ := splitMicros_near small
  by_cases negative : millis < 0
  · simp only [withSign, negative, decide_true, ↓reduceIte]
    omega
  · simp only [withSign, negative, decide_false, Bool.false_eq_true, ↓reduceIte]
    omega

/-- Eighths of a second are exact. -/
theorem not_fallsShort_of_dvd (divides : 125 ∣ millis) : ¬FallsShort millis := by
  have exact := thousandths_of_dvd small (Int.natCast_dvd.mp divides)
  have product := withSign_mul (millis < 0) (thousandths millis.natAbs) 1000
  rw [exact, withSign_mul, withSign_natAbs] at product
  rw [fallsShort_iff small, product]
  omega

end Instant

theorem not_fallsShort_of_lt (few : millis.natAbs < 1000 * 2 ^ 33) : ¬FallsShort millis := by
  have small : millis.natAbs ≤ 10 ^ 15 := by omega
  have same := (splitMicros_of_fine (quotientGap_fine few)).1
  rw [← lt_iff_fallsShort small, same, Nat.mul_comm, withSign_mul, withSign_natAbs]
  omega

/-- A second begins at an exact number of seconds, so nothing that falls short of a later
millisecond falls short of it. -/
theorem epoch_of_ofMillis (placed : Moment.ofMillis zone millis = .ok moment) :
    moment.epochSeconds = millis / 1000 ∧
      moment.epochMillis = if FallsShort millis then millis - 1 else millis := by
  obtain ⟨instant, small⟩ := Moment.epochMicros_of_ofMillis placed
  obtain ⟨lower, upper⟩ := splitMicros_natAbs_near small
  have short := lt_iff_fallsShort small
  rw [← instant] at lower upper short
  rw [Moment.epochSeconds, Moment.epochMillis]
  split
  · next falls =>
      have before := short.mpr falls
      have fraction : ¬125 ∣ millis := fun divides => not_fallsShort_of_dvd small divides falls
      omega
  · next reached =>
      have after := mt short.mp reached
      omega

/-- The moment that is taken from a text, and the windows that end at it, are the second of the
instant that the text names. They are its millisecond as well, unless the number of seconds falls
short; then they are the millisecond before. Within `2 ^ 33` seconds of 1970, and at eighths of a
second, none falls short. -/
theorem taken_instant (taken : IsTaken zone text moment) :
    ∃ millis, Filter.readDate text.toList = .millis millis ∧
      moment.epochSeconds = millis / 1000 ∧
      moment.epochMillis = (if FallsShort millis then millis - 1 else millis) ∧
      (∀ timeframe window, Query.timeClauses timeframe moment = .ok [.within window] →
        window.secondsTo = moment.epochSeconds ∧ window.millisTo = moment.epochMillis) ∧
      (millis.natAbs < 1000 * 2 ^ 33 → ¬FallsShort millis) ∧
      (125 ∣ millis → ¬FallsShort millis) := by
  obtain ⟨millis, read, placed⟩ := readReference_eq_ok_iff.mp taken.readReference
  obtain ⟨seconds, within⟩ := epoch_of_ofMillis placed
  have small := (Moment.epochMicros_of_ofMillis placed).2
  refine ⟨millis, read, seconds, within, fun timeframe window returned => ?_,
    not_fallsShort_of_lt, not_fallsShort_of_dvd small⟩
  obtain ⟨other, same, known⟩ := Query.exists_window_of_timeClauses returned
  obtain rfl := Filter.Clause.within.inj same
  obtain ⟨form, -, -, rfl⟩ := Timeframe.exists_form_of_window known
  exact ⟨rfl, rfl⟩

/-- The last millisecond of 1969, as it is read five hours and three quarters ahead of UTC. -/
theorem taken_instant_lastMillisecond :
    Service.referenceTime ⟨offsetMicros 345, ⟨0, 0⟩⟩ (some " 1969-12-31T23:59:59.999Z\t") =
        .ok ⟨20699999000, offsetMicros 345⟩ ∧
      (⟨20699999000, offsetMicros 345⟩ : Moment).epochSeconds = -1 ∧
      (⟨20699999000, offsetMicros 345⟩ : Moment).epochMillis = -1 := by
  have placed : readReference (offsetMicros 345) (Text.trimmed " 1969-12-31T23:59:59.999Z\t") =
      .ok ⟨20699999000, offsetMicros 345⟩ := by decide +kernel
  have returned : Service.referenceTime ⟨offsetMicros 345, ⟨0, 0⟩⟩ (some " 1969-12-31T23:59:59.999Z\t") =
      .ok ⟨20699999000, offsetMicros 345⟩ := (referenceTime_eq_ok_iff (by decide)).mpr placed
  obtain ⟨millis, read, seconds, within, -, exact, -⟩ :=
    taken_instant (IsTaken.request (by decide) returned)
  have known : Filter.readDate (Text.trimmed " 1969-12-31T23:59:59.999Z\t").toList =
      .millis (-1) := by decide +kernel
  obtain rfl : -1 = millis := Filter.DateReading.millis.inj (known.symm.trans read)
  rw [if_neg (exact (by decide))] at within
  exact ⟨returned, seconds, within⟩

/-- From `2 ^ 33` seconds on, which is in 2242, numbers of seconds are two microseconds apart. -/
theorem readNow_year2242_short :
    CommandLine.readNow 0 ⟨0, 0⟩ (some "2242-03-16T12:56:32.001Z") =
        .ok ⟨8589934592000999, 0⟩ ∧
      Filter.readDate "2242-03-16T12:56:32.001Z".toList = .millis 8589934592001 ∧
      (⟨8589934592000999, 0⟩ : Moment).epochMillis = 8589934592000 := by
  have placed : readReference 0 "2242-03-16T12:56:32.001Z" = .ok ⟨8589934592000999, 0⟩ := by
    decide +kernel
  have read : Filter.readDate "2242-03-16T12:56:32.001Z".toList = .millis 8589934592001 := by
    decide +kernel
  exact ⟨(readNow_eq_ok_iff (by decide)).mpr placed, read, rfl⟩

end FilterQuery
