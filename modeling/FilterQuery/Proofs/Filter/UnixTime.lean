import FilterQuery.Proofs.Filter.WrittenTime
import FilterQuery.Proofs.Number.Decimal
import FilterQuery.Proofs.Number.Thousandth

/-!
# Unix times in values

An instant that is written in seconds since 1970 is read by way of floating-point numbers, and one
that is written with a date is not. Main statement: `unixText_read` says when the two readings
agree.
-/

set_option autoImplicit false

namespace FilterQuery.Filter

open Number Text Rfc3339

/-- An instant in seconds with three decimals. -/
def unixText (millis : Int) : List Char :=
  (if millis < 0 then ['-'] else []) ++
    (Nat.toDigits 10 (millis.natAbs / 1000) ++ '.' :: lastDigits 3 millis.natAbs)

/-- An instant as a date and a time in UTC with three decimals. -/
def utcText (millis : Int) : List Char :=
  (Writing.ofMillis millis).text

/-- The rounded product of the seconds and 1000 does not fall short of the instant. -/
def IsReached (millis : Int) : Prop :=
  .ofInt millis.natAbs ≤ Binary64.ofQuotient millis.natAbs 1000 * 1000

instance (millis : Int) : Decidable (IsReached millis) :=
  inferInstanceAs (Decidable (_ ≤ _))

theorem readDate_utcText {millis : Int} (inside : InCalendar (1000 * millis)) :
    readDate (utcText millis) = .millis millis := by
  obtain ⟨real, inYears, same⟩ := Writing.ofMillis_spec inside
  rw [utcText, readDate_writing, if_pos real, if_pos inYears, same]

theorem read?_unixText (millis : Int) :
    Decimal.read? (unixText millis) = some ⟨decide (millis < 0), millis.natAbs, -(3 : Nat)⟩ := by
  have isSign : IsSign (if millis < 0 then ['-'] else []) (decide (millis < 0)) := by
    split
    · next negative => rw [decide_eq_true negative]; exact .minus
    · next positive => rw [decide_eq_false positive]; exact .none
  have read := Decimal.read?_append isSign (isDigits_toDigits (millis.natAbs / 1000))
    (.some (isDigits_lastDigits (show 0 < 3 by decide) millis.natAbs))
  have number : asciiNumber (Nat.toDigits 10 (millis.natAbs / 1000) ++
      lastDigits 3 millis.natAbs) = millis.natAbs := by
    rw [asciiNumber_append, asciiNumber_toDigits, asciiNumber_lastDigits, length_lastDigits]
    exact Nat.div_add_mod' millis.natAbs 1000
  rw [List.tail_cons, number, length_lastDigits] at read
  exact read

theorem getLast?_unixText (millis : Int) : (unixText millis).getLast? ≠ some '\n' := by
  have areDigits := isDigits_lastDigits (show 0 < 3 by decide) millis.natAbs
  have last := getLast?_append_digits areDigits ((if millis < 0 then ['-'] else []) ++
    (Nat.toDigits 10 (millis.natAbs / 1000) ++ ['.'])) (c := '\n') (by decide)
  simpa [unixText] using last

/-- Seconds are not taken for milliseconds. -/
theorem not_beyond_threshold {magnitude : Magnitude} (negative : Bool)
    (less : magnitude.steps ≤ 10 ^ 12 * unit) :
    ¬(Binary64.ofInt millisThreshold < .finite negative magnitude ∨
      Binary64.finite negative magnitude < .ofInt (-millisThreshold)) := by
  have upper := Binary64.rank_ofInt millisThreshold (by decide)
  have lower := Binary64.rank_ofInt (-millisThreshold) (by decide)
  have size := Binary64.natAbs_signed negative magnitude
  rw [Binary64.lt_iff_rank_lt upper.1 (by simp), Binary64.lt_iff_rank_lt (by simp) lower.1,
    upper.2, lower.2, Binary64.rank, millisThreshold]
  omega

theorem wholePart_finite (negative : Bool) (magnitude : Magnitude) :
    wholePart (.finite negative magnitude) = withSign negative (magnitude.steps / unit) := by
  rw [wholePart, Binary64.truncate_finite]
  rfl

theorem readDate_of_readNumeral {text : List Char} {number : Numeral}
    (read : readNumeral text = some number) : readDate text = .millis number.millis := by
  rw [readDate, read]

/-- Seconds are multiplied by 1000, as integers or with rounding. -/
theorem readDate_unixText {millis : Int} (small : millis.natAbs < 10 ^ 15) :
    readDate (unixText millis) =
      .millis (withSign (millis < 0) (scaledBack millis.natAbs / unit)) := by
  obtain ⟨quotient, product, finite, quotientSteps, times, productSteps⟩ :=
    Binary64.ofRatio_mul_thousand (Nat.le_of_lt small) (decide (millis < 0))
  have rounded := Decimal.toBinary64_eq_ofRatio (n := millis.natAbs)
    (Nat.lt_trans small (by decide)) (show 3 ≤ 100 by decide) (decide (millis < 0))
  have read := readNumeral_of_finite (getLast?_unixText millis) (read?_unixText millis)
    (rounded.trans finite)
  rw [readDate_of_readNumeral read, quotientSteps]
  -- Whole seconds are an integer when they are multiplied, all others a floating-point number.
  split
  · next whole =>
      obtain ⟨le, same⟩ := whole_thousandths (Nat.le_of_lt small) whole
      have few : ¬millisThreshold < ((thousandths millis.natAbs / unit : Nat) : Int) := by
        rw [millisThreshold]
        omega
      rw [Numeral.millis, natAbs_withSign, if_neg few, same, withSign_mul]
      rfl
  · have bounds := (thousandths_bounds (Nat.le_of_lt small)).1
    have less : quotient.steps ≤ 10 ^ 12 * unit := by
      have most := Nat.mul_le_mul_right unit (Nat.succ_le_of_lt small)
      rw [Nat.succ_mul] at most
      omega
    rw [Numeral.millis, if_neg (not_beyond_threshold _ less), times, wholePart_finite, productSteps]

theorem isReached_iff {millis : Int} (small : millis.natAbs < 10 ^ 15) :
    IsReached millis ↔ millis.natAbs * unit ≤ scaledBack millis.natAbs := by
  obtain ⟨quotient, product, finite, quotientSteps, times, productSteps⟩ :=
    Binary64.ofRatio_mul_thousand (Nat.le_of_lt small) false
  have positive : decide ((millis.natAbs : Int) < 0) = false :=
    decide_eq_false (Int.not_lt.mpr (Int.natCast_nonneg _))
  have instant := Binary64.rank_ofInt millis.natAbs (by omega)
  rw [IsReached, Binary64.ofQuotient, positive, Int.natAbs_natCast, finite, times,
    Binary64.le_iff_rank_le instant.1 (by simp), instant.2, Binary64.rank, Binary64.signed,
    productSteps, if_neg Bool.false_ne_true, ← Int.natCast_mul, Int.ofNat_le]

/-- An instant is read from its date and time. From its seconds the same is read, or the next
millisecond towards 1970, and the same exactly if the product does not fall short of the instant. It
does not for eighths of a second, nor if the seconds are no power of two and not up to 2.4 percent
more than one. -/
theorem unixText_read {millis : Int} (inside : InCalendar (1000 * millis)) :
    readDate (utcText millis) = .millis millis ∧
      readDate (unixText millis) =
        .millis (if IsReached millis then millis else millis - millis.sign) ∧
      (readDate (unixText millis) = readDate (utcText millis) ↔ IsReached millis) ∧
      (125 ∣ millis → IsReached millis) ∧
      (¬IsPastPower millis.natAbs → IsReached millis) := by
  have small : millis.natAbs < 10 ^ 15 := by
    have micros := natAbs_lt_of_inCalendar inside
    omega
  have reached_iff := isReached_iff small
  have utc := readDate_utcText inside
  have unix : readDate (unixText millis) =
      .millis (if IsReached millis then millis else millis - millis.sign) := by
    rw [readDate_unixText small, scaledBack_div (Nat.le_of_lt small)]
    by_cases reached : IsReached millis
    · rw [if_pos (reached_iff.mp reached), if_pos reached, withSign_natAbs]
    · rw [if_neg (mt reached_iff.mpr reached), if_neg reached, withSign_natAbs_sub_one]
  have eighths (divides : 125 ∣ millis) : IsReached millis := by
    rw [reached_iff, scaledBack_of_dvd (Nat.le_of_lt small) (Int.natCast_dvd.mp divides)]
  refine ⟨utc, unix, ?_, eighths, fun past => ?_⟩
  · rw [utc, unix, DateReading.millis.injEq]
    split
    · next reached => exact iff_of_true rfl reached
    · next short =>
        refine iff_of_false (fun same => short (eighths ?_)) short
        have zero : millis = 0 := Int.sign_eq_zero_iff_zero.mp (by omega)
        rw [zero]
        exact Int.dvd_zero 125
  · exact reached_iff.mpr (le_scaledBack (Nat.le_of_lt small) past)

theorem unixText_read_before1970 :
    InCalendar (1000 * -1728003617123) ∧
      readDate "1915-03-30T22:59:42.877Z".toList = .millis (-1728003617123) ∧
      readDate "-1728003617.123".toList = .millis (-1728003617123) := by
  have inside : InCalendar (1000 * -1728003617123) := by decide
  obtain ⟨utc, unix, -, -, -⟩ := unixText_read inside
  have reached : IsReached (-1728003617123) := by decide +kernel
  have utcSame : utcText (-1728003617123) = "1915-03-30T22:59:42.877Z".toList := by
    decide +kernel
  have unixSame : unixText (-1728003617123) = "-1728003617.123".toList := by
    decide +kernel
  rw [if_pos reached, unixSame] at unix
  rw [utcSame] at utc
  exact ⟨inside, utc, unix⟩

/-- A product that falls short of the instant. -/
theorem readDate_roundedSeconds_short :
    readDate "1.001".toList = .millis 1000 ∧
      readDate "1970-01-01T00:00:01.001Z".toList = .millis 1001 := by
  decide +kernel

end FilterQuery.Filter
