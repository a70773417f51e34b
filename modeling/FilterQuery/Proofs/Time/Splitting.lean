import FilterQuery.Proofs.Number.Integer
import FilterQuery.Proofs.Number.Microsecond
import FilterQuery.Proofs.Outcome
import FilterQuery.Proofs.Time.Moment

/-!
# Moments from milliseconds

A moment is placed on a clock by way of a number of seconds, which is split into whole seconds and
microseconds. The zone has no part in which instant it is. Main statement:
`epochMicros_of_ofMillis`.
-/

set_option autoImplicit false

namespace FilterQuery.Number

/-- The fraction of a number has no more significant bits than the number. -/
theorem fits_mod_unit {n : Nat} (fits : Fits n) : Fits (n % unit) := by
  obtain ⟨width, -, power⟩ := exists_unit_eq
  rcases Nat.le_total (n.log2 - 52) width with narrow | wide
  · have divides : spacing n ∣ unit := by
      rw [power]
      exact Nat.pow_dvd_pow 2 narrow
    exact Nat.dvd_trans (spacing_dvd_spacing (Nat.mod_le n unit))
      ((Nat.dvd_mod_iff divides).mpr fits)
  · have divides : unit ∣ n := by
      refine Nat.dvd_trans ?_ fits
      rw [power]
      exact Nat.pow_dvd_pow 2 wide
    rw [Nat.mod_eq_zero_of_dvd divides]
    exact fits_of_lt (by decide)

end FilterQuery.Number

namespace FilterQuery.Binary64

open Number

variable {negative : Bool} {magnitude : Magnitude}

theorem fraction_finite (negative : Bool) (magnitude : Magnitude) :
    ∃ part : Magnitude, (finite negative magnitude).fraction = .finite negative part ∧
      part.steps = magnitude.steps % unit := by
  have fits := fits_mod_unit magnitude.fits
  have less : roundToBits (magnitude.steps % unit) 1 < limit := by
    rw [roundToBits_of_fits fits]
    exact Nat.lt_trans (Nat.mod_lt _ unit_pos) unit_lt_limit
  refine ⟨⟨_, fits_roundToBits _ _, less⟩, ?_, roundToBits_of_fits fits⟩
  rw [fraction, ofSteps, dif_pos less]

theorem mul_million (negative : Bool) (magnitude : Magnitude) (less : magnitude.steps < unit) :
    ∃ product : Magnitude, finite negative magnitude * 1000000 = .finite negative product ∧
      product.steps = roundToBits (magnitude.steps * 10 ^ 6) 1 := by
  obtain ⟨million, written, steps⟩ := exists_ofInt 1000000 (by decide)
  have literal : (1000000 : Binary64) = ofInt 1000000 := rfl
  have same : (1000000 : Int).natAbs = 10 ^ 6 := rfl
  have scaled : roundToBits (magnitude.steps * million.steps) unit =
      roundToBits (magnitude.steps * 10 ^ 6) 1 := by
    have ratio := roundToBits_mul_right unit_pos (magnitude.steps * 10 ^ 6) 1
    rwa [Nat.mul_assoc, Nat.one_mul, ← same, ← steps] at ratio
  have bounded : roundToBits (magnitude.steps * million.steps) unit < limit := by
    have most : magnitude.steps * 10 ^ 6 ≤ 2 ^ 20 * unit := by omega
    have fits : Fits (2 ^ 20 * unit) := fits_mul_unit (by decide)
    rw [scaled]
    exact Nat.lt_of_le_of_lt (roundToBits_le fits most)
      (mul_unit_lt_limit 20 (Nat.le_refl _) (by decide))
  refine ⟨⟨_, fits_roundToBits _ _, bounded⟩, ?_, scaled⟩
  rw [literal, written, mul_eq]
  change ofSteps (negative != false) (magnitude.steps * million.steps) unit = _
  rw [Bool.bne_false, ofSteps, dif_pos bounded]

theorem roundToInt_finite (negative : Bool) (magnitude : Magnitude) :
    (finite negative magnitude).roundToInt =
      withSign negative (roundHalfEven magnitude.steps unit) := by
  cases negative <;> rfl

end FilterQuery.Binary64

namespace FilterQuery.Moment

open Number

variable {zone millis whole micros : Int} {seconds : Binary64} {moment : Moment}

theorem exists_finite_of_splitSeconds (split : splitSeconds seconds = .ok (whole, micros)) :
    ∃ negative magnitude, seconds = .finite negative magnitude := by
  cases seconds with
  | nan => cases split
  | infinite negative => cases split
  | finite negative magnitude => exact ⟨negative, magnitude, rfl⟩

/-- The sum of the two parts does not depend on which second the fraction is rounded to. -/
theorem splitSeconds_finite {negative : Bool} {magnitude : Magnitude}
    (split : splitSeconds (.finite negative magnitude) = .ok (whole, micros)) :
    whole * secondMicros + micros = withSign negative (splitMicros magnitude.steps) := by
  obtain ⟨part, fraction, fractionSteps⟩ := Binary64.fraction_finite negative magnitude
  have less : part.steps < unit := fractionSteps ▸ Nat.mod_lt _ unit_pos
  obtain ⟨product, scaled, productSteps⟩ := Binary64.mul_million negative part less
  rw [fractionSteps] at productSteps
  have sum : withSign negative (magnitude.steps / unit) * secondMicros +
      (Binary64.finite negative product).roundToInt =
      withSign negative (splitMicros magnitude.steps) := by
    rw [Binary64.roundToInt_finite, productSteps, splitMicros, secondMicros]
    cases negative
    · simp only [withSign, Bool.false_eq_true, ↓reduceIte]
      omega
    · simp only [withSign, ↓reduceIte]
      omega
  rw [splitSeconds, Binary64.truncate_finite, fraction, scaled] at split
  simp only at split
  -- A second is carried, or borrowed, or neither.
  split at split
  · split at split
    · cases split
      rw [← sum, secondMicros]
      omega
    · cases split
  · split at split
    · split at split
      · cases split
        rw [← sum, secondMicros]
        omega
      · cases split
    · split at split
      · cases split
        exact sum
      · cases split

/-- A wall clock shows the time, and its offset is that of the zone. -/
theorem epochMicros_of_ofWall {wall : Int} (placed : ofWall zone wall = .ok moment) :
    moment.epochMicros = wall - zone ∧ InCalendar moment.epochMicros := by
  simp only [ofWall] at placed
  split at placed
  · cases placed
  split at placed
  · cases placed
  split at placed
  · cases placed
  split at placed
  · next inside =>
      cases placed
      exact ⟨rfl, inside⟩
  · cases placed

theorem exists_split_of_ofSeconds (placed : ofSeconds zone seconds = .ok moment) :
    ∃ whole micros, splitSeconds seconds = .ok (whole, micros) ∧
      ofWall zone (whole * secondMicros + micros + zone) = .ok moment := by
  rw [ofSeconds] at placed
  obtain ⟨⟨whole, micros⟩, split, placed⟩ := bind_eq_ok_iff.mp placed
  simp only at placed
  split at placed
  · cases placed
  split at placed
  · cases placed
  exact ⟨whole, micros, split, placed⟩

theorem ofQuotient_thousand {negative : Bool} {magnitude : Magnitude}
    (finite : Binary64.ofQuotient millis 1000 = .finite negative magnitude) :
    negative = decide (millis < 0) ∧ magnitude.steps = thousandths millis.natAbs := by
  rw [Binary64.ofQuotient, Binary64.ofRatio, Binary64.ofSteps] at finite
  split at finite
  · cases finite
    exact ⟨rfl, rfl⟩
  · cases finite

/-- The instant of a moment in any zone is what the milliseconds are split into. They are few enough
for that to be close. -/
theorem epochMicros_of_ofMillis (placed : ofMillis zone millis = .ok moment) :
    moment.epochMicros = withSign (millis < 0) (splitMicros (thousandths millis.natAbs)) ∧
      millis.natAbs ≤ 10 ^ 15 := by
  obtain ⟨whole, micros, split, onWall⟩ := exists_split_of_ofSeconds placed
  obtain ⟨instant, inside⟩ := epochMicros_of_ofWall onWall
  rw [Int.add_sub_cancel] at instant
  obtain ⟨negative, magnitude, finite⟩ := exists_finite_of_splitSeconds split
  obtain ⟨sign, steps⟩ := ofQuotient_thousand finite
  rw [finite] at split
  rw [splitSeconds_finite split, sign, steps] at instant
  refine ⟨instant, Nat.le_of_lt (Nat.not_le.mp fun large => ?_)⟩
  have seconds : 10 ^ 12 ≤ thousandths millis.natAbs / unit :=
    (Nat.le_div_iff_mul_le unit_pos).mpr (le_thousandths large)
  have most := natAbs_lt_of_inCalendar inside
  rw [instant, natAbs_withSign, splitMicros] at most
  omega

end FilterQuery.Moment
