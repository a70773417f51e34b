import FilterQuery.Proofs.Number.Thousandth
import Mathlib.Data.Nat.Prime.Basic

/-!
# Microseconds

A count of milliseconds is divided by 1000 with rounding, and the fraction of the quotient is scaled
and rounded to microseconds. The quotient alone tells whether that loses a microsecond or gains one:
it does exactly when the quotient is more than half a microsecond away. Main statements:
`splitMicros_lt_iff`, `lt_splitMicros_iff` and `splitMicros_of_fine`.
-/

set_option autoImplicit false

namespace FilterQuery.Number

variable {n steps : Nat}

/-- The microseconds that seconds are split into: the whole ones are kept, and the fraction is
scaled and rounded on its own. -/
def splitMicros (steps : Nat) : Nat :=
  steps / unit * 10 ^ 6 + roundHalfEven (roundToBits (steps % unit * 10 ^ 6) 1) unit

/-- The gap between numbers around the quotient of a count by 1000. -/
def quotientGap (n : Nat) : Nat :=
  spacing (n * unit / 1000)

/-- A quotient from `10 ^ 12` on is not rounded to less. -/
theorem le_thousandths (large : 10 ^ 15 ≤ n) : 10 ^ 12 * unit ≤ thousandths n := by
  have fits : Fits (10 ^ 12 * unit) := fits_mul_unit (by decide)
  refine le_roundToBits_of_mul_le fits (by decide) ?_
  rw [Nat.mul_right_comm]
  exact Nat.mul_le_mul_right unit large

theorem not_five_dvd_unit : ¬5 ∣ unit := by
  intro divides
  obtain ⟨width, -, power⟩ := exists_unit_eq
  rw [power] at divides
  have two : 5 ∣ 2 := Nat.Prime.dvd_of_dvd_pow (by decide) divides
  exact absurd two (by decide)

section Split

theorem scaled_eq (steps : Nat) :
    steps / unit * 10 ^ 6 * unit + steps % unit * 10 ^ 6 = steps * 10 ^ 6 := by
  rw [Nat.mul_right_comm, ← Nat.add_mul, Nat.div_add_mod']

/-- Rounding to microseconds is off by half a microsecond. -/
theorem splitMicros_bounds_of_fits (fits : Fits (steps % unit * 10 ^ 6)) :
    2 * (splitMicros steps * unit) ≤ 2 * (steps * 10 ^ 6) + unit ∧
      2 * (steps * 10 ^ 6) ≤ 2 * (splitMicros steps * unit) + unit := by
  have rounded := @roundHalfEven_bounds (steps % unit * 10 ^ 6) unit unit_pos
  have whole := scaled_eq steps
  rw [splitMicros, roundToBits_of_fits fits, Nat.add_mul]
  omega

/-- If the scaled fraction has to be rounded before, this adds little. -/
theorem splitMicros_bounds (steps : Nat) :
    2048 * (splitMicros steps * unit) ≤ 2048 * (steps * 10 ^ 6) + 1025 * unit ∧
      2048 * (steps * 10 ^ 6) ≤ 2048 * (splitMicros steps * unit) + 1025 * unit := by
  have positive := unit_pos
  have wide := two_pow_le_unit
  have less := Nat.mod_lt steps positive
  have scaled := roundToBits_bounds (steps % unit * 10 ^ 6) Nat.one_pos
  have narrow := mul_spacing_le (steps % unit * 10 ^ 6) 1
  have rounded := @roundHalfEven_bounds (roundToBits (steps % unit * 10 ^ 6) 1) unit positive
  have whole := scaled_eq steps
  rw [splitMicros, Nat.add_mul]
  omega

end Split

section Quotient

/-- The quotient is half a gap off. -/
theorem scaled_thousandths_bounds (n : Nat) :
    2 * (thousandths n * 10 ^ 6) ≤ 2 * (1000 * (n * unit)) + 10 ^ 6 * quotientGap n ∧
      2 * (1000 * (n * unit)) ≤ 2 * (thousandths n * 10 ^ 6) + 10 ^ 6 * quotientGap n := by
  obtain ⟨upper, lower⟩ := roundToBits_bounds (n * unit) (show 0 < 1000 by decide)
  rw [← thousandths, ← quotientGap] at upper lower
  have upperScaled := Nat.mul_le_mul_left 1000 upper
  have lowerScaled := Nat.mul_le_mul_left 1000 lower
  omega

/-- Gaps and units are powers of two, so that one is a multiple of the other. -/
theorem quotientGap_cases (n : Nat) :
    2 ^ 20 * quotientGap n ≤ unit ∨ unit ≤ 2 ^ 19 * quotientGap n := by
  obtain ⟨width, -, power⟩ := exists_unit_eq
  rw [power, quotientGap, spacing, Nat.pow_eq, ← Nat.pow_add, ← Nat.pow_add]
  rcases Nat.lt_or_ge (19 + ((n * unit / 1000).log2 - 52)) width with narrow | wide
  · exact .inl (Nat.pow_le_pow_right (by decide) (by omega))
  · exact .inr (Nat.pow_le_pow_right (by decide) wide)

theorem quotientGap_dvd_unit (small : n ≤ 10 ^ 15) : quotientGap n ∣ unit := by
  have close := spacing_thousandths_le small
  obtain ⟨width, -, power⟩ := exists_unit_eq
  have le : quotientGap n ≤ unit := by
    rw [quotientGap]
    omega
  rw [power, quotientGap, spacing, Nat.pow_eq] at *
  exact Nat.pow_dvd_pow 2 ((Nat.pow_le_pow_iff_right (by decide)).mp le)

/-- Around a quotient with wide gaps the fraction has so few bits that it can be scaled exactly. -/
theorem fits_scaled_fraction (small : n ≤ 10 ^ 15) (coarse : unit ≤ 2 ^ 19 * quotientGap n) :
    Fits (thousandths n % unit * 10 ^ 6) := by
  have divides : quotientGap n ∣ thousandths n := ⟨_, Nat.mul_comm _ _⟩
  obtain ⟨count, fraction⟩ := (Nat.dvd_mod_iff (quotientGap_dvd_unit small)).mpr divides
  have less : quotientGap n * count < quotientGap n * 2 ^ 19 := by
    rw [← fraction, Nat.mul_comm (quotientGap n)]
    exact Nat.lt_of_lt_of_le (Nat.mod_lt _ unit_pos) coarse
  have few : count < 2 ^ 19 := Nat.lt_of_mul_lt_mul_left less
  refine fits_iff.mpr ⟨count * 10 ^ 6, (n * unit / 1000).log2 - 52, by omega, ?_⟩
  rw [fraction, Nat.mul_assoc, Nat.mul_comm]
  rfl

end Quotient

section Count

/-- Around a quotient with narrow gaps nothing is lost. -/
theorem splitMicros_of_fine (fine : 2 ^ 20 * quotientGap n ≤ unit) :
    splitMicros (thousandths n) = 1000 * n ∧
      2 * (thousandths n * 10 ^ 6) < 2 * (1000 * (n * unit)) + unit ∧
      2 * (1000 * (n * unit)) < 2 * (thousandths n * 10 ^ 6) + unit := by
  have positive := unit_pos
  obtain ⟨upper, lower⟩ := scaled_thousandths_bounds n
  obtain ⟨above, below⟩ := splitMicros_bounds (thousandths n)
  have less : splitMicros (thousandths n) * unit < (1000 * n + 1) * unit := by
    rw [Nat.add_mul, Nat.mul_assoc]
    omega
  have more : 1000 * n * unit < (splitMicros (thousandths n) + 1) * unit := by
    rw [Nat.add_mul, Nat.mul_assoc]
    omega
  have le := Nat.lt_of_mul_lt_mul_right less
  have ge := Nat.lt_of_mul_lt_mul_right more
  exact ⟨by omega, by omega, by omega⟩

/-- The gaps are narrow below `2 ^ 33` seconds. -/
theorem quotientGap_fine (few : n < 1000 * 2 ^ 33) : 2 ^ 20 * quotientGap n ≤ unit := by
  obtain ⟨width, wide, power⟩ := exists_unit_eq
  by_cases none : n * unit / 1000 = 0
  · have gap : quotientGap n = 1 := by
      rw [quotientGap, none]
      rfl
    rw [gap, power, Nat.mul_one]
    exact Nat.pow_le_pow_right Nat.two_pos (by omega)
  · have less : n * unit / 1000 < 2 ^ (33 + width) := by
      rw [Nat.div_lt_iff_lt_mul (show 0 < 1000 by decide), Nat.pow_add, ← power,
        Nat.mul_right_comm, Nat.mul_comm (2 ^ 33)]
      exact Nat.mul_lt_mul_of_pos_right few unit_pos
    have narrow := (Nat.log2_lt none).mpr less
    rw [power, quotientGap, spacing, Nat.pow_eq, ← Nat.pow_add]
    exact Nat.pow_le_pow_right (by decide) (by omega)

/-- Nothing is lost, or the scaled fraction is rounded once. -/
theorem splitMicros_cases (small : n ≤ 10 ^ 15) :
    (splitMicros (thousandths n) = 1000 * n ∧
      2 * (thousandths n * 10 ^ 6) < 2 * (1000 * (n * unit)) + unit ∧
      2 * (1000 * (n * unit)) < 2 * (thousandths n * 10 ^ 6) + unit) ∨
    (2 * (splitMicros (thousandths n) * unit) ≤ 2 * (thousandths n * 10 ^ 6) + unit ∧
      2 * (thousandths n * 10 ^ 6) ≤ 2 * (splitMicros (thousandths n) * unit) + unit) :=
  (quotientGap_cases n).imp splitMicros_of_fine
    fun coarse => splitMicros_bounds_of_fits (fits_scaled_fraction small coarse)

/-- What is read of a count is less than the count exactly when the quotient is more than half a
microsecond less. It is never half a microsecond less, since five does not divide a power of two. -/
theorem splitMicros_lt_iff (small : n ≤ 10 ^ 15) :
    splitMicros (thousandths n) < 1000 * n ↔
      2 * (thousandths n * 10 ^ 6) + unit < 2 * (1000 * (n * unit)) := by
  have positive := unit_pos
  have odd := not_five_dvd_unit
  rcases splitMicros_cases small with ⟨same, upper, lower⟩ | ⟨upper, lower⟩
  · omega
  · constructor
    · intro less
      have step : (splitMicros (thousandths n) + 1) * unit ≤ 1000 * n * unit :=
        Nat.mul_le_mul_right unit less
      rw [Nat.add_mul, Nat.mul_assoc] at step
      omega
    · intro less
      refine Nat.lt_of_mul_lt_mul_right (a := unit) ?_
      rw [Nat.mul_assoc]
      omega

theorem lt_splitMicros_iff (small : n ≤ 10 ^ 15) :
    1000 * n < splitMicros (thousandths n) ↔
      2 * (1000 * (n * unit)) + unit < 2 * (thousandths n * 10 ^ 6) := by
  have positive := unit_pos
  have odd := not_five_dvd_unit
  rcases splitMicros_cases small with ⟨same, upper, lower⟩ | ⟨upper, lower⟩
  · omega
  · constructor
    · intro less
      have step : (1000 * n + 1) * unit ≤ splitMicros (thousandths n) * unit :=
        Nat.mul_le_mul_right unit less
      rw [Nat.add_mul, Nat.mul_assoc] at step
      omega
    · intro less
      refine Nat.lt_of_mul_lt_mul_right (a := unit) ?_
      rw [Nat.mul_assoc]
      omega

/-- What is read of a count is less than a half of a millisecond off. -/
theorem splitMicros_near (small : n ≤ 10 ^ 15) :
    splitMicros (thousandths n) < 1000 * n + 500 ∧
      1000 * n < splitMicros (thousandths n) + 500 := by
  have positive := unit_pos
  have wide := two_pow_le_unit
  obtain ⟨upper, lower⟩ := scaled_thousandths_bounds n
  obtain ⟨above, below⟩ := splitMicros_bounds (thousandths n)
  have most := Nat.mul_le_mul_right unit small
  have narrow := mul_spacing_le (n * unit) 1000
  rw [← quotientGap] at narrow
  constructor
  · refine Nat.lt_of_mul_lt_mul_right (a := unit) ?_
    rw [Nat.add_mul, Nat.mul_assoc]
    omega
  · refine Nat.lt_of_mul_lt_mul_right (a := unit) ?_
    rw [Nat.add_mul, Nat.mul_assoc]
    omega

end Count

end FilterQuery.Number
