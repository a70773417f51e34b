/-!
# Rounding to 53 significant bits

Rounding of ratios of natural numbers to the nearest whole number, and to the nearest number with
at most 53 significant bits. A tie goes to the even neighbour. Main statement: a rounded number
has at most 53 significant bits.
-/

set_option autoImplicit false

namespace FilterQuery.Number

/-- The whole number nearest to `num / den`; halfway between two, the even one. -/
def roundHalfEven (num den : Nat) : Nat :=
  let whole := num / den
  let twice := 2 * (num % den)
  if twice < den then whole
  else if den < twice then whole + 1
  else whole + whole % 2

/-- The distance between neighbouring numbers of 53 significant bits around `n`. -/
def spacing (n : Nat) : Nat :=
  Nat.pow 2 (n.log2 - 52)

/-- The number of at most 53 significant bits that is nearest to `num / den`. -/
def roundToBits (num den : Nat) : Nat :=
  roundHalfEven num (den * spacing (num / den)) * spacing (num / den)

/-- A number has at most 53 significant bits: it is a multiple of the spacing around it. -/
def Fits (n : Nat) : Prop :=
  spacing n ∣ n

instance (n : Nat) : Decidable (Fits n) :=
  inferInstanceAs (Decidable (spacing n ∣ n))

theorem fits_of_lt {n : Nat} (small : n < Nat.pow 2 53) : Fits n := by
  have width : n.log2 - 52 = 0 := by
    by_cases h : n = 0
    · simp [h]
    · have := (Nat.log2_lt h).2 small
      omega
  simp [Fits, spacing, width]

theorem roundHalfEven_le (num den : Nat) : roundHalfEven num den ≤ num / den + 1 := by
  simp only [roundHalfEven]
  split
  · omega
  · split <;> omega

/-- A multiple of a power of two fits when its other factor has at most 53 bits. -/
theorem fits_mul_pow {factor shift : Nat} (bound : factor ≤ Nat.pow 2 53) :
    Fits (factor * Nat.pow 2 shift) := by
  rw [Nat.pow_eq] at bound
  rw [Nat.pow_eq]
  by_cases full : factor = 2 ^ 53
  · subst full
    rw [Fits, spacing, ← Nat.pow_add, Nat.log2_two_pow]
    exact Nat.pow_dvd_pow 2 (by omega)
  · by_cases none : factor = 0
    · simp [none, Fits, spacing]
    · have small : factor < 2 ^ 53 := by omega
      have positive : factor * 2 ^ shift ≠ 0 :=
        Nat.mul_ne_zero none (Nat.pos_iff_ne_zero.1 (Nat.two_pow_pos shift))
      have width : (factor * 2 ^ shift).log2 < 53 + shift := by
        rw [Nat.log2_lt positive, Nat.pow_add]
        exact Nat.mul_lt_mul_of_pos_right small (Nat.two_pow_pos shift)
      exact Nat.dvd_trans (Nat.pow_dvd_pow 2 (by omega)) (Nat.dvd_mul_left _ _)

theorem div_spacing_lt (n : Nat) : n / spacing n < Nat.pow 2 53 := by
  have upper : n < 2 ^ (n.log2 + 1) := Nat.lt_log2_self
  simp only [spacing, Nat.pow_eq]
  rw [Nat.div_lt_iff_lt_mul (Nat.two_pow_pos _), ← Nat.pow_add]
  exact Nat.lt_of_lt_of_le upper (Nat.pow_le_pow_right (by decide) (by omega))

theorem fits_roundToBits (num den : Nat) : Fits (roundToBits num den) := by
  apply fits_mul_pow
  refine Nat.le_trans (roundHalfEven_le _ _) ?_
  rw [← Nat.div_div_eq_div_mul]
  exact div_spacing_lt (num / den)

end FilterQuery.Number
