import FilterQuery.Proofs.Number.Thousandth

/-!
# Integer parts of quotients

A quotient of natural numbers is rounded before its integer part is taken. The gaps around a
quotient are so narrow that rounding does not take it to the next integer when its numerator has at
most 53 bits, and a quotient that is an integer of as many bits is not rounded at all. Main
statements: `truncate_ofQuotient_of_lt` and `truncate_ofQuotient_of_dvd`.
-/

set_option autoImplicit false

namespace FilterQuery.Number

variable {n den : Nat}

theorem roundToBits_div_unit_of_lt (narrow : n < 2 ^ 53) (positive : 0 < den)
    (small : den ≤ unit) : roundToBits (n * unit) den / unit = n / den := by
  have units := unit_pos
  have whole := Nat.div_add_mod' n den
  have rest := Nat.mod_lt n positive
  refine Nat.div_eq_of_lt_le ?_ ?_
  · have fits : Fits (n / den * unit) :=
      fits_mul_unit (Nat.lt_of_le_of_lt (Nat.div_le_self n den) narrow)
    refine le_roundToBits_of_mul_le fits positive ?_
    rw [Nat.mul_right_comm]
    exact Nat.mul_le_mul_right unit (Nat.div_mul_le_self n den)
  · obtain ⟨upper, -⟩ := roundToBits_bounds (n * unit) positive
    have gap : den * spacing (n * unit / den) < 2 * unit := by
      have most := Nat.mul_lt_mul_of_pos_right narrow units
      have close := mul_spacing_le (n * unit) den
      omega
    have below : (n + 1) * unit ≤ (n / den + 1) * unit * den := by
      rw [Nat.mul_right_comm]
      refine Nat.mul_le_mul_right unit ?_
      rw [Nat.succ_mul]
      omega
    rw [Nat.succ_mul] at below
    refine Nat.lt_of_mul_lt_mul_right (a := den) ?_
    omega

theorem roundToBits_of_dvd (divides : den ∣ n) (positive : 0 < den) (narrow : n / den < 2 ^ 53) :
    roundToBits (n * unit) den = n / den * unit := by
  obtain ⟨whole, rfl⟩ := divides
  rw [Nat.mul_div_cancel_left _ positive] at narrow ⊢
  have scaled := roundToBits_mul_right positive (whole * unit) 1
  rw [Nat.one_mul, roundToBits_of_fits (fits_mul_unit narrow)] at scaled
  rw [Nat.mul_assoc, Nat.mul_comm, scaled]

end FilterQuery.Number

namespace FilterQuery.Binary64

open Number

variable {n den : Nat}

theorem truncate_ofRatio {whole : Nat} (same : roundToBits (n * unit) den / unit = whole)
    (narrow : whole < 2 ^ 53) (negative : Bool) :
    (ofRatio negative n den).truncate = .ok (withSign negative whole) := by
  have bounded : roundToBits (n * unit) den < limit := by
    have less : roundToBits (n * unit) den < (whole + 1) * unit :=
      (Nat.div_lt_iff_lt_mul unit_pos).mp (by omega)
    exact Nat.lt_trans less (mul_unit_lt_limit 53 narrow (by decide))
  rw [ofRatio, ofSteps, dif_pos bounded, truncate_finite, same]

theorem truncate_ofQuotient_of_lt (narrow : n < 2 ^ 53) (positive : 0 < den)
    (small : den ≤ unit) : (ofQuotient n den).truncate = .ok ((n / den : Nat) : Int) :=
  truncate_ofRatio (roundToBits_div_unit_of_lt narrow positive small)
    (Nat.lt_of_le_of_lt (Nat.div_le_self n den) narrow) _

theorem truncate_ofQuotient_of_dvd (divides : den ∣ n) (positive : 0 < den)
    (narrow : n / den < 2 ^ 53) :
    (ofQuotient n den).truncate = .ok ((n / den : Nat) : Int) := by
  refine truncate_ofRatio ?_ narrow _
  rw [Int.natAbs_natCast, roundToBits_of_dvd divides positive narrow, Nat.mul_div_cancel _ unit_pos]

end FilterQuery.Binary64
