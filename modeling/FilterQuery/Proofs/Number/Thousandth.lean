import FilterQuery.Proofs.Number.Significant

/-!
# Thousandths

The number nearest to a count of thousandths, multiplied by 1000 and rounded again. The result is
less than a half away from the count, but it may lie below it. Main statements: `scaledBack_div`
and `Binary64.ofRatio_mul_thousand`.
-/

set_option autoImplicit false

namespace FilterQuery.Number

variable {n : Nat}

/-- The steps of the number nearest to `n / 1000`. -/
def thousandths (n : Nat) : Nat :=
  roundToBits (n * unit) 1000

/-- The steps of 1000 times the number nearest to `n / 1000`. -/
def scaledBack (n : Nat) : Nat :=
  roundToBits (thousandths n * 1000) 1

/-- The thousandths are those of a power of two, or at most 24 in a thousand more. -/
def IsPastPower (n : Nat) : Prop :=
  ∃ up down, 1000 * 2 ^ up ≤ n * 2 ^ down ∧ n * 2 ^ down ≤ 1024 * 2 ^ up

theorem exists_unit_eq : ∃ width, 70 ≤ width ∧ unit = 2 ^ width := by
  have wide : 70 ≤ 1074 := by decide
  unfold unit
  generalize 1074 = width at wide ⊢
  exact ⟨width, wide, Nat.pow_eq⟩

theorem two_pow_le_unit : 2 ^ 70 ≤ unit := by
  obtain ⟨width, wide, power⟩ := exists_unit_eq
  rw [power]
  exact Nat.pow_le_pow_right Nat.two_pos wide

/-- Around a quotient by 1000 the numbers are close, even when their gaps are multiplied by it. -/
theorem spacing_thousandths_le (small : n ≤ 10 ^ 15) :
    4 * (1000 * spacing (n * unit / 1000)) ≤ unit := by
  have wide := two_pow_le_unit
  have most := Nat.mul_le_mul_right unit small
  have narrow := mul_spacing_le (n * unit) 1000
  omega

theorem thousandths_bounds (small : n ≤ 10 ^ 15) :
    4 * (thousandths n * 1000) ≤ 4 * (n * unit) + unit ∧
      4 * (n * unit) ≤ 4 * (thousandths n * 1000) + unit := by
  have close := spacing_thousandths_le small
  have bounds := roundToBits_bounds (n * unit) (show 0 < 1000 by decide)
  rw [thousandths]
  omega

/-- The second rounding does not go past a quarter either, since this far a quarter more or less
has 53 significant bits. -/
theorem scaledBack_bounds (small : n ≤ 10 ^ 15) :
    4 * scaledBack n ≤ 4 * (n * unit) + unit ∧ 4 * (n * unit) ≤ 4 * scaledBack n + unit := by
  obtain ⟨upper, lower⟩ := thousandths_bounds small
  obtain ⟨width, wide, power⟩ := exists_unit_eq
  obtain ⟨shift, rfl⟩ : ∃ shift, width = shift + 2 := ⟨width - 2, by omega⟩
  have quarter : unit = 4 * 2 ^ shift := by
    rw [power, Nat.pow_add, Nat.mul_comm]
  have whole : n * unit = 4 * n * 2 ^ shift := by
    rw [quarter, ← Nat.mul_assoc, Nat.mul_comm n]
  have more : (4 * n + 1) * 2 ^ shift = 4 * n * 2 ^ shift + 2 ^ shift := by
    rw [Nat.add_mul, Nat.one_mul]
  have less : (4 * n - 1) * 2 ^ shift = 4 * n * 2 ^ shift - 2 ^ shift := by
    rw [Nat.sub_mul, Nat.one_mul]
  have fits (factor : Nat) (narrow : factor ≤ 4 * n + 1) : Fits (factor * 2 ^ shift) :=
    fits_iff.mpr ⟨factor, shift, by omega, rfl⟩
  constructor
  · have rounded := roundToBits_le (fits (4 * n + 1) (Nat.le_refl _))
      (n := thousandths n * 1000) (by omega)
    rw [scaledBack]
    omega
  · have rounded := le_roundToBits (fits (4 * n - 1) (by omega))
      (n := thousandths n * 1000) (by omega)
    rw [scaledBack]
    omega

theorem scaledBack_div (small : n ≤ 10 ^ 15) :
    scaledBack n / unit = if n * unit ≤ scaledBack n then n else n - 1 := by
  have bounds := scaledBack_bounds small
  have positive := unit_pos
  have more : (n + 1) * unit = n * unit + unit := Nat.succ_mul n unit
  split
  · next reached =>
      exact (Nat.div_eq_iff positive).mpr (by omega)
  · next short =>
      obtain ⟨fewer, rfl⟩ : ∃ fewer, n = fewer + 1 :=
        Nat.exists_eq_succ_of_ne_zero (by rintro rfl; omega)
      have one : (fewer + 1) * unit = fewer * unit + unit := Nat.succ_mul fewer unit
      rw [Nat.add_sub_cancel]
      exact (Nat.div_eq_iff positive).mpr (by omega)

/-- A whole number of thousandths of thousand is not moved. -/
theorem whole_thousandths (small : n ≤ 10 ^ 15) (whole : thousandths n % unit = 0) :
    thousandths n / unit * 1000 ≤ n ∧ scaledBack n / unit = thousandths n / unit * 1000 := by
  obtain ⟨k, same⟩ := Nat.dvd_of_mod_eq_zero whole
  have quotient : thousandths n / unit = k := by
    rw [same, Nat.mul_div_cancel_left k unit_pos]
  have product : thousandths n * 1000 = k * 1000 * unit := by
    rw [same, Nat.mul_assoc, Nat.mul_comm]
  have bounds := (thousandths_bounds small).1
  have positive := unit_pos
  have le : k * 1000 ≤ n := by
    refine Nat.not_lt.mp fun more => ?_
    have least := Nat.mul_le_mul_right unit (Nat.succ_le_of_lt more)
    rw [Nat.succ_mul] at least
    omega
  rw [quotient, scaledBack, product, roundToBits_mul_unit,
    roundToBits_of_fits (fits_of_lt (by rw [Nat.pow_eq]; omega)), Nat.mul_div_cancel _ positive]
  exact ⟨le, rfl⟩

/-- An eighth is exact, and so are its multiples. -/
theorem thousandths_of_dvd (small : n ≤ 10 ^ 15) (divides : 125 ∣ n) :
    thousandths n * 1000 = n * unit := by
  obtain ⟨eighths, rfl⟩ := divides
  obtain ⟨width, wide, power⟩ := exists_unit_eq
  obtain ⟨shift, rfl⟩ : ∃ shift, width = shift + 3 := ⟨width - 3, by omega⟩
  have fits : Fits (eighths * 2 ^ shift) := fits_iff.mpr ⟨eighths, shift, by omega, rfl⟩
  have whole : 125 * eighths * unit = eighths * 2 ^ shift * 1000 := by
    rw [power, Nat.pow_add, Nat.mul_assoc 125, ← Nat.mul_assoc eighths, Nat.mul_comm 125,
      Nat.mul_assoc]
  have same := roundToBits_mul_right (show 0 < 1000 by decide) (eighths * 2 ^ shift) 1
  rw [Nat.one_mul, roundToBits_of_fits fits] at same
  rw [thousandths, whole, same]

theorem scaledBack_of_dvd (small : n ≤ 10 ^ 15) (divides : 125 ∣ n) :
    scaledBack n = n * unit := by
  obtain ⟨width, -, power⟩ := exists_unit_eq
  have fits : Fits (n * unit) := fits_iff.mpr ⟨n, width, by omega, by rw [power]⟩
  rw [scaledBack, thousandths_of_dvd small divides, roundToBits_of_fits fits]

theorem fits_mul_unit (narrow : n < 2 ^ 53) : Fits (n * unit) := by
  obtain ⟨width, wide, power⟩ := exists_unit_eq
  rw [power]
  exact fits_iff.mpr ⟨n, width, narrow, rfl⟩

/-- Behind that window, the count is above the power of two 10 places up, where the gaps are 1024
times as wide as those around the quotient. -/
theorem exists_power_lt (positive : 0 < n) (past : ¬IsPastPower n) :
    ∃ power, Fits power ∧ power < n * unit ∧
      spacing power = 1024 * spacing (n * unit / 1000) := by
  obtain ⟨width, wide, unitEq⟩ := exists_unit_eq
  have large : 2 ^ 60 ≤ n * unit / 1000 := by
    rw [Nat.le_div_iff_mul_le (by decide), unitEq]
    calc 2 ^ 60 * 1000 ≤ 2 ^ 70 := by decide
      _ ≤ 2 ^ width := Nat.pow_le_pow_right (by decide) wide
      _ ≤ n * 2 ^ width := Nat.le_mul_of_pos_left _ positive
  have notZero : n * unit / 1000 ≠ 0 := by
    rintro zero
    rw [zero] at large
    exact absurd large (by decide)
  have exponent_ge : 60 ≤ (n * unit / 1000).log2 := (Nat.le_log2 notZero).mpr large
  have lower := Nat.log2_self_le notZero
  have gap : spacing (n * unit / 1000) = 2 ^ ((n * unit / 1000).log2 - 52) := Nat.pow_eq
  rw [gap]
  clear gap large notZero
  generalize (n * unit / 1000).log2 = exponent at exponent_ge lower
  refine ⟨2 ^ (exponent + 10), fits_two_pow _, ?_, ?_⟩
  · rw [Nat.le_div_iff_mul_le (by decide), Nat.mul_comm, unitEq] at lower
    rw [Nat.pow_add, Nat.mul_comm, unitEq]
    exact Nat.not_le.mp fun upper => past ⟨exponent, width, lower, upper⟩
  · rw [spacing, Nat.log2_two_pow, Nat.pow_eq]
    calc 2 ^ (exponent + 10 - 52) = 2 ^ (10 + (exponent - 52)) := congrArg (2 ^ ·) (by omega)
      _ = 1024 * 2 ^ (exponent - 52) := Nat.pow_add 2 10 _

theorem le_scaledBack (small : n ≤ 10 ^ 15) (past : ¬IsPastPower n) : n * unit ≤ scaledBack n := by
  rcases Nat.eq_zero_or_pos n with rfl | positive
  · rw [Nat.zero_mul]
    exact Nat.zero_le _
  obtain ⟨power, fitsPower, less, gap⟩ := exists_power_lt positive past
  have fits : Fits (n * unit) := fits_mul_unit (by omega)
  have bounds := roundToBits_bounds (n * unit) (show 0 < 1000 by decide)
  have near := natAbs_roundToBits_sub_le (n := thousandths n * 1000) fits
  have room := add_spacing_le fitsPower fits less
  have some := spacing_pos (n * unit / 1000)
  rw [← thousandths] at bounds
  rw [← scaledBack] at near
  -- A result short of the count is a gap away from it, 1024 spacings of the quotient or more. The
  -- product itself is within 500 of them, so the count would be nearer to it than the result.
  refine Nat.not_lt.mp fun short => ?_
  have above : power ≤ scaledBack n := le_roundToBits fitsPower (by omega)
  have step : scaledBack n + spacing (scaledBack n) ≤ n * unit :=
    add_spacing_le (fits_roundToBits _ _) fits short
  have wider := Nat.le_of_dvd (spacing_pos _) (spacing_dvd_spacing above)
  omega
end FilterQuery.Number

namespace FilterQuery.Binary64

open Number

/-- An integer of 53 bits is a number. -/
theorem exists_ofInt (value : Int) (small : value.natAbs < 2 ^ 53) :
    ∃ magnitude : Magnitude, ofInt value = .finite (value < 0) magnitude ∧
      magnitude.steps = value.natAbs * unit := by
  obtain ⟨magnitude, finite, steps⟩ :=
    exists_ofRatio_one (Nat.le_trans (Nat.le_of_lt small) (by decide)) (decide (value < 0))
  rw [roundToBits_of_fits (fits_of_lt small)] at steps
  exact ⟨magnitude, finite, steps⟩

theorem rank_ofInt (value : Int) (small : value.natAbs < 2 ^ 53) :
    ofInt value ≠ .nan ∧ (ofInt value).rank = value * unit := by
  obtain ⟨magnitude, finite, steps⟩ := exists_ofInt value small
  rw [finite, rank, signed, steps]
  refine ⟨by simp, ?_⟩
  by_cases negative : value < 0
  · rw [if_pos (decide_eq_true negative), Int.natCast_mul,
      Int.ofNat_natAbs_of_nonpos (Int.le_of_lt negative), Int.neg_mul, Int.neg_neg]
  · rw [if_neg (by simpa using negative), Int.natCast_mul,
      Int.natAbs_of_nonneg (Int.not_lt.mp negative)]

/-- What a quotient by 1000 is, and what it is when it is multiplied by 1000. -/
theorem ofRatio_mul_thousand {n : Nat} (small : n ≤ 10 ^ 15) (negative : Bool) :
    ∃ quotient product : Magnitude,
      ofRatio negative n 1000 = .finite negative quotient ∧ quotient.steps = thousandths n ∧
        finite negative quotient * 1000 = .finite negative product ∧
        product.steps = scaledBack n := by
  have most : (n + 1) * unit < limit :=
    mul_unit_lt_limit 50 (Nat.le_trans (Nat.succ_le_succ small) (by decide)) (by decide)
  have next : (n + 1) * unit = n * unit + unit := Nat.succ_mul n unit
  have first := (thousandths_bounds small).1
  have second := (scaledBack_bounds small).1
  have firstLess : thousandths n < limit := by omega
  have secondLess : scaledBack n < limit := by omega
  obtain ⟨thousand, written, steps⟩ := exists_ofInt 1000 (by decide)
  have literal : (1000 : Binary64) = ofInt 1000 := rfl
  have same : (1000 : Int).natAbs = 1000 := rfl
  refine ⟨⟨thousandths n, fits_roundToBits _ _, firstLess⟩, ⟨scaledBack n, fits_roundToBits _ _,
    secondLess⟩, ?_, rfl, ?_, rfl⟩
  · have less : roundToBits (n * unit) 1000 < limit := firstLess
    rw [ofRatio, ofSteps, dif_pos less]
    rfl
  · have scaled : roundToBits (thousandths n * (1000 * unit)) unit = scaledBack n := by
      have same := roundToBits_mul_right unit_pos (thousandths n * 1000) 1
      rwa [Nat.mul_assoc, Nat.one_mul] at same
    rw [literal, written, mul_eq]
    change ofSteps (negative != false) (thousandths n * thousand.steps) unit = _
    have less := Nat.lt_of_le_of_lt (Nat.le_of_eq scaled) secondLess
    rw [steps, same, Bool.bne_false, ofSteps, dif_pos less]
    simp only [scaled]

end FilterQuery.Binary64
