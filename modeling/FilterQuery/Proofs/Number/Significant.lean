import FilterQuery.Proofs.Number.Product

/-!
# Numbers of 53 significant bits

Rounding leaves exactly the numbers of 53 significant bits as they are and goes to the nearest one
from all others. Only the ratio counts, so that whole numbers and their steps are rounded alike.
Main statements: `roundSigned_eq_self_iff` and `natAbs_roundSigned_sub_le`.
-/

set_option autoImplicit false

namespace FilterQuery.Number

variable {m n num den scale : Nat}

theorem fits_iff : Fits n ↔ ∃ factor shift, factor < 2 ^ 53 ∧ n = factor * 2 ^ shift := by
  constructor
  · intro fits
    exact ⟨n / spacing n, n.log2 - 52, div_spacing_lt n, (Nat.div_mul_cancel fits).symm⟩
  · intro known
    obtain ⟨factor, shift, narrow, rfl⟩ := known
    exact fits_mul_pow (Nat.le_of_lt narrow)

theorem roundToBits_eq_self_iff : roundToBits n 1 = n ↔ Fits n :=
  ⟨fun same => same ▸ fits_roundToBits n 1, roundToBits_of_fits⟩

theorem roundHalfEven_mul_right (positive : 0 < scale) (num den : Nat) :
    roundHalfEven (num * scale) (den * scale) = roundHalfEven num den := by
  have twice : 2 * (num * scale % (den * scale)) = 2 * (num % den) * scale := by
    rw [Nat.mul_mod_mul_right, Nat.mul_assoc]
  simp only [roundHalfEven, twice, Nat.mul_div_mul_right _ _ positive,
    Nat.mul_lt_mul_right positive]

/-- The ratio counts, not the way it is written. -/
theorem roundToBits_mul_right (positive : 0 < scale) (num den : Nat) :
    roundToBits (num * scale) (den * scale) = roundToBits num den := by
  rw [roundToBits, Nat.mul_div_mul_right _ _ positive, Nat.mul_right_comm,
    roundHalfEven_mul_right positive, roundToBits]

/-- A power of two as a factor adds no significant bits. -/
theorem roundToBits_mul_two_pow (n width : Nat) :
    roundToBits (n * 2 ^ width) 1 = roundToBits n 1 * 2 ^ width := by
  by_cases narrow : n < 2 ^ 53
  · have fits : Fits (n * 2 ^ width) := fits_iff.mpr ⟨n, width, narrow, rfl⟩
    rw [roundToBits_of_fits fits, roundToBits_of_fits (fits_of_lt narrow)]
  · have positive : n ≠ 0 := by
      rintro rfl
      exact narrow (by decide)
    have wide : 53 ≤ n.log2 := (Nat.le_log2 positive).mpr (Nat.le_of_not_lt narrow)
    have gap : spacing (n * 2 ^ width) = spacing n * 2 ^ width := by
      have log : (n * 2 ^ width).log2 = n.log2 + width := by
        rw [Nat.log2_eq_iff (Nat.mul_ne_zero positive (Nat.ne_of_gt (Nat.two_pow_pos width)))]
        rw [Nat.pow_add, Nat.add_right_comm, Nat.pow_add]
        exact ⟨Nat.mul_le_mul_right _ (Nat.log2_self_le positive),
          Nat.mul_lt_mul_of_pos_right Nat.lt_log2_self (Nat.two_pow_pos width)⟩
      rw [spacing, spacing, log, Nat.pow_eq, Nat.pow_eq, ← Nat.pow_add]
      congr 1
      omega
    rw [roundToBits_one, roundToBits_one, gap, roundHalfEven_mul_right (Nat.two_pow_pos width),
      Nat.mul_assoc]

/-- The steps of a whole number are rounded as the number itself. -/
theorem roundToBits_mul_unit (n : Nat) : roundToBits (n * unit) 1 = roundToBits n 1 * unit := by
  unfold unit
  generalize 1074 = width
  exact roundToBits_mul_two_pow n width

theorem roundHalfEven_bounds (positive : 0 < den) :
    2 * (roundHalfEven num den * den) ≤ 2 * num + den ∧
      2 * num ≤ 2 * (roundHalfEven num den * den) + den := by
  have whole := Nat.div_add_mod' num den
  have rest := Nat.mod_lt num positive
  have next : (num / den + 1) * den = num / den * den + den := Nat.succ_mul _ den
  rw [roundHalfEven]
  split
  · omega
  · split
    · rw [next]
      omega
    · rcases Nat.mod_two_eq_zero_or_one (num / den) with even | odd
      · rw [even, Nat.add_zero]
        omega
      · rw [odd, next]
        omega

/-- A ratio is moved by half a spacing at most. -/
theorem roundToBits_bounds (num : Nat) (positive : 0 < den) :
    2 * (roundToBits num den * den) ≤ 2 * num + den * spacing (num / den) ∧
      2 * num ≤ 2 * (roundToBits num den * den) + den * spacing (num / den) := by
  have same : roundToBits num den * den =
      roundHalfEven num (den * spacing (num / den)) * (den * spacing (num / den)) := by
    rw [roundToBits, Nat.mul_right_comm, Nat.mul_assoc]
  rw [same]
  exact roundHalfEven_bounds (Nat.mul_pos positive (spacing_pos _))

/-- Beyond the first numbers a gap is a small part of the number that it is at. -/
theorem spacing_mul_le (wide : spacing n ≠ 1) : spacing n * 2 ^ 52 ≤ n := by
  have large : 52 ≤ n.log2 := by
    apply Nat.le_of_not_lt
    intro small
    refine wide ?_
    rw [spacing, Nat.sub_eq_zero_of_le (Nat.le_of_lt small), Nat.pow_eq, Nat.pow_zero]
  have positive : n ≠ 0 := by
    rintro rfl
    simp at large
  rw [spacing, Nat.pow_eq, ← Nat.pow_add, Nat.sub_add_cancel large]
  exact Nat.log2_self_le positive

/-- The gaps around a ratio are narrow, even when they are multiplied by the denominator. -/
theorem mul_spacing_le (num den : Nat) :
    den * spacing (num / den) * 2 ^ 52 ≤ max num (den * 2 ^ 52) := by
  by_cases first : spacing (num / den) = 1
  · rw [first, Nat.mul_one]
    exact Nat.le_max_right _ _
  · refine Nat.le_trans ?_ (Nat.le_max_left _ _)
    calc den * spacing (num / den) * 2 ^ 52 ≤ den * (num / den) := by
          rw [Nat.mul_assoc]
          exact Nat.mul_le_mul_left den (spacing_mul_le first)
      _ ≤ num := Nat.mul_div_le num den

/-- No number of 53 significant bits is nearer to a number than the one that it is rounded to. -/
theorem natAbs_roundToBits_sub_le (fits : Fits m) :
    ((roundToBits n 1 : Int) - n).natAbs ≤ ((m : Int) - n).natAbs := by
  have whole := Nat.div_add_mod' n (spacing n)
  have rest := Nat.mod_lt n (spacing_pos n)
  -- A number of 53 significant bits is outside of the gap around `n`.
  have outside : m ≤ n / spacing n * spacing n ∨ n / spacing n * spacing n + spacing n ≤ m := by
    rcases Nat.lt_or_ge n m with above | below
    · right
      obtain ⟨factor, rfl⟩ : spacing n ∣ m :=
        Nat.dvd_trans (spacing_dvd_spacing (Nat.le_of_lt above)) fits
      rw [Nat.mul_comm] at above
      have next : n / spacing n < factor := (Nat.div_lt_iff_lt_mul (spacing_pos n)).mpr above
      have := Nat.mul_le_mul_right (spacing n) (Nat.succ_le_of_lt next)
      rwa [Nat.succ_mul, Nat.mul_comm factor] at this
    · exact .inl (le_roundDown fits below)
  rw [roundToBits_one, roundHalfEven]
  split
  · omega
  · split
    · rw [Nat.add_mul, Nat.one_mul]
      omega
    · rcases Nat.mod_two_eq_zero_or_one (n / spacing n) with even | odd
      · rw [even, Nat.add_zero]
        omega
      · rw [odd, Nat.add_mul, Nat.one_mul]
        omega

theorem roundSigned_eq_self_iff {value : Int} : roundSigned value = value ↔ Fits value.natAbs := by
  have size := natAbs_roundSigned value
  rw [← roundToBits_eq_self_iff, ← size, roundSigned]
  split <;> omega

theorem roundSigned_withSign (negative : Bool) (n : Nat) :
    roundSigned (withSign negative n) = withSign negative (roundToBits n 1) := by
  cases negative with
  | false =>
      have other : ¬(n : Int) < 0 := by omega
      simp [withSign, roundSigned, other]
  | true =>
      by_cases zero : n = 0
      · subst zero
        simp [withSign, roundSigned_zero, roundToBits_zero]
      · have below : -(n : Int) < 0 := by omega
        rw [withSign, if_pos rfl, roundSigned, if_pos below, Int.natAbs_neg, Int.natAbs_natCast,
          withSign, if_pos rfl]

theorem natAbs_roundSigned_sub_le {value other : Int} (fits : Fits other.natAbs) :
    (roundSigned value - value).natAbs ≤ (other - value).natAbs := by
  have nearest := natAbs_roundToBits_sub_le (n := value.natAbs) fits
  rw [roundSigned]
  split
  · omega
  · omega

/-- A whole number of 64 bits is rounded to a whole number. -/
theorem exists_ofRatio_one {n : Nat} (bounded : n ≤ 2 ^ 63) (negative : Bool) :
    ∃ magnitude, Binary64.ofRatio negative n 1 = .finite negative magnitude ∧
      magnitude.steps = roundToBits n 1 * unit := by
  have less : roundToBits (n * unit) 1 < limit := by
    rw [roundToBits_mul_unit]
    exact mul_unit_lt_limit 63 (roundToBits_le (fits_two_pow 63) bounded) (by decide)
  refine ⟨⟨_, fits_roundToBits _ _, less⟩, ?_, roundToBits_mul_unit n⟩
  rw [Binary64.ofRatio, Binary64.ofSteps, dif_pos less]

end FilterQuery.Number
