import FilterQuery.Number.Rounding
import Mathlib.Algebra.Group.Nat.Defs

/-!
# Rounding and order

A number of 53 significant bits is never passed by rounding. Main statement: a clock that is moved
by its rounded distance to a later time moves forward, however far the distance was rounded
(`lt_roundSigned_add`).
-/

set_option autoImplicit false

namespace FilterQuery.Number

theorem div_le_roundHalfEven (num den : Nat) : num / den ≤ roundHalfEven num den := by
  simp only [roundHalfEven]
  split
  · exact Nat.le_refl _
  · split <;> omega

theorem roundHalfEven_of_dvd {num den : Nat} (positive : 0 < den) (divides : den ∣ num) :
    roundHalfEven num den = num / den := by
  have none : num % den = 0 := Nat.mod_eq_zero_of_dvd divides
  rw [roundHalfEven, none, if_pos positive]

theorem spacing_pos (n : Nat) : 0 < spacing n :=
  Nat.two_pow_pos _

theorem log2_le_log2 {m n : Nat} (le : m ≤ n) : m.log2 ≤ n.log2 := by
  by_cases none : m = 0
  · simp [none]
  · exact (Nat.le_log2 (by omega)).mpr (Nat.le_trans (Nat.log2_self_le none) le)

theorem spacing_dvd_spacing {m n : Nat} (le : m ≤ n) : spacing m ∣ spacing n :=
  Nat.pow_dvd_pow 2 (Nat.sub_le_sub_right (log2_le_log2 le) 52)

theorem add_le_of_dvd {a b d : Nat} (less : a < b) (left : d ∣ a) (right : d ∣ b) : a + d ≤ b := by
  have gap := Nat.le_of_dvd (Nat.sub_pos_of_lt less) (Nat.dvd_sub right left)
  omega

/-- The next number of 53 significant bits is a spacing away. -/
theorem add_spacing_le {m n : Nat} (fits : Fits m) (fitsNext : Fits n) (less : m < n) :
    m + spacing m ≤ n :=
  add_le_of_dvd less fits (Nat.dvd_trans (spacing_dvd_spacing (Nat.le_of_lt less)) fitsNext)

theorem fits_two_pow (width : Nat) : Fits (2 ^ width) := by
  have fits : Fits (1 * Nat.pow 2 width) := fits_mul_pow (Nat.two_pow_pos 53)
  rwa [Nat.one_mul] at fits

theorem fits_spacing (n : Nat) : Fits (spacing n) :=
  fits_two_pow (n.log2 - 52)

theorem fits_add_spacing {n : Nat} (fits : Fits n) : Fits (n + spacing n) := by
  have next : n + spacing n = (n / spacing n + 1) * spacing n := by
    rw [Nat.add_mul, Nat.one_mul, Nat.div_mul_cancel fits]
  rw [next]
  exact fits_mul_pow (div_spacing_lt n)

/-- The greatest number of 53 significant bits that is not above `n`. -/
def roundDown (n : Nat) : Nat :=
  n / spacing n * spacing n

theorem roundDown_le (n : Nat) : roundDown n ≤ n :=
  Nat.div_mul_le_self n (spacing n)

theorem lt_roundDown_add (n : Nat) : n < roundDown n + spacing n :=
  Nat.lt_div_mul_add (spacing_pos n)

theorem fits_roundDown (n : Nat) : Fits (roundDown n) :=
  fits_mul_pow (Nat.le_of_lt (div_spacing_lt n))

theorem le_roundDown_of_dvd {m n : Nat} (divides : spacing n ∣ m) (le : m ≤ n) :
    m ≤ roundDown n := by
  obtain ⟨factor, rfl⟩ := divides
  rw [roundDown, Nat.mul_comm]
  exact Nat.mul_le_mul_right _ ((Nat.le_div_iff_mul_le (spacing_pos n)).mpr (by
    rwa [Nat.mul_comm]))

theorem le_roundDown {m n : Nat} (fits : Fits m) (le : m ≤ n) : m ≤ roundDown n := by
  by_cases none : n = 0
  · omega
  · by_cases same : m.log2 = n.log2
    · refine le_roundDown_of_dvd ?_ le
      rwa [Fits, spacing, same] at fits
    · -- The power of two that starts the range of `n` lies between the two.
      have start : 2 ^ n.log2 ≤ roundDown n := by
        refine le_roundDown_of_dvd ?_ (Nat.log2_self_le none)
        exact Nat.pow_dvd_pow 2 (Nat.sub_le _ _)
      have less : m.log2 < n.log2 := Nat.lt_of_le_of_ne (log2_le_log2 le) same
      have narrower : m < 2 ^ n.log2 :=
        Nat.lt_of_lt_of_le Nat.lt_log2_self (Nat.pow_le_pow_right (by decide) less)
      omega

theorem roundToBits_one (n : Nat) :
    roundToBits n 1 = roundHalfEven n (spacing n) * spacing n := by
  rw [roundToBits, Nat.div_one, Nat.one_mul]

theorem le_roundToBits {m n : Nat} (fits : Fits m) (le : m ≤ n) : m ≤ roundToBits n 1 :=
  calc m ≤ roundDown n := le_roundDown fits le
    _ ≤ roundToBits n 1 := by
        rw [roundToBits_one]
        exact Nat.mul_le_mul_right _ (div_le_roundHalfEven n (spacing n))

theorem roundToBits_le {m n : Nat} (fits : Fits m) (le : n ≤ m) : roundToBits n 1 ≤ m := by
  rw [roundToBits_one]
  by_cases whole : spacing n ∣ n
  · rw [roundHalfEven_of_dvd (spacing_pos n) whole, Nat.div_mul_cancel whole]
    exact le
  · obtain ⟨factor, rfl⟩ : spacing n ∣ m := Nat.dvd_trans (spacing_dvd_spacing le) fits
    have less : n < factor * spacing n := by
      rw [Nat.mul_comm]
      refine Nat.lt_of_le_of_ne le fun same => whole ?_
      exact ⟨factor, same⟩
    have below : n / spacing n < factor := (Nat.div_lt_iff_lt_mul (spacing_pos n)).mpr less
    rw [Nat.mul_comm (spacing n)]
    exact Nat.mul_le_mul_right _ (Nat.le_trans (roundHalfEven_le _ _) below)

theorem roundToBits_of_fits {n : Nat} (fits : Fits n) : roundToBits n 1 = n :=
  Nat.le_antisymm (roundToBits_le fits (Nat.le_refl n)) (le_roundToBits fits (Nat.le_refl n))

theorem roundToBits_zero (den : Nat) : roundToBits 0 den = 0 := by
  simp [roundToBits, roundHalfEven]

theorem roundToBits_pos {n : Nat} (positive : n ≠ 0) : 0 < roundToBits n 1 :=
  le_roundToBits (fits_of_lt (by decide)) (Nat.pos_of_ne_zero positive)

section PowerOfTwo

variable {n width : Nat}

end PowerOfTwo

section Distance

variable {start goal : Nat}

theorem lt_roundToBits_add (fitsStart : Fits start) (fitsGoal : Fits goal) (less : start < goal) :
    start < roundToBits (start + roundToBits (goal - start) 1) 1 := by
  have divides : spacing start ∣ goal - start :=
    Nat.dvd_sub (Nat.dvd_trans (spacing_dvd_spacing (Nat.le_of_lt less)) fitsGoal) fitsStart
  have far : spacing start ≤ goal - start := Nat.le_of_dvd (by omega) divides
  have moved : spacing start ≤ roundToBits (goal - start) 1 :=
    le_roundToBits (fits_spacing start) far
  have next : start + spacing start ≤ roundToBits (start + roundToBits (goal - start) 1) 1 :=
    le_roundToBits (fits_add_spacing fitsStart) (by omega)
  have := spacing_pos start
  omega

theorem roundToBits_sub_lt (fitsStart : Fits start) (fitsGoal : Fits goal) (less : goal < start) :
    roundToBits (start - roundToBits (start - goal) 1) 1 < start := by
  -- Towards zero the neighbour is one spacing below, that of the numbers there.
  have below : goal ≤ roundDown (start - 1) := le_roundDown fitsGoal (by omega)
  have above : start - 1 < roundDown (start - 1) + spacing (start - 1) := lt_roundDown_add _
  have down : roundDown (start - 1) ≤ start - 1 := roundDown_le _
  have divides : spacing (start - 1) ∣ start - roundDown (start - 1) :=
    Nat.dvd_sub (Nat.dvd_trans (spacing_dvd_spacing (Nat.sub_le _ _)) fitsStart)
      (Nat.dvd_mul_left _ _)
  have apart : spacing (start - 1) ≤ start - roundDown (start - 1) :=
    Nat.le_of_dvd (by omega) divides
  have moved : spacing (start - 1) ≤ roundToBits (start - goal) 1 :=
    le_roundToBits (fits_spacing _) (by omega)
  have next : roundToBits (start - roundToBits (start - goal) 1) 1 ≤ roundDown (start - 1) :=
    roundToBits_le (fits_roundDown _) (by omega)
  omega

end Distance

/-- The number of at most 53 significant bits that is nearest to an integer. -/
def roundSigned (n : Int) : Int :=
  if n < 0 then -(roundToBits n.natAbs 1 : Int) else roundToBits n.natAbs 1

theorem natAbs_roundSigned (n : Int) : (roundSigned n).natAbs = roundToBits n.natAbs 1 := by
  rw [roundSigned]
  split <;> simp

theorem roundSigned_zero : roundSigned 0 = 0 := by
  have none := natAbs_roundSigned 0
  rw [Int.natAbs_zero, roundToBits_zero] at none
  exact Int.natAbs_eq_zero.mp none

theorem roundSigned_nonpos_iff {n : Int} : roundSigned n ≤ 0 ↔ n ≤ 0 := by
  by_cases zero : n = 0
  · rw [zero, roundSigned_zero]
  · have := roundToBits_pos (Int.natAbs_ne_zero.mpr zero)
    rw [roundSigned]
    split <;> omega

theorem lt_roundSigned_add {start goal : Int} (fitsStart : Fits start.natAbs)
    (fitsGoal : Fits goal.natAbs) (less : start < goal) :
    start < roundSigned (start + roundSigned (goal - start)) := by
  have forward : roundSigned (goal - start) = roundToBits (goal - start).natAbs 1 :=
    if_neg (by omega)
  rw [forward]
  by_cases nonnegative : 0 ≤ start
  · have distance : (goal - start).natAbs = goal.natAbs - start.natAbs := by omega
    have ahead := lt_roundToBits_add fitsStart fitsGoal (by omega)
    rw [distance, roundSigned, if_neg (by omega)]
    have sum : (start + (roundToBits (goal.natAbs - start.natAbs) 1 : Int)).natAbs =
        start.natAbs + roundToBits (goal.natAbs - start.natAbs) 1 := by omega
    rw [sum]
    omega
  · by_cases crosses : 0 ≤ goal
    · have covered : start.natAbs ≤ roundToBits (goal - start).natAbs 1 :=
        le_roundToBits fitsStart (by omega)
      rw [roundSigned, if_neg (by omega)]
      omega
    · have distance : (goal - start).natAbs = start.natAbs - goal.natAbs := by omega
      have ahead := roundToBits_sub_lt fitsStart fitsGoal (by omega)
      rw [distance, roundSigned]
      split
      · next before =>
          have difference :
              (start + (roundToBits (start.natAbs - goal.natAbs) 1 : Int)).natAbs =
                start.natAbs - roundToBits (start.natAbs - goal.natAbs) 1 := by omega
          rw [difference]
          omega
      · omega

end FilterQuery.Number
