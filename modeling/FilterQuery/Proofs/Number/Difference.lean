import FilterQuery.Proofs.Number.Significant

/-!
# Differences from one number

Two numbers are ordered as their differences from a third one are, although each difference is
rounded and may be infinite. Main statements: `Binary64.lt_of_sub_lt_sub` and
`Binary64.lt_of_sub_le_zero`.
-/

set_option autoImplicit false

namespace FilterQuery.Number

theorem fits_roundSigned (value : Int) : Fits (roundSigned value).natAbs := by
  rw [natAbs_roundSigned]
  exact fits_roundToBits _ _

theorem roundSigned_le_roundSigned {value other : Int} (le : value ≤ other) :
    roundSigned value ≤ roundSigned other := by
  rcases Int.lt_or_eq_of_le le with less | rfl
  · -- Each of the two is nearer to its own rounding than to that of the other one.
    have near := @natAbs_roundSigned_sub_le value _ (fits_roundSigned other)
    have otherNear := @natAbs_roundSigned_sub_le other _ (fits_roundSigned value)
    omega
  · exact Int.le_refl _

end FilterQuery.Number

namespace FilterQuery.Binary64

open Number

variable {a b c : Binary64}

theorem rank_infinite (negative : Bool) :
    (infinite negative).rank = if negative then -(limit : Int) else limit :=
  rfl

theorem rank_finite (negative : Bool) (magnitude : Magnitude) :
    (finite negative magnitude).rank = signed negative magnitude :=
  rfl

theorem rank_bounds (a : Binary64) : -(limit : Int) ≤ a.rank ∧ a.rank ≤ limit := by
  cases a with
  | nan =>
      rw [rank]
      omega
  | infinite negative =>
      rw [rank]
      split <;> omega
  | finite negative magnitude =>
      have size := natAbs_signed negative magnitude
      have bounded := magnitude.bounded
      rw [rank]
      omega

/-- A rounded number stands where its exact value is rounded to, unless that is too large. -/
theorem rank_ofSignedSteps (negativeZero : Bool) (steps : Int) :
    (ofSignedSteps negativeZero steps).rank =
      max (-(limit : Int)) (min limit (roundSigned steps)) := by
  rcases ofSignedSteps_cases negativeZero steps with
    ⟨negative, magnitude, finite, rounded⟩ | ⟨infinite, large⟩
  · have size := natAbs_signed negative magnitude
    have bounded := magnitude.bounded
    rw [finite, rank, ← rounded]
    omega
  · have sign := roundSigned_nonpos_iff (n := steps)
    rw [infinite, rank]
    by_cases below : steps < 0
    · rw [decide_eq_true below, if_pos rfl]
      omega
    · have negative := decide_eq_false below
      rw [negative, if_neg Bool.false_ne_true]
      by_cases zero : steps = 0
      · rw [zero, roundSigned_zero] at large
        omega
      · omega

theorem ofSignedSteps_ne_nan (negativeZero : Bool) (steps : Int) :
    ofSignedSteps negativeZero steps ≠ .nan :=
  ofSteps_ne_nan _ _ _

/-- From an infinite number all others are infinitely far away. -/
theorem sub_infinite (defined : a ≠ .nan) (sign : Bool) :
    a - .infinite sign = if a = .infinite sign then .nan else .infinite !sign := by
  rw [sub_eq, neg]
  cases a with
  | nan => exact absurd rfl defined
  | infinite other => cases other <;> cases sign <;> rfl
  | finite other magnitude => rfl

theorem lt_infinite (defined : a ≠ .nan) (other : a ≠ .infinite false) : a < .infinite false := by
  cases a with
  | nan => exact absurd rfl defined
  | infinite sign =>
      cases sign with
      | true => rfl
      | false => exact absurd rfl other
  | finite sign magnitude => rfl

theorem lt_trans (first : a < b) (second : b < c) : a < c := by
  obtain ⟨left, middle⟩ := ne_nan_of_lt first
  have right := (ne_nan_of_lt second).2
  rw [lt_iff_rank_lt left middle] at first
  rw [lt_iff_rank_lt middle right] at second
  rw [lt_iff_rank_lt left right]
  omega

theorem infinite_lt_of_isFinite (finite : a.isFinite = true) : .infinite true < a := by
  cases a with
  | finite negative magnitude => rfl
  | _ => cases finite

theorem infinite_lt_of_lt (less : a < b) : .infinite true < b := by
  obtain ⟨first, second⟩ := ne_nan_of_lt less
  have least := (rank_bounds a).1
  rw [lt_iff_rank_lt first second] at less
  rw [lt_iff_rank_lt (by simp) second, rank_infinite, if_pos rfl]
  omega

theorem ne_nan_of_sub (defined : a - c ≠ .nan) : a ≠ .nan := by
  rintro rfl
  exact defined rfl

section Finite

variable {negative : Bool} {magnitude : Magnitude}

theorem infinite_sub_finite (sign : Bool) :
    (.infinite sign : Binary64) - .finite negative magnitude = .infinite sign :=
  rfl

theorem rank_sub_finite_le (first : a ≠ .nan) (second : b ≠ .nan) (le : a.rank ≤ b.rank) :
    (a - .finite negative magnitude).rank ≤ (b - .finite negative magnitude).rank := by
  have least := (rank_bounds (b - .finite negative magnitude)).1
  have most := (rank_bounds (a - .finite negative magnitude)).2
  cases a with
  | nan => exact absurd rfl first
  | infinite sign =>
      cases b with
      | nan => exact absurd rfl second
      | infinite other => exact le
      | finite other n =>
          have bounded := n.bounded
          have size := natAbs_signed other n
          rw [infinite_sub_finite]
          rw [rank_finite] at le
          cases sign with
          | true => exact least
          | false =>
              rw [rank_infinite, if_neg Bool.false_ne_true] at le
              omega
  | finite sign m =>
      have bounded := m.bounded
      have size := natAbs_signed sign m
      cases b with
      | nan => exact absurd rfl second
      | infinite other =>
          rw [infinite_sub_finite]
          rw [rank_finite] at le
          cases other with
          | true =>
              rw [rank_infinite, if_pos rfl] at le
              omega
          | false => exact most
      | finite other n =>
          have rounded := roundSigned_le_roundSigned
            (Int.sub_le_sub_right le (signed negative magnitude))
          rw [rank_finite, rank_finite] at rounded
          rw [sub_finite, sub_finite, rank_ofSignedSteps, rank_ofSignedSteps]
          omega

theorem sub_finite_le_zero_iff (defined : a ≠ .nan) :
    a - .finite negative magnitude ≤ 0 ↔ a ≤ .finite negative magnitude := by
  cases a with
  | nan => exact absurd rfl defined
  | infinite sign =>
      rw [infinite_sub_finite, zero_eq]
      cases sign <;> exact Iff.rfl
  | finite sign other =>
      rw [sub_finite, ofSignedSteps_le_zero_iff, le_iff_rank_le (by simp) (by simp), rank_finite,
        rank_finite]
      omega

end Finite

theorem add_ne_nan (first : a.isFinite = true) (second : b.isFinite = true) : a + b ≠ .nan := by
  cases a with
  | finite s m =>
      cases b with
      | finite t n =>
          rw [add_finite]
          exact ofSignedSteps_ne_nan _ _
      | _ => cases second
  | _ => cases first

/-- A number that is not greater than a finite one is not ahead of it. -/
theorem sub_le_zero_of_le (finite : b.isFinite = true) (le : a ≤ b) : a - b ≤ 0 := by
  cases b with
  | finite negative magnitude => exact (sub_finite_le_zero_iff (ne_nan_of_le le).1).mpr le
  | _ => cases finite

theorem lt_of_sub_lt_sub (less : a - c < b - c) : a < b := by
  obtain ⟨first, second⟩ := ne_nan_of_lt less
  have left := ne_nan_of_sub first
  have right := ne_nan_of_sub second
  cases c with
  | nan => cases a <;> exact absurd rfl first
  | infinite sign =>
      rw [sub_infinite left] at first less
      rw [sub_infinite right] at second less
      split at less
      · contradiction
      · split at less
        · contradiction
        · rw [lt_iff_rank_lt (by simp) (by simp)] at less
          exact absurd less (Int.lt_irrefl _)
  | finite negative magnitude =>
      rw [lt_iff_rank_lt first second] at less
      rw [lt_iff_rank_lt left right]
      refine Int.not_le.mp fun above => ?_
      exact Int.not_le.mpr less (rank_sub_finite_le right left above)

/-- What is not ahead of a number is before all that is ahead of it. -/
theorem lt_of_sub_le_zero (passed : a - c ≤ 0) (ahead : ¬b - c ≤ 0) (defined : b ≠ .nan) :
    a < b := by
  have known := (ne_nan_of_le passed).1
  have left := ne_nan_of_sub known
  cases c with
  | nan => cases a <;> exact absurd rfl known
  | infinite sign =>
      -- Here only the infinite number itself counts as ahead: the difference is undefined.
      rw [sub_infinite left, zero_eq] at passed
      rw [sub_infinite defined, zero_eq] at ahead
      split at passed
      · cases passed
      · next other =>
          cases sign with
          | true => cases passed
          | false =>
              split at ahead
              · next same =>
                  rw [same]
                  exact lt_infinite left other
              · exact absurd rfl ahead
  | finite negative magnitude =>
      have first := (sub_finite_le_zero_iff left).mp passed
      have second := mt (sub_finite_le_zero_iff defined).mpr ahead
      rw [le_iff_rank_le left (by simp)] at first
      rw [le_iff_rank_le defined (by simp)] at second
      rw [lt_iff_rank_lt left defined]
      omega

/-- A number that is moved by its distance to a finite number ahead of it grows, also when this
distance is too large for a finite number. -/
theorem lt_add_sub_of_isFinite {start goal : Binary64} (known : .infinite true < start)
    (finite : goal.isFinite = true) (apart : ¬goal - start ≤ 0) :
    start < start + (goal - start) := by
  cases start with
  | nan => cases known
  | infinite sign =>
      cases sign with
      | true => cases known
      | false =>
          cases goal with
          | finite t n =>
              rw [zero_eq] at apart
              exact absurd rfl apart
          | _ => cases finite
  | finite s m =>
      cases goal with
      | finite t n =>
          by_cases near : ((.finite t n : Binary64) - .finite s m).isFinite = true
          · exact lt_add_sub near apart
          · rw [sub_finite] at near apart ⊢
            rw [ofSignedSteps_le_zero_iff] at apart
            rcases ofSignedSteps_cases (t && !s) (signed t n - signed s m) with
              ⟨_, _, distance, -⟩ | ⟨distance, -⟩
            · rw [distance] at near
              exact absurd rfl near
            · have forward : decide (signed t n - signed s m < 0) = false :=
                decide_eq_false (by omega)
              rw [distance, forward]
              exact lt_infinite (by simp) (by simp)
      | _ => cases finite

end FilterQuery.Binary64
