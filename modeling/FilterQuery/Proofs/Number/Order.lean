import FilterQuery.Number.Binary64
import FilterQuery.Number.Integer
import FilterQuery.Proofs.Number.Rounding

/-!
# Differences and order

A difference is rounded, but not so far that its sign is lost, and not so far that a number to
which it is added stays the same. Main statements: `Binary64.le_of_sub_le_zero` and
`Binary64.lt_add_sub`.
-/

set_option autoImplicit false

namespace FilterQuery.Binary64

open Number

theorem zero_eq : (0 : Binary64) = .finite false .zero := by
  have bounded : roundToBits 0 1 < limit := by rw [roundToBits_zero]; exact limit_pos
  have written : (0 : Binary64) = ofInt 0 := rfl
  rw [written, ofInt, ofRatio, Int.natAbs_zero, Nat.zero_mul, ofSteps, dif_pos bounded]
  simp only [roundToBits_zero, Magnitude.zero, Int.lt_irrefl, decide_false]

theorem add_eq (a b : Binary64) : a + b = add a b :=
  rfl

theorem mul_eq (a b : Binary64) : a * b = mul a b :=
  rfl

theorem sub_eq (a b : Binary64) : a - b = add a (neg b) :=
  rfl

theorem le_iff {a b : Binary64} : a ≤ b ↔ isAtMost a b = true :=
  Iff.rfl

theorem lt_iff {a b : Binary64} : a < b ↔ isLess a b = true :=
  Iff.rfl

theorem signed_not (negative : Bool) (magnitude : Magnitude) :
    signed (!negative) magnitude = -signed negative magnitude := by
  cases negative <;> simp [signed]

theorem signed_zero (negative : Bool) : signed negative .zero = 0 := by
  cases negative <;> rfl

theorem natAbs_signed (negative : Bool) (magnitude : Magnitude) :
    (signed negative magnitude).natAbs = magnitude.steps := by
  cases negative <;> simp [signed]

theorem truncate_finite (negative : Bool) (magnitude : Magnitude) :
    (finite negative magnitude).truncate = .ok (withSign negative (magnitude.steps / unit)) := by
  cases negative <;> rfl

theorem zero_le_zero : (0 : Binary64) ≤ 0 := by
  rw [zero_eq, le_iff]
  simp [isAtMost, isLess]

/-- A signed count of steps is rounded, or its rounding is too large for a finite number. -/
theorem ofSignedSteps_cases (negativeZero : Bool) (steps : Int) :
    (∃ negative magnitude, ofSignedSteps negativeZero steps = .finite negative magnitude ∧
      signed negative magnitude = roundSigned steps) ∨
    ofSignedSteps negativeZero steps = .infinite (steps < 0) ∧
      limit ≤ (roundSigned steps).natAbs := by
  rw [natAbs_roundSigned, ofSignedSteps, ofSteps]
  by_cases bounded : roundToBits steps.natAbs 1 < limit
  · refine .inl ⟨_, _, dif_pos bounded, ?_⟩
    rw [signed, roundSigned]
    by_cases zero : steps = 0
    · subst zero
      simp [roundToBits_zero]
    · simp [zero]
  · refine .inr ⟨?_, Nat.le_of_not_lt bounded⟩
    have filled : steps ≠ 0 := by
      rintro rfl
      exact bounded (by rw [Int.natAbs_zero, roundToBits_zero]; exact limit_pos)
    rw [dif_neg bounded, if_neg filled]

theorem ofSignedSteps_le_zero_iff {negativeZero : Bool} {steps : Int} :
    ofSignedSteps negativeZero steps ≤ 0 ↔ steps ≤ 0 := by
  rw [zero_eq, le_iff]
  rcases ofSignedSteps_cases negativeZero steps with
    ⟨negative, magnitude, finite, rounded⟩ | ⟨infinite, large⟩
  · rw [finite, ← roundSigned_nonpos_iff, ← rounded]
    simp [isAtMost, isLess, signed_zero]
  · rw [infinite]
    have filled : steps ≠ 0 := by
      rintro rfl
      rw [roundSigned_zero] at large
      exact absurd limit_pos (Nat.not_lt.mpr large)
    simp only [isAtMost, isLess, Bool.not_not, decide_eq_true_eq]
    omega

theorem lt_ofSignedSteps {negative negativeZero : Bool} {magnitude : Magnitude} {steps : Int}
    (less : signed negative magnitude < roundSigned steps) :
    .finite negative magnitude < ofSignedSteps negativeZero steps := by
  rw [lt_iff]
  rcases ofSignedSteps_cases negativeZero steps with
    ⟨other, rounding, finite, rounded⟩ | ⟨infinite, large⟩
  · rw [finite]
    simp only [isLess, rounded]
    exact decide_eq_true less
  · rw [infinite]
    have bounded := magnitude.bounded
    have size := natAbs_signed negative magnitude
    have above : ¬steps < 0 := by
      intro below
      have := roundSigned_nonpos_iff.mpr (Int.le_of_lt below)
      omega
    simp [isLess, above]

theorem le_of_sub_le_zero {a b : Binary64} (nonpositive : a - b ≤ 0) : a ≤ b := by
  rw [sub_eq] at nonpositive
  cases a with
  | nan => cases nonpositive
  | infinite s =>
      rw [zero_eq, le_iff] at nonpositive
      cases b with
      | nan => cases nonpositive
      | infinite t =>
          cases s with
          | true => cases t <;> rfl
          | false =>
              cases t with
              | true => cases nonpositive
              | false => rfl
      | finite t n => exact nonpositive
  | finite s m =>
      cases b with
      | nan => cases nonpositive
      | infinite t =>
          rw [zero_eq, le_iff] at nonpositive
          simpa [le_iff, add, neg, isAtMost, isLess] using nonpositive
      | finite t n =>
          have least := ofSignedSteps_le_zero_iff.mp nonpositive
          rw [signed_not] at least
          simp only [le_iff, isAtMost, isLess, Bool.not_eq_true', decide_eq_false_iff_not]
          omega

theorem add_finite (s t : Bool) (m n : Magnitude) :
    (.finite s m : Binary64) + .finite t n =
      ofSignedSteps (s && t) (signed s m + signed t n) := by
  rw [add_eq, add]

theorem sub_finite (s t : Bool) (m n : Magnitude) :
    (.finite s m : Binary64) - .finite t n =
      ofSignedSteps (s && !t) (signed s m - signed t n) := by
  rw [sub_eq, neg, add, signed_not, Int.sub_eq_add_neg]

theorem exists_finite_of_sub {a b : Binary64} (finite : (a - b).isFinite = true) :
    ∃ s m t n, a = .finite s m ∧ b = .finite t n := by
  rw [sub_eq] at finite
  cases a with
  | nan => simp [add, isFinite] at finite
  | infinite s =>
      cases b with
      | nan => simp [add, neg, isFinite] at finite
      | infinite t => cases s <;> cases t <;> simp [add, neg, isFinite] at finite
      | finite t n => simp [add, neg, isFinite] at finite
  | finite s m =>
      cases b with
      | nan => simp [add, neg, isFinite] at finite
      | infinite t => simp [add, neg, isFinite] at finite
      | finite t n => exact ⟨s, m, t, n, rfl, rfl⟩

/-- A number that is moved by its finite distance to a greater one grows. -/
theorem lt_add_sub {start goal : Binary64} (finite : (goal - start).isFinite = true)
    (apart : ¬goal - start ≤ 0) : start < start + (goal - start) := by
  obtain ⟨s, m, t, n, rfl, rfl⟩ := exists_finite_of_sub finite
  rw [sub_finite] at finite apart ⊢
  rw [ofSignedSteps_le_zero_iff] at apart
  rcases ofSignedSteps_cases (s && !t) (signed s m - signed t n) with
    ⟨negative, distance, rounding, rounded⟩ | ⟨infinite, -⟩
  · rw [rounding, add_finite]
    refine lt_ofSignedSteps ?_
    rw [rounded]
    refine lt_roundSigned_add ?_ ?_ (by omega)
    · rw [natAbs_signed]
      exact n.fits
    · rw [natAbs_signed]
      exact m.fits
  · rw [infinite] at finite
    cases finite

end FilterQuery.Binary64
