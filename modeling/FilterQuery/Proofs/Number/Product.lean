import FilterQuery.Proofs.Number.Order

/-!
# Products and order

Numbers that are defined are ordered as integers are, and a product is rounded, but not past one of
its factors: a positive number does not get smaller when it is multiplied by a number greater than
one. Main statement: `Binary64.le_mul`.
-/

set_option autoImplicit false

namespace FilterQuery.Number

theorem le_roundToBits_of_mul_le {m num den : Nat} (fits : Fits m) (positive : 0 < den)
    (le : m * den ≤ num) : m ≤ roundToBits num den := by
  have whole : m ≤ num / den := (Nat.le_div_iff_mul_le positive).mpr le
  calc m ≤ roundDown (num / den) := le_roundDown fits whole
    _ = num / (den * spacing (num / den)) * spacing (num / den) := by
        rw [roundDown, Nat.div_div_eq_div_mul]
    _ ≤ roundToBits num den := Nat.mul_le_mul_right _ (div_le_roundHalfEven _ _)

theorem unit_pos : 0 < unit := by
  unfold unit
  generalize 1074 = exponent
  exact Nat.two_pow_pos exponent

theorem fits_unit : Fits unit := by
  unfold unit
  generalize 1074 = exponent
  exact fits_two_pow exponent

theorem limit_eq : limit = Nat.pow 2 1024 * unit := by
  unfold limit unit
  have sum : 2098 = 1024 + 1074 := rfl
  generalize 2098 = all at sum
  generalize 1024 = first at sum
  generalize 1074 = second at sum
  rw [sum]
  exact Nat.pow_add 2 first second

theorem mul_unit_lt_limit {n : Nat} (width : Nat) (small : n ≤ 2 ^ width) (narrow : width < 1024) :
    n * unit < limit := by
  rw [limit_eq]
  generalize 1024 = most at narrow
  exact Nat.mul_lt_mul_of_pos_right
    (Nat.lt_of_le_of_lt small (Nat.pow_lt_pow_right (by decide) narrow)) unit_pos

theorem unit_lt_limit : unit < limit := by
  have less := mul_unit_lt_limit (n := 1) 0 (Nat.le_refl 1) (by decide)
  rwa [Nat.one_mul] at less

end FilterQuery.Number

namespace FilterQuery.Binary64

open Number

/-- Where a number stands among all that are defined: its signed count of steps. Both zeros stand at
the same place. -/
def rank : Binary64 → Int
  | .nan => 0
  | .infinite negative => if negative then -(limit : Int) else limit
  | .finite negative magnitude => signed negative magnitude

variable {a b : Binary64}

theorem lt_iff_rank_lt (first : a ≠ .nan) (second : b ≠ .nan) : a < b ↔ a.rank < b.rank := by
  have positive := limit_pos
  rw [lt_iff]
  match a, b with
  | .nan, _ => exact absurd rfl first
  | .infinite _, .nan => exact absurd rfl second
  | .finite _ _, .nan => exact absurd rfl second
  | .infinite s, .infinite t =>
      cases s <;> cases t <;> simp only [isLess, rank, Bool.not_true, Bool.not_false, Bool.and_true,
        Bool.and_false, Bool.false_eq_true, ↓reduceIte, true_iff, false_iff] <;> omega
  | .infinite s, .finite t n =>
      have bounded := n.bounded
      have size := natAbs_signed t n
      cases s <;> simp only [isLess, rank, Bool.false_eq_true, ↓reduceIte, true_iff, false_iff] <;>
        omega
  | .finite s m, .infinite t =>
      have bounded := m.bounded
      have size := natAbs_signed s m
      cases t <;> simp only [isLess, rank, Bool.not_true, Bool.not_false, Bool.false_eq_true,
        ↓reduceIte, true_iff, false_iff] <;> omega
  | .finite s m, .finite t n => simp only [isLess, rank, decide_eq_true_eq]

theorem le_iff_not_lt (first : a ≠ .nan) (second : b ≠ .nan) : a ≤ b ↔ ¬b < a := by
  rw [le_iff, lt_iff]
  cases a with
  | nan => exact absurd rfl first
  | _ =>
      cases b with
      | nan => exact absurd rfl second
      | _ => simp [isAtMost]

theorem le_iff_rank_le (first : a ≠ .nan) (second : b ≠ .nan) : a ≤ b ↔ a.rank ≤ b.rank := by
  rw [le_iff_not_lt first second, lt_iff_rank_lt second first, Int.not_lt]

theorem ne_nan_of_lt (less : a < b) : a ≠ .nan ∧ b ≠ .nan := by
  rw [lt_iff] at less
  constructor
  · rintro rfl
    cases less
  · rintro rfl
    cases a <;> cases less

theorem ne_nan_of_le (atMost : a ≤ b) : a ≠ .nan ∧ b ≠ .nan := by
  rw [le_iff] at atMost
  constructor
  · rintro rfl
    cases atMost
  · rintro rfl
    cases a <;> cases atMost

theorem rank_ofSteps (num den : Nat) :
    (ofSteps false num den).rank = min (roundToBits num den) limit := by
  by_cases bounded : roundToBits num den < limit
  · rw [ofSteps, dif_pos bounded, Nat.min_eq_left (Nat.le_of_lt bounded)]
    rfl
  · rw [ofSteps, dif_neg bounded, Nat.min_eq_right (Nat.le_of_not_lt bounded)]
    rfl

theorem rank_zero : (0 : Binary64).rank = 0 := by
  rw [zero_eq, rank, signed_zero]

theorem ofSteps_ne_nan (negative : Bool) (num den : Nat) : ofSteps negative num den ≠ .nan := by
  rw [ofSteps]
  split <;> simp

theorem zero_ne_nan : (0 : Binary64) ≠ .nan := by
  rw [zero_eq]
  simp

theorem one_eq : (1 : Binary64) = ofSteps false unit 1 := by
  have written : (1 : Binary64) = ofInt 1 := rfl
  have positive : decide ((1 : Int) < 0) = false := by decide
  rw [written, ofInt, ofRatio, Int.natAbs_one, Nat.one_mul, positive]

theorem one_ne_nan : (1 : Binary64) ≠ .nan := by
  rw [one_eq]
  exact ofSteps_ne_nan _ _ _

theorem rank_one : (1 : Binary64).rank = unit := by
  rw [one_eq, rank_ofSteps, roundToBits_of_fits fits_unit,
    Nat.min_eq_left (Nat.le_of_lt unit_lt_limit)]

theorem sign_of_pos (positive : 0 < a) :
    a = .infinite false ∨ ∃ magnitude, a = .finite false magnitude ∧ 0 < magnitude.steps := by
  have above := (lt_iff_rank_lt zero_ne_nan (ne_nan_of_lt positive).2).mp positive
  rw [rank_zero] at above
  clear positive
  cases a with
  | nan => exact absurd above (Int.lt_irrefl 0)
  | infinite negative =>
      cases negative with
      | false => exact .inl rfl
      | true =>
          simp only [rank, ↓reduceIte] at above
          omega
  | finite negative magnitude =>
      cases negative with
      | false =>
          simp only [rank, signed, Bool.false_eq_true, ↓reduceIte] at above
          exact .inr ⟨magnitude, rfl, by omega⟩
      | true =>
          simp only [rank, signed, ↓reduceIte] at above
          omega

theorem le_mul (positive : 0 < a) (grows : 1 < b) : a ≤ a * b := by
  have unitPositive := unit_pos
  have greater := (lt_iff_rank_lt one_ne_nan (ne_nan_of_lt grows).2).mp grows
  rw [rank_one] at greater
  have factor : 0 < b := by
    rw [lt_iff_rank_lt zero_ne_nan (ne_nan_of_lt grows).2, rank_zero]
    omega
  rw [mul_eq]
  rcases sign_of_pos positive with rfl | ⟨m, rfl, filled⟩
  · rcases sign_of_pos factor with rfl | ⟨n, rfl, otherFilled⟩
    · rfl
    · rw [mul, if_neg (Nat.ne_of_gt otherFilled)]
      rfl
  · rcases sign_of_pos factor with rfl | ⟨n, rfl, -⟩
    · rw [mul, if_neg (Nat.ne_of_gt filled)]
      rfl
    · rw [mul, le_iff_rank_le (by simp) (ofSteps_ne_nan _ _ _), bne_self_eq_false, rank_ofSteps]
      simp only [rank, signed, Bool.false_eq_true, ↓reduceIte] at greater ⊢
      have product : m.steps * unit ≤ m.steps * n.steps := Nat.mul_le_mul_left _ (by omega)
      have kept := le_roundToBits_of_mul_le m.fits unitPositive product
      have := m.bounded
      omega

end FilterQuery.Binary64
