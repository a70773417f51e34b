import FilterQuery.Number.Rounding

/-!
# Binary floating-point numbers

The numbers of the IEEE 754 format binary64. Every finite one is a whole multiple of the least
positive one, 2 to the power -1074, so its magnitude is the count of these steps: sums are exact in
steps before they are rounded, and comparison is comparison of integers. Results are rounded to
the nearest number, a tie to the even one. Main statement: `headroom_lt` says that a strictly
growing number comes closer to a bound, so it does not grow for ever.
-/

set_option autoImplicit false

namespace FilterQuery.Number

/-- The steps in one: the least positive number is `1 / unit`. -/
def unit : Nat := Nat.pow 2 1074

/-- The least count of steps that is too large for a finite number. -/
def limit : Nat := Nat.pow 2 2098

theorem limit_pos : 0 < limit := by
  unfold limit
  generalize 2098 = exponent
  exact Nat.two_pow_pos exponent

/-- The magnitude of a finite number, counted in steps. -/
structure Magnitude where
  steps : Nat
  fits : Fits steps
  bounded : steps < limit
  deriving DecidableEq

def Magnitude.zero : Magnitude :=
  ⟨0, fits_of_lt (Nat.two_pow_pos 53), limit_pos⟩

end FilterQuery.Number

namespace FilterQuery

open Number

/-- A number of the format binary64. -/
inductive Binary64 where
  | nan
  | infinite (negative : Bool)
  | finite (negative : Bool) (magnitude : Magnitude)
  deriving DecidableEq

inductive NotFinite where
  | undefined
  | unbounded
  deriving DecidableEq, Repr

namespace Binary64

/-- The number nearest to `num / den` steps, or infinity when that is too large. -/
def ofSteps (negative : Bool) (num den : Nat) : Binary64 :=
  if bounded : roundToBits num den < limit then
    .finite negative ⟨roundToBits num den, fits_roundToBits num den, bounded⟩
  else
    .infinite negative

/-- The number nearest to `num / den`. -/
def ofRatio (negative : Bool) (num den : Nat) : Binary64 :=
  ofSteps negative (num * unit) den

def ofInt (n : Int) : Binary64 :=
  ofRatio (n < 0) n.natAbs 1

/-- The number nearest to the quotient of an integer and a positive number. -/
def ofQuotient (num : Int) (den : Nat) : Binary64 :=
  ofRatio (num < 0) num.natAbs den

instance (n : Nat) : OfNat Binary64 n := ⟨ofInt n⟩

instance : Inhabited Binary64 := ⟨0⟩

/-- The signed count of steps that a sign and a magnitude stand for. -/
def signed (negative : Bool) (magnitude : Magnitude) : Int :=
  if negative then -(magnitude.steps : Int) else magnitude.steps

/-- The number nearest to a signed count of steps. The sign of a zero has to be given. -/
def ofSignedSteps (negativeZero : Bool) (steps : Int) : Binary64 :=
  ofSteps (if steps = 0 then negativeZero else steps < 0) steps.natAbs 1

def neg : Binary64 → Binary64
  | .nan => .nan
  | .infinite negative => .infinite !negative
  | .finite negative magnitude => .finite (!negative) magnitude

/-- The rounded sum. A sum that is exactly zero is positive unless both terms are negative. -/
def add : Binary64 → Binary64 → Binary64
  | .nan, _ => .nan
  | _, .nan => .nan
  | .infinite a, .infinite b => if a = b then .infinite a else .nan
  | .infinite a, .finite .. => .infinite a
  | .finite .., .infinite b => .infinite b
  | .finite a m, .finite b n => ofSignedSteps (a && b) (signed a m + signed b n)

def mul : Binary64 → Binary64 → Binary64
  | .nan, _ => .nan
  | _, .nan => .nan
  | .infinite a, .infinite b => .infinite (a != b)
  | .infinite a, .finite b n => if n.steps = 0 then .nan else .infinite (a != b)
  | .finite a m, .infinite b => if m.steps = 0 then .nan else .infinite (a != b)
  | .finite a m, .finite b n => ofSteps (a != b) (m.steps * n.steps) unit

instance : Neg Binary64 := ⟨neg⟩
instance : Add Binary64 := ⟨add⟩
instance : Sub Binary64 := ⟨fun a b => a + -b⟩
instance : Mul Binary64 := ⟨mul⟩

/-- Whether one number is less than another. Nothing is less or greater than a number that is
undefined, and both zeros are the same. -/
def isLess : Binary64 → Binary64 → Bool
  | .nan, _ => false
  | _, .nan => false
  | .infinite a, .infinite b => a && !b
  | .infinite a, .finite .. => a
  | .finite .., .infinite b => !b
  | .finite a m, .finite b n => signed a m < signed b n

def isAtMost : Binary64 → Binary64 → Bool
  | .nan, _ => false
  | _, .nan => false
  | a, b => !isLess b a

instance : LT Binary64 := ⟨fun a b => isLess a b⟩
instance : LE Binary64 := ⟨fun a b => isAtMost a b⟩

instance (a b : Binary64) : Decidable (a < b) := inferInstanceAs (Decidable (isLess a b))
instance (a b : Binary64) : Decidable (a ≤ b) := inferInstanceAs (Decidable (isAtMost a b))

def isZero : Binary64 → Bool
  | .finite _ magnitude => magnitude.steps == 0
  | _ => false

def isFinite : Binary64 → Bool
  | .finite .. => true
  | _ => false

def isWhole : Binary64 → Bool
  | .finite _ magnitude => magnitude.steps % unit == 0
  | _ => false

/-- The integer part of a number, towards zero. -/
def truncate : Binary64 → Except NotFinite Int
  | .nan => .error .undefined
  | .infinite _ => .error .unbounded
  | .finite negative magnitude =>
      .ok (if negative then -((magnitude.steps / unit : Nat) : Int) else magnitude.steps / unit)

/-- The fraction that `truncate` leaves, with the sign of the number. -/
def fraction : Binary64 → Binary64
  | .nan => .nan
  | .infinite negative => .finite negative .zero
  | .finite negative magnitude => ofSteps negative (magnitude.steps % unit) 1

/-- The integer nearest to a number, a half to the even one; zero when it is not finite. -/
def roundToInt : Binary64 → Int
  | .finite true magnitude => -(roundHalfEven magnitude.steps unit : Int)
  | .finite false magnitude => roundHalfEven magnitude.steps unit
  | _ => 0

/-- The count of numbers that are at least as great, or an upper bound of it. -/
def headroom : Binary64 → Nat
  | .nan => 0
  | .infinite true => 2 * limit
  | .infinite false => 0
  | .finite true magnitude => limit + magnitude.steps
  | .finite false magnitude => limit - magnitude.steps

theorem headroom_lt {a b : Binary64} (less : a < b) : b.headroom < a.headroom := by
  have positive := limit_pos
  change isLess a b = true at less
  match a, b with
  | .nan, _ => simp [isLess] at less
  | .infinite s, .nan => simp [isLess] at less
  | .finite s m, .nan => simp [isLess] at less
  | .infinite s, .infinite t =>
      cases s <;> cases t <;> simp [isLess, headroom] at less ⊢
      exact positive
  | .infinite s, .finite t n =>
      have := n.bounded
      cases s <;> cases t <;> simp [isLess, headroom] at less ⊢ <;> omega
  | .finite s m, .infinite t =>
      have := m.bounded
      cases s <;> cases t <;> simp [isLess, headroom] at less ⊢ <;> omega
  | .finite s m, .finite t n =>
      have := m.bounded
      have := n.bounded
      cases s <;> cases t <;> simp [isLess, headroom, signed] at less ⊢ <;> omega

end Binary64

end FilterQuery
