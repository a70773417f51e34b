import FilterQuery.Number.Decimal
import FilterQuery.Number.Shortest
import FilterQuery.Proofs.Number.Product
import Mathlib.Tactic.Linarith

/-!
# Decimals that are rounded to a number

The decimals between the middles to both neighbours of a number are rounded to it, and there is one
of seventeen digits. Main statement: `toBinary64_shortest` says that the shortest decimal for a
number, with any count of its zeros, is read as this number.
-/

set_option autoImplicit false

namespace FilterQuery.Number

variable {steps num den : Nat}

section Rounding

/-- A ratio is rounded to a whole number at most a half away, or less than a half when that number
is odd. -/
theorem roundHalfEven_eq {k : Nat} (positive : 0 < den)
    (lower : 2 * (k * den) ≤ 2 * num + den) (upper : 2 * num ≤ 2 * (k * den) + den)
    (strict : k % 2 = 1 → 2 * (k * den) < 2 * num + den ∧ 2 * num < 2 * (k * den) + den) :
    roundHalfEven num den = k := by
  have parts := Nat.div_add_mod' num den
  have less := Nat.mod_lt num positive
  have above : k < num / den + 2 := by
    refine Nat.lt_of_mul_lt_mul_right (a := den) ?_
    rw [Nat.add_mul]
    omega
  have below : num / den ≤ k := by
    refine Nat.lt_succ_iff.mp (Nat.lt_of_mul_lt_mul_right (a := den) ?_)
    rw [Nat.succ_mul]
    omega
  obtain rfl | rfl : k = num / den ∨ k = num / den + 1 := by omega
  · simp only [roundHalfEven]
    split
    · rfl
    · split <;> omega
  · rw [Nat.add_mul, Nat.one_mul] at lower strict
    simp only [roundHalfEven]
    split
    · omega
    · split <;> omega

theorem spacing_le {n : Nat} (positive : n ≠ 0) : spacing n ≤ n :=
  Nat.le_trans (Nat.pow_le_pow_right (by decide) (Nat.sub_le _ _)) (Nat.log2_self_le positive)

theorem roomBelow_le (steps : Nat) : roomBelow steps ≤ 2 * spacing steps := by
  rw [roomBelow]
  split <;> omega

/-- A ratio lies between the middles to both neighbours of a number, or on one of them when the
significand of the number is even. -/
structure IsNear (steps num den : Nat) : Prop where
  lower : 4 * (steps * den) ≤ 4 * num + roomBelow steps * den
  upper : 4 * num ≤ 4 * (steps * den) + 2 * (spacing steps * den)
  strict : steps / spacing steps % 2 = 1 →
    4 * (steps * den) < 4 * num + roomBelow steps * den ∧
      4 * num < 4 * (steps * den) + 2 * (spacing steps * den)

theorem roundsTo_iff (positive : steps ≠ 0) :
    roundsTo steps num den = true ↔ IsNear steps num den := by
  have room : roomBelow steps * den ≤ 4 * (steps * den) := by
    rw [← Nat.mul_assoc]
    refine Nat.mul_le_mul_right den ?_
    have := roomBelow_le steps
    have := spacing_le positive
    omega
  simp only [roundsTo, Nat.sub_mul, Nat.add_mul, Nat.mul_assoc]
  split
  · next even =>
      simp only [Bool.and_eq_true, decide_eq_true_eq]
      exact ⟨fun ⟨lower, upper⟩ => ⟨by omega, upper, by omega⟩,
        fun near => ⟨by have := near.lower; omega, near.upper⟩⟩
  · next odd =>
      simp only [Bool.and_eq_true, decide_eq_true_eq]
      refine ⟨fun ⟨lower, upper⟩ => ⟨by omega, by omega, fun _ => ⟨by omega, upper⟩⟩,
        fun near => ?_⟩
      obtain ⟨lower, upper⟩ := near.strict (by omega)
      exact ⟨by omega, upper⟩

/-- The ratio counts, not the way it is written. -/
theorem IsNear.congr {num' den' : Nat} (near : IsNear steps num den)
    (same : num * den' = num' * den)
    (positive : 0 < den) (positive' : 0 < den') : IsNear steps num' den' := by
  have scaled (n : Nat) : n * den * den' = n * den' * den := Nat.mul_right_comm n den den'
  obtain ⟨lower, upper, strict⟩ := near
  have cross : 4 * num * den' = 4 * num' * den := by rw [Nat.mul_assoc, same, Nat.mul_assoc]
  refine ⟨?_, ?_, fun odd => ?_⟩
  · refine Nat.le_of_mul_le_mul_right ?_ positive
    have lower := Nat.mul_le_mul_right den' lower
    linarith [scaled steps, scaled (roomBelow steps)]
  · refine Nat.le_of_mul_le_mul_right ?_ positive
    have upper := Nat.mul_le_mul_right den' upper
    linarith [scaled steps, scaled (spacing steps)]
  · obtain ⟨lower, upper⟩ := strict odd
    constructor
    · refine Nat.lt_of_mul_lt_mul_right (a := den) ?_
      have lower := Nat.mul_lt_mul_of_pos_right lower positive'
      linarith [scaled steps, scaled (roomBelow steps)]
    · refine Nat.lt_of_mul_lt_mul_right (a := den) ?_
      have upper := Nat.mul_lt_mul_of_pos_right upper positive'
      linarith [scaled steps, scaled (spacing steps)]

theorem spacing_of_log2_eq {m n : Nat} (same : m.log2 = n.log2) : spacing m = spacing n := by
  rw [spacing, same, ← spacing]

section Whole

variable (near : IsNear steps num den) (denPositive : 0 < den)
include near denPositive

theorem IsNear.div_lt : num / den < steps + spacing steps := by
  refine Nat.lt_of_mul_lt_mul_right (a := den) ?_
  have parts := Nat.div_add_mod' num den
  have some := Nat.mul_pos (spacing_pos steps) denPositive
  have upper := near.upper
  rw [Nat.add_mul]
  omega

theorem IsNear.lt_div : 4 * steps < 4 * (num / den + 1) + roomBelow steps := by
  refine Nat.lt_of_mul_lt_mul_right (a := den) ?_
  have parts := Nat.div_add_mod' num den
  have less := Nat.mod_lt num denPositive
  have lower := near.lower
  rw [Nat.mul_assoc, Nat.add_mul, Nat.mul_assoc, Nat.add_mul]
  omega

end Whole

/-- Just below a power of two, numbers are half as far apart as above it. -/
theorem spacing_below_power {m : Nat} (power : steps = 2 ^ steps.log2) (wide : 52 < steps.log2)
    (less : m < steps) (close : 4 * steps < 4 * (m + 1) + spacing steps) :
    spacing steps = 2 * spacing m := by
  have double : spacing steps = 2 * 2 ^ (steps.log2 - 53) := by
    rw [spacing, Nat.pow_eq, ← Nat.pow_succ',
      show (steps.log2 - 53).succ = steps.log2 - 52 by omega]
  have least : 1 ≤ 2 ^ (steps.log2 - 53) := Nat.one_le_two_pow
  have split : 2 ^ steps.log2 = 2 ^ 53 * 2 ^ (steps.log2 - 53) := by
    rw [← Nat.pow_add, Nat.add_sub_cancel' (by omega)]
  have before : 2 ^ (steps.log2 - 1) = 2 ^ 52 * 2 ^ (steps.log2 - 53) := by
    rw [← Nat.pow_add, show 52 + (steps.log2 - 53) = steps.log2 - 1 by omega]
  have width : m.log2 = steps.log2 - 1 := by
    refine (Nat.log2_eq_iff (by omega)).mpr ⟨by omega, ?_⟩
    rw [Nat.sub_add_cancel (by omega)]
    omega
  rw [double, spacing, width, Nat.pow_eq, show steps.log2 - 1 - 52 = steps.log2 - 53 by omega]

/-- The whole part of a ratio near a number has the spacing of that number, or half of it just below
a power of two. -/
theorem spacing_div_cases (fits : Fits steps) (positive : steps ≠ 0) (denPositive : 0 < den)
    (near : IsNear steps num den) :
    spacing (num / den) = spacing steps ∨
      (spacing steps = 2 * spacing (num / den) ∧ roomBelow steps = spacing steps ∧
        num ≤ steps * den) := by
  have above := near.div_lt denPositive
  have below := near.lt_div denPositive
  have start : 2 ^ steps.log2 ≤ steps := Nat.log2_self_le positive
  have next : steps + spacing steps ≤ 2 ^ (steps.log2 + 1) :=
    add_le_of_dvd Nat.lt_log2_self fits (Nat.pow_dvd_pow 2 (by omega))
  have sameRange (reached : 2 ^ steps.log2 ≤ num / den) : spacing (num / den) = spacing steps := by
    have filled : num / den ≠ 0 := by
      have := Nat.two_pow_pos steps.log2
      omega
    exact spacing_of_log2_eq ((Nat.log2_eq_iff filled).mpr ⟨reached, by omega⟩)
  by_cases reached : steps ≤ num / den
  · exact .inl (sameRange (by omega))
  -- The whole part is below the number. It leaves the range of the number only if this is the
  -- power of two that the range begins with.
  by_cases wide : 52 < steps.log2
  · by_cases power : steps = 2 ^ steps.log2
    · have room : roomBelow steps = spacing steps := by
        rw [roomBelow, if_pos]
        exact Bool.and_eq_true_iff.mpr ⟨decide_eq_true power, decide_eq_true wide⟩
      rw [room] at below
      have less := Nat.lt_of_not_le reached
      exact .inr ⟨spacing_below_power power wide less below, room,
        Nat.le_of_lt ((Nat.div_lt_iff_lt_mul denPositive).mp less)⟩
    · have room : roomBelow steps = 2 * spacing steps := by
        rw [roomBelow, if_neg]
        exact fun both => power (of_decide_eq_true (Bool.and_eq_true_iff.mp both).1)
      have beyond : 2 ^ steps.log2 + spacing steps ≤ steps :=
        add_le_of_dvd (by omega) (Nat.pow_dvd_pow 2 (by omega)) fits
      exact .inl (sameRange (by omega))
  · have narrow := log2_le_log2 (Nat.le_of_not_le reached)
    have one {n : Nat} (small : n.log2 ≤ 52) : spacing n = 1 := by
      rw [spacing, Nat.sub_eq_zero_of_le small]
    exact .inl ((one (by omega)).trans (one (by omega)).symm)

theorem roundToBits_of_isNear (fits : Fits steps) (positive : steps ≠ 0) (denPositive : 0 < den)
    (near : IsNear steps num den) : roundToBits num den = steps := by
  have room := Nat.mul_le_mul_right den (roomBelow_le steps)
  have ways := spacing_div_cases fits positive denPositive near
  obtain ⟨lower, upper, strict⟩ := near
  have whole : steps / spacing steps * spacing steps = steps := Nat.div_mul_cancel fits
  have unitPositive := Nat.mul_pos denPositive (spacing_pos (num / den))
  have wholeDen : steps / spacing steps * (den * spacing steps) = steps * den := by
    rw [Nat.mul_comm den, ← Nat.mul_assoc, whole]
  rw [roundToBits]
  rw [Nat.mul_assoc] at room
  rcases ways with same | ⟨double, least, below⟩
  · rw [same] at unitPositive ⊢
    have rounded : roundHalfEven num (den * spacing steps) = steps / spacing steps := by
      rw [Nat.mul_comm (spacing steps)] at *
      refine roundHalfEven_eq unitPositive ?_ ?_ fun odd => ?_
      · omega
      · omega
      · have := strict odd
        omega
    rw [rounded, whole]
  -- The ratio is counted in units of half the size, of which the number has twice as many.
  · have twice : 2 * (steps / spacing steps) * spacing (num / den) = steps := by
      rw [Nat.mul_comm 2, Nat.mul_assoc, ← double, whole]
    have rounded : roundHalfEven num (den * spacing (num / den)) = 2 * (steps / spacing steps) := by
      have wholeDen : 2 * (steps / spacing steps) * (den * spacing (num / den)) = steps * den := by
        rw [Nat.mul_comm den, ← Nat.mul_assoc, twice]
      rw [least, double, Nat.mul_assoc, Nat.mul_comm (spacing (num / den))] at lower
      refine roundHalfEven_eq unitPositive ?_ ?_ fun odd => ?_
      · omega
      · omega
      · omega
    rw [rounded, twice]

end Rounding

section Search

variable {exponent : Int} {d : Nat}

theorem lt_pow_length_toDigits (n : Nat) : n < 10 ^ (Nat.toDigits 10 n).length :=
  (Nat.length_toDigits_le_iff (by decide) (List.length_pos_iff.mpr Nat.toDigits_ne_nil)).mp
    (Nat.le_refl _)

theorem pow_length_toDigits_le {n : Nat} (positive : n ≠ 0) :
    10 ^ ((Nat.toDigits 10 n).length - 1) ≤ n := by
  have some : 0 < (Nat.toDigits 10 n).length := List.length_pos_iff.mpr Nat.toDigits_ne_nil
  by_cases lone : (Nat.toDigits 10 n).length = 1
  · rw [lone]
    exact Nat.pos_of_ne_zero positive
  · refine Nat.le_of_not_lt fun less => ?_
    have := (Nat.length_toDigits_le_iff (by decide) (by omega)).mpr less
    omega

theorem isNear_of_nearbyDecimal? (positive : steps ≠ 0)
    (found : nearbyDecimal? steps exponent = some d) :
    IsNear steps (d * (unit * 10 ^ exponent.toNat)) (10 ^ (-exponent).toNat) := by
  rw [← roundsTo_iff positive]
  simp only [nearbyDecimal?, Nat.pow_eq] at found
  generalize 10 ^ (-exponent).toNat = part at found ⊢
  generalize unit * 10 ^ exponent.toNat = whole at found ⊢
  have above := div_le_roundHalfEven (steps * part) whole
  have below := roundHalfEven_le (steps * part) whole
  split at found
  · next first second =>
      obtain rfl := Option.some.inj found
      obtain same | same : roundHalfEven (steps * part) whole = steps * part / whole ∨
          roundHalfEven (steps * part) whole = steps * part / whole + 1 := by omega
      · rwa [same]
      · rwa [same]
  · next first _ =>
      obtain rfl := Option.some.inj found
      exact first
  · next second =>
      obtain rfl := Option.some.inj found
      exact second
  · cases found

/-- The room below a number is less than it by 52 binary digits at most. -/
theorem le_roomBelow_mul (steps : Nat) : steps ≤ roomBelow steps * 2 ^ 52 := by
  rw [roomBelow]
  split
  · next power =>
      simp only [Bool.and_eq_true, decide_eq_true_eq] at power
      rw [spacing, Nat.pow_eq, ← Nat.pow_add, Nat.sub_add_cancel (by omega)]
      exact Nat.le_of_eq power.1
  · have upper : steps < 2 ^ (steps.log2 + 1) := Nat.lt_log2_self
    have wide : 2 ^ (steps.log2 + 1) ≤ 2 ^ (steps.log2 - 52 + 53) :=
      Nat.pow_le_pow_right (by decide) (by omega)
    have split := Nat.pow_add 2 (steps.log2 - 52) 53
    rw [spacing, Nat.pow_eq]
    omega

/-- There is a decimal near a number when decimals are less apart than half the room below it. -/
theorem exists_nearbyDecimal? (positive : steps ≠ 0)
    (fine : 10 ^ 16 * (unit * 10 ^ exponent.toNat) ≤ steps * 10 ^ (-exponent).toNat) :
    ∃ d, nearbyDecimal? steps exponent = some d := by
  have tenPositive : 0 < 10 ^ (-exponent).toNat := Nat.pow_pos (by decide)
  have wholePositive : 0 < unit * 10 ^ exponent.toNat :=
    Nat.mul_pos unit_pos (Nat.pow_pos (by decide))
  simp only [nearbyDecimal?, Nat.pow_eq]
  generalize 10 ^ (-exponent).toNat = part at fine tenPositive ⊢
  generalize unit * 10 ^ exponent.toNat = whole at fine wholePositive ⊢
  have parts := Nat.div_add_mod' (steps * part) whole
  have rest := Nat.mod_lt (steps * part) wholePositive
  have room := Nat.mul_le_mul_right part (le_roomBelow_mul steps)
  have wider := Nat.mul_le_mul_right part (roomBelow_le steps)
  have next := Nat.add_one_mul (steps * part / whole) whole
  rw [Nat.mul_right_comm] at room
  rw [Nat.mul_assoc] at wider
  have some : roundsTo steps (steps * part / whole * whole) part = true ∨
      roundsTo steps ((steps * part / whole + 1) * whole) part = true := by
    by_cases lowerHalf : 2 * (steps * part % whole) ≤ whole
    · refine .inl ((roundsTo_iff positive).mpr ⟨?_, ?_, fun _ => ⟨?_, ?_⟩⟩) <;> omega
    · refine .inr ((roundsTo_iff positive).mpr ⟨?_, ?_, fun _ => ⟨?_, ?_⟩⟩) <;> omega
  split
  · exact ⟨_, rfl⟩
  · exact ⟨_, rfl⟩
  · exact ⟨_, rfl⟩
  · next first second => simp [first, second] at some

/-- Seventeen digits from the leading one on are fine enough. -/
theorem fine_leadingExponent (positive : steps ≠ 0) :
    10 ^ 16 * (unit * 10 ^ (leadingExponent steps - 16).toNat) ≤
      steps * 10 ^ (-(leadingExponent steps - 16)).toNat := by
  -- The power is never computed, only the balance of the exponents counts.
  obtain ⟨shift, isShift⟩ : ∃ shift, shift = 400 := ⟨400, rfl⟩
  have wide : unit ≤ Nat.pow 10 shift := by
    subst isShift
    decide +kernel
  rewrite [leadingExponent, ← isShift]
  have shifted : steps * Nat.pow 10 shift / unit ≠ 0 := by
    have := Nat.le_trans wide (Nat.le_mul_of_pos_left _ (Nat.pos_of_ne_zero positive))
    exact Nat.ne_of_gt (Nat.div_pos this unit_pos)
  have lead := pow_length_toDigits_le shifted
  have some : 0 < (Nat.toDigits 10 (steps * Nat.pow 10 shift / unit)).length :=
    List.length_pos_iff.mpr Nat.toDigits_ne_nil
  rw [Nat.le_div_iff_mul_le unit_pos, Nat.pow_eq] at lead
  rw [Nat.pow_eq] at some ⊢
  generalize (Nat.toDigits 10 (steps * 10 ^ shift / unit)).length = width at some lead ⊢
  obtain ⟨exponent, same⟩ : ∃ exponent, exponent = (width : Int) - 401 - 16 := ⟨_, rfl⟩
  rw [← same]
  refine Nat.le_of_mul_le_mul_right (c := 10 ^ shift) ?_ (Nat.pow_pos (by decide))
  have balance : 16 + exponent.toNat + shift = width - 1 + (-exponent).toNat := by omega
  calc 10 ^ 16 * (unit * 10 ^ exponent.toNat) * 10 ^ shift
      = 10 ^ (16 + exponent.toNat + shift) * unit := by
        rw [Nat.pow_add, Nat.pow_add, Nat.mul_comm unit, ← Nat.mul_assoc, Nat.mul_right_comm]
    _ = 10 ^ (width - 1) * unit * 10 ^ (-exponent).toNat := by
        rw [balance, Nat.pow_add, Nat.mul_right_comm]
    _ ≤ steps * 10 ^ shift * 10 ^ (-exponent).toNat := Nat.mul_le_mul_right _ lead
    _ = steps * 10 ^ (-exponent).toNat * 10 ^ shift := Nat.mul_right_comm _ _ _

end Search

section Reading

variable {digits : Nat} {exponent : Int}

/-- A decimal `digits * 10 ^ exponent`, counted in steps, is near a number. -/
def IsNearDecimal (steps digits : Nat) (exponent : Int) : Prop :=
  IsNear steps (digits * (unit * 10 ^ exponent.toNat)) (10 ^ (-exponent).toNat)

/-- Zeros may stand among the digits or count for the exponent. -/
theorem isNearDecimal_zeros_iff (zeros : Nat) :
    IsNearDecimal steps (digits * 10 ^ zeros) (exponent - zeros) ↔
      IsNearDecimal steps digits exponent := by
  have balance : zeros + (exponent - zeros).toNat + (-exponent).toNat =
      exponent.toNat + (-(exponent - zeros)).toNat := by omega
  have cross :
      digits * 10 ^ zeros * (unit * 10 ^ (exponent - zeros).toNat) * 10 ^ (-exponent).toNat =
      digits * (unit * 10 ^ exponent.toNat) * 10 ^ (-(exponent - zeros)).toNat := by
    calc digits * 10 ^ zeros * (unit * 10 ^ (exponent - zeros).toNat) * 10 ^ (-exponent).toNat
        = digits * unit * 10 ^ (zeros + (exponent - zeros).toNat + (-exponent).toNat) := by
          rw [Nat.pow_add, Nat.pow_add]
          generalize unit = unit
          ac_rfl
      _ = digits * (unit * 10 ^ exponent.toNat) * 10 ^ (-(exponent - zeros)).toNat := by
          rw [balance, Nat.pow_add]
          generalize unit = unit
          ac_rfl
  have powPositive (n : Nat) : 0 < 10 ^ n := Nat.pow_pos (by decide)
  exact ⟨fun near => near.congr cross (powPositive _) (powPositive _),
    fun near => near.congr cross.symm (powPositive _) (powPositive _)⟩

/-- The zeros that are dropped from the digits are counted in the exponent. -/
theorem dropZeros_spec (fuel digits : Nat) (exponent : Int) : ∃ zeros : Nat,
    digits = (dropZeros fuel digits exponent).digits * 10 ^ zeros ∧
      (dropZeros fuel digits exponent).exponent - zeros = exponent := by
  induction fuel generalizing digits exponent with
  | zero => exact ⟨0, by simp [dropZeros], by simp [dropZeros]⟩
  | succ fuel ih =>
      rw [dropZeros]
      split
      · next ends =>
          simp only [Bool.and_eq_true, decide_eq_true_eq] at ends
          obtain ⟨zeros, same, shifted⟩ := ih (digits / 10) (exponent + 1)
          refine ⟨zeros + 1, ?_, ?_⟩
          · rw [Nat.pow_succ, ← Nat.mul_assoc, ← same]
            omega
          · push_cast
            omega
      · exact ⟨0, by simp, by simp⟩

/-- Seventeen digits are always enough. -/
theorem isNearDecimal_shortest (positive : steps ≠ 0) :
    IsNearDecimal steps (shortest steps).digits (shortest steps).exponent := by
  have found : ((List.range 17).findSome? fun (places : Nat) =>
      (nearbyDecimal? steps (leadingExponent steps - (places : Int))).map fun digits =>
        dropZeros 17 digits (leadingExponent steps - (places : Int))).isSome := by
    obtain ⟨d, near⟩ := exists_nearbyDecimal? positive (fine_leadingExponent positive)
    rw [List.findSome?_isSome_iff]
    exact ⟨16, by simp, by simp [near]⟩
  obtain ⟨decimal, found⟩ := Option.isSome_iff_exists.mp found
  obtain ⟨places, -, near⟩ := List.exists_of_findSome?_eq_some found
  rw [Option.map_eq_some_iff] at near
  obtain ⟨d, near, dropped⟩ := near
  have chosen : shortest steps = decimal := by rw [shortest, found, Option.getD_some]
  obtain ⟨zeros, same, shifted⟩ := dropZeros_spec 17 d (leadingExponent steps - (places : Int))
  rw [dropped] at same shifted
  rw [chosen, ← isNearDecimal_zeros_iff zeros, shifted, ← same]
  exact isNear_of_nearbyDecimal? positive near

section Range

variable (near : IsNearDecimal steps digits exponent)
include near

theorem IsNearDecimal.le_two_mul (positive : steps ≠ 0) :
    10 ^ (-exponent).toNat ≤ 2 * (digits * (unit * 10 ^ exponent.toNat)) := by
  have lower := near.lower
  have room := Nat.mul_le_mul_right (10 ^ (-exponent).toNat) (roomBelow_le steps)
  have narrow := Nat.mul_le_mul_right (10 ^ (-exponent).toNat) (spacing_le positive)
  have one := Nat.le_mul_of_pos_left (10 ^ (-exponent).toNat) (Nat.pos_of_ne_zero positive)
  rw [Nat.mul_assoc] at room
  omega

theorem IsNearDecimal.lt_two_mul (positive : steps ≠ 0) :
    digits * (unit * 10 ^ exponent.toNat) < 2 * (steps * 10 ^ (-exponent).toNat) := by
  have upper := near.upper
  have narrow := Nat.mul_le_mul_right (10 ^ (-exponent).toNat) (spacing_le positive)
  have some : 0 < steps * 10 ^ (-exponent).toNat :=
    Nat.mul_pos (Nat.pos_of_ne_zero positive) (Nat.pow_pos (by decide))
  omega

theorem IsNearDecimal.digits_ne_zero (positive : steps ≠ 0) : digits ≠ 0 := by
  rintro rfl
  have some := near.le_two_mul positive
  rw [Nat.zero_mul] at some
  exact absurd (Nat.le_zero.mp some) (Nat.ne_of_gt (Nat.pow_pos (by decide)))

theorem IsNearDecimal.exponent_add_le (bounded : steps < limit) (positive : steps ≠ 0) :
    exponent + (Nat.toDigits 10 digits).length ≤ 309 := by
  obtain ⟨most, isMost⟩ : ∃ most, most = 309 := ⟨309, rfl⟩
  have range : 2 * limit ≤ 10 ^ most * unit := by
    subst isMost
    decide +kernel
  have lead := pow_length_toDigits_le (near.digits_ne_zero positive)
  have some : 0 < (Nat.toDigits 10 digits).length := List.length_pos_iff.mpr Nat.toDigits_ne_nil
  have less : 10 ^ ((Nat.toDigits 10 digits).length - 1 + exponent.toNat) * unit <
      10 ^ (most + (-exponent).toNat) * unit := by
    calc 10 ^ ((Nat.toDigits 10 digits).length - 1 + exponent.toNat) * unit
        = 10 ^ ((Nat.toDigits 10 digits).length - 1) * (unit * 10 ^ exponent.toNat) := by
          rw [Nat.pow_add, Nat.mul_assoc, Nat.mul_comm unit]
      _ ≤ digits * (unit * 10 ^ exponent.toNat) := Nat.mul_le_mul_right _ lead
      _ < 2 * (steps * 10 ^ (-exponent).toNat) := near.lt_two_mul positive
      _ ≤ 2 * limit * 10 ^ (-exponent).toNat := by
          rw [← Nat.mul_assoc]
          exact Nat.mul_le_mul_right _ (Nat.mul_le_mul_left 2 (Nat.le_of_lt bounded))
      _ ≤ 10 ^ most * unit * 10 ^ (-exponent).toNat := Nat.mul_le_mul_right _ range
      _ = 10 ^ (most + (-exponent).toNat) * unit := by
          rw [Nat.pow_add, Nat.mul_right_comm]
  have := (Nat.pow_lt_pow_iff_right (by decide)).mp (Nat.lt_of_mul_lt_mul_right less)
  omega

theorem IsNearDecimal.le_exponent_add (positive : steps ≠ 0) :
    -324 ≤ exponent + (Nat.toDigits 10 digits).length := by
  obtain ⟨least, isLeast⟩ : ∃ least, least = 324 := ⟨324, rfl⟩
  have range : 2 * unit ≤ 10 ^ least := by
    subst isLeast
    decide +kernel
  have less : 10 ^ (-exponent).toNat <
      10 ^ (least + (Nat.toDigits 10 digits).length + exponent.toNat) := by
    calc 10 ^ (-exponent).toNat ≤ 2 * (digits * (unit * 10 ^ exponent.toNat)) :=
          near.le_two_mul positive
      _ = digits * (2 * unit * 10 ^ exponent.toNat) := by
          rw [Nat.mul_left_comm, Nat.mul_assoc 2]
      _ ≤ digits * (10 ^ least * 10 ^ exponent.toNat) :=
          Nat.mul_le_mul_left _ (Nat.mul_le_mul_right _ range)
      _ < 10 ^ (Nat.toDigits 10 digits).length * (10 ^ least * 10 ^ exponent.toNat) :=
          Nat.mul_lt_mul_of_pos_right (lt_pow_length_toDigits digits)
            (Nat.mul_pos (Nat.pow_pos (by decide)) (Nat.pow_pos (by decide)))
      _ = 10 ^ (least + (Nat.toDigits 10 digits).length + exponent.toNat) := by
          rw [Nat.pow_add, Nat.pow_add, ← Nat.mul_assoc, Nat.mul_comm (10 ^ least)]
  have := (Nat.pow_lt_pow_iff_right (by decide)).mp less
  omega

end Range

theorem toBinary64_of_isNearDecimal {magnitude : Magnitude} (positive : magnitude.steps ≠ 0)
    (near : IsNearDecimal magnitude.steps digits exponent) (negative : Bool) :
    Decimal.toBinary64 ⟨negative, digits, exponent⟩ = .finite negative magnitude := by
  obtain ⟨steps, fits, bounded⟩ := magnitude
  have lower := near.le_exponent_add positive
  have upper := near.exponent_add_le bounded positive
  have rounded := roundToBits_of_isNear fits positive (Nat.pow_pos (by decide)) near
  have written : digits * 10 ^ exponent.toNat * unit = digits * (unit * 10 ^ exponent.toNat) := by
    rw [Nat.mul_assoc, Nat.mul_comm unit]
  simp only [Decimal.toBinary64, if_neg (near.digits_ne_zero positive),
    if_neg (Int.not_lt.mpr upper), if_neg (Int.not_lt.mpr lower), Binary64.ofRatio,
    Binary64.ofSteps, Nat.pow_eq, written, rounded, dif_pos bounded]

/-- The shortest decimal of a number is read as this number, also when zeros are counted among its
digits. -/
theorem toBinary64_shortest {magnitude : Magnitude} (positive : magnitude.steps ≠ 0)
    (negative : Bool) (zeros : Nat) :
    Decimal.toBinary64 ⟨negative, (shortest magnitude.steps).digits * 10 ^ zeros,
      (shortest magnitude.steps).exponent - zeros⟩ = .finite negative magnitude :=
  toBinary64_of_isNearDecimal positive
    ((isNearDecimal_zeros_iff zeros).mpr (isNearDecimal_shortest positive)) negative

end Reading

end FilterQuery.Number
