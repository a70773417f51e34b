import FilterQuery.Filter.Literal
import FilterQuery.Proofs.Number.Shortest
import FilterQuery.Proofs.Number.Significant

/-!
# Decimals with a sign

What decimal literals without an exponent are read as: the number that is nearest to their digits
with the point where it stands.
-/

set_option autoImplicit false

namespace FilterQuery.Number

open Text

/-- A sign that is written or left out, and whether it is a minus. -/
inductive IsSign : List Char → Bool → Prop where
  | none : IsSign [] false
  | plus : IsSign ['+'] false
  | minus : IsSign ['-'] true

variable {sign whole fraction : List Char} {negative : Bool} {n places : Nat}

theorem splitSign_append (isSign : IsSign sign negative) (areDigits : IsDigits whole)
    (rest : List Char) : splitSign (sign ++ (whole ++ rest)) = (negative, whole ++ rest) := by
  cases isSign with
  | plus => rfl
  | minus => rfl
  | none => exact splitSign_digits_append areDigits.all areDigits.filled rest

theorem getLast?_append_digits {digits : List Char} (areDigits : IsDigits digits)
    (before : List Char) {c : Char} (other : isAsciiDigit c = false) :
    (before ++ digits).getLast? ≠ some c := by
  intro last
  have inside : digits.getLast? = some c := by
    rwa [List.getLast?_append, List.getLast?_eq_some_getLast areDigits.filled, Option.some_or,
      ← List.getLast?_eq_some_getLast] at last
  have digit := areDigits.all c (List.mem_of_getLast? inside)
  rw [other] at digit
  cases digit

theorem Decimal.read?_append (isSign : IsSign sign negative) (areDigits : IsDigits whole)
    (isFraction : IsFraction fraction) :
    Decimal.read? (sign ++ (whole ++ fraction)) =
      some ⟨negative, asciiNumber (whole ++ fraction.tail), -(fraction.tail.length : Int)⟩ := by
  have read := Decimal.readUnsigned_append areDigits isFraction .none rfl negative
  rw [List.append_nil, Int.zero_sub] at read
  rw [Decimal.read?, splitSign_append isSign areDigits]
  exact read

/-- A decimal of moderate size is rounded to the nearest number. -/
theorem Decimal.toBinary64_eq_ofRatio (bounded : n < 10 ^ 100) (few : places ≤ 100)
    (negative : Bool) :
    Decimal.toBinary64 ⟨negative, n, -(places : Int)⟩ = .ofRatio negative n (10 ^ places) := by
  have width : (Nat.toDigits 10 n).length ≤ 100 :=
    (Nat.length_toDigits_le_iff (by decide) (by decide)).mpr bounded
  have some : 0 < (Nat.toDigits 10 n).length := List.length_pos_iff.mpr Nat.toDigits_ne_nil
  simp only [Decimal.toBinary64]
  split
  · next none =>
      subst none
      have zero : roundToBits (0 * unit) (10 ^ places) = 0 := by
        rw [Nat.zero_mul, roundToBits_zero]
      rw [Binary64.ofRatio, Binary64.ofSteps, dif_pos (by rw [zero]; exact limit_pos)]
      simp only [zero, Magnitude.zero]
  · rw [if_neg (by omega), if_neg (by omega), Int.toNat_neg_natCast, Nat.pow_eq, Nat.pow_zero,
      Nat.mul_one, Int.neg_neg, Int.toNat_natCast, Nat.pow_eq]

end FilterQuery.Number

namespace FilterQuery.Filter

open Number

/-- What is read of a literal that stands for a finite number. -/
theorem readNumeral_of_finite {text : List Char} {decimal : Decimal} {negative : Bool}
    {magnitude : Magnitude} (ends : text.getLast? ≠ some '\n')
    (read : Decimal.read? text = some decimal)
    (finite : decimal.toBinary64 = .finite negative magnitude) :
    readNumeral text = some (
      if magnitude.steps % unit = 0 then .whole (withSign negative (magnitude.steps / unit))
      else .real (.finite negative magnitude)) := by
  have same : withoutFinalLineFeed text = text := by
    rw [withoutFinalLineFeed, if_neg (by simpa using ends)]
  rw [readNumeral, same, read]
  simp only [Option.bind_eq_bind, Option.bind_some, finite, Binary64.truncate_finite,
    Binary64.isWhole, beq_iff_eq]

end FilterQuery.Filter
