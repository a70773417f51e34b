import FilterQuery.Number.Integer
import FilterQuery.Proofs.Text.Blank
import FilterQuery.Proofs.Text.Run
import Mathlib.Algebra.Group.Nat.Defs

/-!
# Written integers

What the text of an integer is made of. Main statements: `readInteger_intText` says that an integer
is read back from its text, if it may be written at all, and `isWritable_of_readInteger` that every
integer that is read may be written.
-/

set_option autoImplicit false

namespace FilterQuery.Number

open Text

variable {n : Nat} {value : Int}

theorem isAsciiDigit_of_mem_toDigits {c : Char} (member : c ∈ Nat.toDigits 10 n) :
    isAsciiDigit c = true := by
  have digit : c.isDigit = true := Nat.isDigit_of_mem_toDigits (by decide) (by decide) member
  simp only [Char.isDigit, Bool.and_eq_true, decide_eq_true_eq, ge_iff_le,
    UInt32.le_iff_toNat_le] at digit
  exact isAsciiDigit_iff.mpr digit

theorem asciiNumber_toDigits (n : Nat) : asciiNumber (Nat.toDigits 10 n) = n := by
  have read := Nat.ofDigitChars_ten_toDigits (n := n)
  rwa [Nat.ofDigitChars_eq_foldl] at read

/-- Only zero is written with a zero in front. -/
theorem toDigits_eq_zero_cons {rest : List Char} (split : Nat.toDigits 10 n = '0' :: rest) :
    n = 0 ∧ rest = [] := by
  induction n using Nat.strongRecOn generalizing rest with
  | ind n ih =>
      by_cases small : n < 10
      · rw [Nat.toDigits_of_lt_base small] at split
        obtain ⟨zero, rfl⟩ := List.cons.inj split
        exact ⟨Nat.digitChar_eq_zero.mp zero, rfl⟩
      · rw [Nat.toDigits_of_base_le (by decide) (by omega)] at split
        obtain ⟨digit, others, start⟩ := List.exists_cons_of_ne_nil
          (Nat.toDigits_ne_nil (n := n / 10) (b := 10))
        rw [start, List.cons_append] at split
        obtain ⟨rfl, -⟩ := List.cons.inj split
        have shorter := (ih (n / 10) (by omega) start).1
        omega

theorem isWritable_iff : isWritable value = true ↔ value.natAbs < Nat.pow 10 digitLimit := by
  simp only [isWritable, decide_eq_true_eq]

theorem length_toDigits_le_iff :
    (Nat.toDigits 10 value.natAbs).length ≤ digitLimit ↔ isWritable value = true := by
  rw [isWritable_iff, Nat.length_toDigits_le_iff (by decide) (by decide), Nat.pow_eq]

theorem toList_intText (value : Int) :
    (intText value).toList =
      (if value < 0 then ['-'] else []) ++ Nat.toDigits 10 value.natAbs := by
  cases value with
  | ofNat n => simp [intText, natText]
  | negSucc n => simp [intText, natText, Int.negSucc_lt_zero]

theorem withoutGrouping_of_forall {afterDigit : Bool} {digits : List Char}
    (plain : '_' ∉ digits) : withoutGrouping afterDigit digits = some digits := by
  induction digits generalizing afterDigit with
  | nil => rfl
  | cons c rest ih =>
      rw [List.mem_cons, not_or] at plain
      rw [withoutGrouping, if_neg (by simpa using Ne.symm plain.1), ih plain.2]
      rfl

theorem withSign_natAbs (value : Int) : withSign (decide (value < 0)) value.natAbs = value := by
  by_cases negative : value < 0 <;>
    simp only [withSign, negative, decide_true, decide_false, Bool.false_eq_true, ↓reduceIte] <;>
    omega

theorem isWhiteSpace_of_isAsciiDigit {c : Char} (digit : isAsciiDigit c = true) :
    isWhiteSpace c = false := by
  obtain ⟨lower, upper⟩ := isAsciiDigit_iff.mp digit
  simp only [isWhiteSpace, Bool.or_eq_false_iff, Bool.and_eq_false_iff, decide_eq_false_iff_not,
    beq_eq_false_iff_ne]
  omega

theorem splitSign_digits_append {digits : List Char}
    (areDigits : ∀ d ∈ digits, isAsciiDigit d = true) (filled : digits ≠ []) (rest : List Char) :
    splitSign (digits ++ rest) = (false, digits ++ rest) := by
  obtain ⟨first, others, rfl⟩ := List.exists_cons_of_ne_nil filled
  have digit : isAsciiDigit first = true := areDigits first List.mem_cons_self
  rw [List.cons_append]
  unfold splitSign
  split
  · next same => cases same; exact absurd digit (by decide)
  · next same => cases same; exact absurd digit (by decide)
  · rfl

theorem splitSign_digits {digits : List Char} (areDigits : ∀ d ∈ digits, isAsciiDigit d = true) :
    splitSign digits = (false, digits) := by
  by_cases empty : digits = []
  · rw [empty]
    rfl
  · have read := splitSign_digits_append areDigits empty []
    rwa [List.append_nil] at read

theorem readDigits_toDigits (writable : isWritable value = true) :
    readDigits (Nat.toDigits 10 value.natAbs) = .ok value.natAbs := by
  have areDigits (c : Char) (member : c ∈ Nat.toDigits 10 value.natAbs) :=
    isAsciiDigit_of_mem_toDigits member
  have known : ¬((Nat.toDigits 10 value.natAbs).isEmpty ||
      !(Nat.toDigits 10 value.natAbs).all isDecimalDigit) = true := by
    simp only [Bool.or_eq_true, List.isEmpty_iff, Nat.toDigits_ne_nil, Bool.not_eq_true',
      List.all_eq_false, false_or, not_exists, not_and]
    exact fun c member other => other (isDecimalDigit_of_isAsciiDigit (areDigits c member))
  have short : ¬digitLimit < (Nat.toDigits 10 value.natAbs).length :=
    Nat.not_lt.mpr (length_toDigits_le_iff.mpr writable)
  rw [readDigits, if_neg known, if_neg short, digitsNumber_of_ascii areDigits,
    asciiNumber_toDigits]

theorem digitValue?_lt {c : Char} {digit : Nat} (known : digitValue? c = some digit) :
    digit < 10 := by
  obtain ⟨first, found, rfl⟩ := Option.map_eq_some_iff.mp known
  have block := List.find?_some found
  simp only [Bool.and_eq_true, decide_eq_true_eq] at block
  omega

theorem digitsNumber_lt (digits : List Char) : digitsNumber digits < 10 ^ digits.length := by
  suffices bounded : ∀ start, digits.foldl (fun number digit => 10 * number +
      (digitValue? digit).getD 0) start < (start + 1) * 10 ^ digits.length by
    have whole := bounded 0
    rwa [Nat.zero_add, Nat.one_mul] at whole
  induction digits with
  | nil => intro start; simp
  | cons digit rest ih =>
      intro start
      have small : (digitValue? digit).getD 0 < 10 := by
        cases known : digitValue? digit with
        | none => decide
        | some value => exact digitValue?_lt known
      calc (digit :: rest).foldl (fun number digit => 10 * number + (digitValue? digit).getD 0) start
          < (10 * start + (digitValue? digit).getD 0 + 1) * 10 ^ rest.length := ih _
        _ ≤ ((start + 1) * 10) * 10 ^ rest.length := Nat.mul_le_mul_right _ (by omega)
        _ = (start + 1) * 10 ^ (digit :: rest).length := by
            rw [List.length_cons, Nat.pow_succ', Nat.mul_assoc]

theorem withSign_mul (negative : Bool) (n factor : Nat) :
    withSign negative (n * factor) = withSign negative n * factor := by
  cases negative with
  | false => exact Int.natCast_mul n factor
  | true => exact (congrArg Neg.neg (Int.natCast_mul n factor)).trans (Int.neg_mul _ _).symm

/-- One less in magnitude is one nearer to zero. -/
theorem withSign_natAbs_sub_one (value : Int) :
    withSign (value < 0) (value.natAbs - 1) = value - value.sign := by
  rcases Int.lt_trichotomy value 0 with negative | zero | positive
  · rw [decide_eq_true negative, Int.sign_eq_neg_one_of_neg negative, withSign, if_pos rfl]
    omega
  · rw [zero]
    rfl
  · have other : ¬value < 0 := by omega
    rw [decide_eq_false other, Int.sign_eq_one_of_pos positive, withSign,
      if_neg Bool.false_ne_true]
    omega

theorem natAbs_withSign (negative : Bool) (n : Nat) : (withSign negative n).natAbs = n := by
  cases negative with
  | false => exact Int.natAbs_natCast n
  | true => exact (Int.natAbs_neg _).trans (Int.natAbs_natCast n)

theorem readDigits_lt {digits : List Char} (read : readDigits digits = .ok n) :
    n < Nat.pow 10 digitLimit := by
  simp only [readDigits] at read
  split at read
  · cases read
  split at read
  · cases read
  · next few =>
      cases read
      generalize digitLimit = most at few ⊢
      exact Nat.lt_of_lt_of_le (digitsNumber_lt digits)
        (Nat.pow_le_pow_right (by decide) (Nat.not_lt.mp few))

/-- An integer that is read may be written. -/
theorem isWritable_of_readInteger {text : List Char} (read : readInteger text = .ok value) :
    isWritable value = true := by
  simp only [readInteger] at read
  split at read
  · cases read
  · next digits _ =>
      cases number : readDigits digits with
      | error fault =>
          rw [number] at read
          cases read
      | ok magnitude =>
          rw [number] at read
          cases read
          have bounded := readDigits_lt number
          rwa [isWritable_iff, natAbs_withSign]

/-- An integer that may be written is read back from its text. -/
theorem readInteger_intText (writable : isWritable value = true) :
    readInteger (intText value).toList = .ok value := by
  have areDigits (c : Char) (member : c ∈ Nat.toDigits 10 value.natAbs) :=
    isAsciiDigit_of_mem_toDigits member
  have stripped : stripBy isWhiteSpace (intText value).toList = (intText value).toList := by
    refine stripBy_of_forall fun c member => ?_
    rw [toList_intText, List.mem_append] at member
    rcases member with sign | digit
    · split at sign
      · rw [List.mem_singleton.mp sign]
        decide
      · cases sign
    · exact isWhiteSpace_of_isAsciiDigit (areDigits c digit)
  have signed : splitSign (intText value).toList =
      (decide (value < 0), Nat.toDigits 10 value.natAbs) := by
    rw [toList_intText]
    by_cases negative : value < 0
    · simp [negative, splitSign]
    · simp [negative, splitSign_digits areDigits]
  simp only [readInteger, stripped, signed, withoutGrouping_of_forall Nat.underscore_not_in_toDigits,
    readDigits_toDigits writable]
  exact congrArg Except.ok (withSign_natAbs value)

end FilterQuery.Number
