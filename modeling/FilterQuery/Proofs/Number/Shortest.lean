import FilterQuery.Number.Decimal
import FilterQuery.Number.Shortest
import FilterQuery.Proofs.Number.Integer
import FilterQuery.Proofs.Number.Nearest

/-!
# Written numbers

The shortest text of a finite number is a decimal literal: an integer part without needless zeros,
and a fraction, an exponent or both. Main statement: `exists_isLiteral_magnitudeText` says that this
literal is read as the number again.
-/

set_option autoImplicit false

namespace FilterQuery.Number

open Text

/-- A run of ASCII digits, at least one. -/
structure IsDigits (digits : List Char) : Prop where
  filled : digits ≠ []
  all : ∀ d ∈ digits, isAsciiDigit d = true

/-- An integer part: a lone zero, or digits of which the first one is another one. -/
structure IsWhole (whole : List Char) : Prop extends IsDigits whole where
  noZero : ∀ rest, whole = '0' :: rest → rest = []

inductive IsFraction : List Char → Prop where
  | none : IsFraction []
  | some {digits : List Char} : IsDigits digits → IsFraction ('.' :: digits)

inductive IsExponent : List Char → Prop where
  | none : IsExponent []
  | some {sign : Char} {digits : List Char} :
      sign = '+' ∨ sign = '-' → IsDigits digits → IsExponent ('e' :: sign :: digits)

/-- A decimal literal that is not the text of an integer. -/
structure IsLiteral (whole fraction exponent : List Char) : Prop where
  isWhole : IsWhole whole
  isFraction : IsFraction fraction
  isExponent : IsExponent exponent
  notWhole : fraction ≠ [] ∨ exponent ≠ []

section Digits

variable {digits : List Char}

theorem isDigits_toDigits (n : Nat) : IsDigits (Nat.toDigits 10 n) :=
  ⟨Nat.toDigits_ne_nil, fun _ => isAsciiDigit_of_mem_toDigits⟩

theorem isWhole_toDigits (n : Nat) : IsWhole (Nat.toDigits 10 n) :=
  ⟨isDigits_toDigits n, fun _ split => (toDigits_eq_zero_cons split).2⟩

theorem IsDigits.append {first second : List Char} (start : IsDigits first)
    (all : ∀ d ∈ second, isAsciiDigit d = true) : IsDigits (first ++ second) := by
  refine ⟨List.append_ne_nil_of_left_ne_nil start.filled second, fun d member => ?_⟩
  rcases List.mem_append.mp member with member | member
  · exact start.all d member
  · exact all d member

theorem isAsciiDigit_of_mem_replicate {n : Nat} {d : Char} (member : d ∈ List.replicate n '0') :
    isAsciiDigit d = true := by
  rw [List.eq_of_mem_replicate member]
  decide

theorem isWhole_singleton {digit : Char} (isDigit : isAsciiDigit digit = true) :
    IsWhole [digit] := by
  refine ⟨⟨List.cons_ne_nil digit [], fun d member => ?_⟩, fun rest split => ?_⟩
  · rwa [List.mem_singleton.mp member]
  · exact (List.cons.inj split).2.symm

theorem IsDigits.areDecimal (areDigits : IsDigits digits) :
    ∀ d ∈ digits, isDecimalDigit d = true :=
  fun d member => isDecimalDigit_of_isAsciiDigit (areDigits.all d member)

theorem asciiNumber_zeros_append (zeros : Nat) (digits : List Char) :
    asciiNumber (List.replicate zeros '0' ++ digits) = asciiNumber digits := by
  induction zeros with
  | zero => rfl
  | succ zeros ih => exact ih

theorem asciiNumber_append (digits others : List Char) :
    asciiNumber (digits ++ others) =
      asciiNumber digits * 10 ^ others.length + asciiNumber others := by
  suffices shifted : ∀ start, others.foldl (fun number digit => 10 * number +
      (digit.toNat - '0'.toNat)) start = start * 10 ^ others.length + asciiNumber others by
    rw [asciiNumber, List.foldl_append, ← asciiNumber, shifted]
  induction others with
  | nil => simp [asciiNumber]
  | cons digit others ih =>
      intro start
      rw [asciiNumber, List.foldl_cons, List.foldl_cons, ih, ih, List.length_cons, Nat.pow_succ',
        Nat.mul_zero, Nat.zero_add, Nat.add_mul, Nat.add_assoc, Nat.mul_comm 10 start,
        Nat.mul_assoc]

theorem asciiNumber_lt (areDigits : ∀ d ∈ digits, isAsciiDigit d = true) :
    asciiNumber digits < 10 ^ digits.length := by
  rw [← digitsNumber_of_ascii areDigits]
  exact digitsNumber_lt digits

theorem asciiNumber_append_zeros (digits : List Char) (zeros : Nat) :
    asciiNumber (digits ++ List.replicate zeros '0') = asciiNumber digits * 10 ^ zeros := by
  have none := asciiNumber_zeros_append zeros []
  rw [List.append_nil] at none
  rw [asciiNumber_append, none, List.length_replicate]
  rfl

/-- The last digits of a number. -/
def lastDigits : Nat → Nat → List Char
  | 0, _ => []
  | width + 1, n => lastDigits width (n / 10) ++ [Nat.digitChar (n % 10)]

theorem length_lastDigits (width n : Nat) : (lastDigits width n).length = width := by
  induction width generalizing n with
  | zero => rfl
  | succ width ih => rw [lastDigits, List.length_append, ih, List.length_singleton]

theorem toDigits_mod_ten (n : Nat) : [Nat.digitChar (n % 10)] = Nat.toDigits 10 (n % 10) :=
  (Nat.toDigits_of_lt_base (Nat.mod_lt n (by decide))).symm

theorem isAsciiDigit_of_mem_lastDigits {width n : Nat} {c : Char}
    (member : c ∈ lastDigits width n) : isAsciiDigit c = true := by
  induction width generalizing n with
  | zero => cases member
  | succ width ih =>
      rw [lastDigits, toDigits_mod_ten] at member
      rcases List.mem_append.mp member with member | member
      · exact ih member
      · exact isAsciiDigit_of_mem_toDigits member

theorem isDigits_lastDigits {width : Nat} (positive : 0 < width) (n : Nat) :
    IsDigits (lastDigits width n) :=
  ⟨List.ne_nil_of_length_pos (by rwa [length_lastDigits]),
    fun _ => isAsciiDigit_of_mem_lastDigits⟩

theorem asciiNumber_lastDigits (width n : Nat) :
    asciiNumber (lastDigits width n) = n % 10 ^ width := by
  induction width generalizing n with
  | zero => rw [Nat.pow_zero, Nat.mod_one]; rfl
  | succ width ih =>
      rw [lastDigits, asciiNumber_append, ih, toDigits_mod_ten, asciiNumber_toDigits,
        ← toDigits_mod_ten, List.length_singleton, Nat.pow_one, Nat.pow_succ', Nat.mod_mul,
        Nat.add_comm, Nat.mul_comm]

end Digits

section Reading

variable {whole fraction exponent : List Char} {power : Int}

theorem IsExponent.stops (isExponent : IsExponent exponent) : Stops isDecimalDigit exponent := by
  cases isExponent with
  | none => exact stops_nil _
  | some _ _ => exact stops_cons.mpr (by decide)

/-- A decimal literal is read as the number that its digits write, with its point and exponent. -/
theorem Decimal.readUnsigned_append (areDigits : IsDigits whole) (isFraction : IsFraction fraction)
    (isExponent : IsExponent exponent) (read : Decimal.readExponent exponent = some power)
    (negative : Bool) :
    Decimal.readUnsigned negative (whole ++ fraction ++ exponent) =
      some ⟨negative, asciiNumber (whole ++ fraction.tail), power - fraction.tail.length⟩ := by
  have filled : whole.isEmpty = false := List.isEmpty_eq_false_iff.mpr areDigits.filled
  cases isFraction with
  | none =>
      have taken := takeWhile_append_stops areDigits.areDecimal isExponent.stops
      have dropped := dropWhile_append_stops areDigits.areDecimal isExponent.stops
      rw [List.append_nil]
      simp only [Decimal.readUnsigned, taken, dropped, filled, Bool.false_and]
      cases isExponent with
      | none => simp [read, digitsNumber_of_ascii areDigits.all]
      | some _ _ => simp [read, digitsNumber_of_ascii areDigits.all]
  | @some digits arePart =>
      have stops : Stops isDecimalDigit (('.' :: digits) ++ exponent) := stops_cons.mpr (by decide)
      have taken := takeWhile_append_stops areDigits.areDecimal stops
      have dropped := dropWhile_append_stops areDigits.areDecimal stops
      have part := takeWhile_append_stops arePart.areDecimal isExponent.stops
      have rest := dropWhile_append_stops arePart.areDecimal isExponent.stops
      have number := digitsNumber_of_ascii (areDigits.append arePart.all).all
      rw [List.append_assoc]
      simp only [Decimal.readUnsigned, taken, dropped, filled, Bool.false_and]
      simp [part, rest, read, number]

end Reading

section Forms

variable {steps : Nat} {first : Char} {others : List Char} {point : Int}

/-- Digits with a point in or around them are an integer part and a fraction. They write the number
that the digits write, with some zeros more. -/
structure IsPointed (digits : List Char) (point : Int) (whole part : List Char) (zeros : Nat) :
    Prop where
  text_eq : placePoint digits point = whole ++ '.' :: part
  isWhole : IsWhole whole
  isDigits : IsDigits part
  number_eq : asciiNumber (whole ++ part) = asciiNumber digits * 10 ^ zeros
  length_eq : (part.length : Int) = digits.length + zeros - point

theorem isPointed_before (areDigits : IsDigits (first :: others)) (before : point ≤ 0) :
    IsPointed (first :: others) point ['0']
      (List.replicate (-point).toNat '0' ++ (first :: others)) 0 where
  text_eq := by
    have none : point.toNat = 0 := by omega
    simp [placePoint, none]
  isWhole := isWhole_singleton (by decide)
  isDigits := by
    refine ⟨by simp, fun d member => ?_⟩
    rcases List.mem_append.mp member with member | member
    · exact isAsciiDigit_of_mem_replicate member
    · exact areDigits.all d member
  number_eq := by
    have leading := asciiNumber_zeros_append ((-point).toNat + 1) (first :: others)
    rw [Nat.pow_zero, Nat.mul_one, ← leading]
    rfl
  length_eq := by
    simp
    omega

variable (notZero : first ≠ '0')
include notZero

theorem isPointed_inside (areDigits : IsDigits (first :: others)) (positive : 0 < point)
    (inside : point < (first :: others).length) :
    IsPointed (first :: others) point ((first :: others).take point.toNat)
      ((first :: others).drop point.toNat) 0 := by
  obtain ⟨places, isPlaces⟩ : ∃ places, point.toNat = places + 1 := ⟨point.toNat - 1, by omega⟩
  have some : (first :: others).drop point.toNat ≠ [] := by
    simp only [ne_eq, List.drop_eq_nil_iff]
    omega
  refine ⟨?_, ⟨⟨by simp [isPlaces], ?_⟩, fun rest split => ?_⟩, ⟨some, ?_⟩, ?_, ?_⟩
  · have noZeros : point.toNat - (first :: others).length = 0 := by omega
    have noLead : (-point).toNat = 0 := by omega
    simp only [placePoint, noZeros, noLead, List.replicate_zero, List.append_nil, List.nil_append,
      List.isEmpty_iff, some, ↓reduceIte]
    simp [isPlaces]
  · exact fun d member => areDigits.all d (List.mem_of_mem_take member)
  · rw [isPlaces, List.take_succ_cons] at split
    exact absurd (List.cons.inj split).1 notZero
  · exact fun d member => areDigits.all d (List.mem_of_mem_drop member)
  · rw [List.take_append_drop, Nat.pow_zero, Nat.mul_one]
  · simp only [List.length_drop]
    omega

theorem isPointed_behind (areDigits : IsDigits (first :: others))
    (behind : ((first :: others).length : Int) ≤ point) :
    IsPointed (first :: others) point
      (first :: others ++ List.replicate (point.toNat - (first :: others).length) '0') ['0']
      (point.toNat - (first :: others).length + 1) where
  text_eq := by
    have positive : 0 < (first :: others).length := Nat.zero_lt_succ _
    have noLead : (-point).toNat = 0 := by omega
    have taken : (first :: others).take point.toNat = first :: others :=
      List.take_of_length_le (by omega)
    have dropped : (first :: others).drop point.toNat = [] := List.drop_of_length_le (by omega)
    simp [placePoint, noLead, taken, dropped]
  isWhole := by
    refine ⟨areDigits.append fun d => isAsciiDigit_of_mem_replicate, fun rest split => ?_⟩
    exact absurd (List.cons.inj split).1 notZero
  isDigits := (isWhole_singleton (by decide)).toIsDigits
  number_eq := by rw [List.append_assoc, ← asciiNumber_append_zeros, List.replicate_succ']
  length_eq := by
    simp only [List.length_singleton]
    push_cast
    omega

theorem exists_isPointed (areDigits : IsDigits (first :: others)) (point : Int) :
    ∃ whole part zeros, IsPointed (first :: others) point whole part zeros := by
  by_cases before : point ≤ 0
  · exact ⟨_, _, _, isPointed_before areDigits before⟩
  · by_cases inside : point < (first :: others).length
    · exact ⟨_, _, _, isPointed_inside notZero areDigits (Int.not_le.mp before) inside⟩
    · exact ⟨_, _, _, isPointed_behind notZero areDigits (Int.not_lt.mp inside)⟩

end Forms

section Texts

variable {steps : Nat} {digits : List Char} {point power : Int}

/-- The exponent of a written number, with its letter and sign. -/
def exponentText (power : Int) : List Char :=
  'e' :: (if power < 0 then '-' else '+') ::
    (if (Nat.toDigits 10 power.natAbs).length < 2 then '0' :: Nat.toDigits 10 power.natAbs
      else Nat.toDigits 10 power.natAbs)

theorem isExponent_exponentText (power : Int) : IsExponent (exponentText power) := by
  refine .some (by split <;> simp) ?_
  split
  · refine ⟨List.cons_ne_nil _ _, List.forall_mem_cons.mpr ⟨by decide, ?_⟩⟩
    exact (isDigits_toDigits _).all
  · exact isDigits_toDigits _

theorem readExponent_exponentText (power : Int) :
    Decimal.readExponent (exponentText power) = some power := by
  have areDigits := isDigits_toDigits power.natAbs
  have number : asciiNumber (if (Nat.toDigits 10 power.natAbs).length < 2
      then '0' :: Nat.toDigits 10 power.natAbs else Nat.toDigits 10 power.natAbs) =
        power.natAbs := by
    split
    · exact asciiNumber_toDigits power.natAbs
    · exact asciiNumber_toDigits power.natAbs
  have isExponent := isExponent_exponentText power
  rw [exponentText] at isExponent ⊢
  generalize (if (Nat.toDigits 10 power.natAbs).length < 2 then '0' :: Nat.toDigits 10 power.natAbs
    else Nat.toDigits 10 power.natAbs) = digits at number isExponent ⊢
  cases isExponent with
  | some _ areDigits =>
      have signed : splitSign ((if power < 0 then '-' else '+') :: digits) =
          (decide (power < 0), digits) := by
        by_cases negative : power < 0 <;> simp [negative, splitSign]
      have known : digits.all isDecimalDigit = true := List.all_eq_true.mpr areDigits.areDecimal
      simp only [Decimal.readExponent, signed, known, digitsNumber_of_ascii areDigits.all, number]
      simp [areDigits.filled, withSign_natAbs]

theorem withExponent_eq (digit : Char) (rest : List Char) (power : Int) :
    withExponent (digit :: rest) power =
      [digit] ++ (if rest = [] then [] else '.' :: rest) ++ exponentText power := by
  cases rest with
  | nil => rfl
  | cons next rest => rfl

/-- The digits behind the first one are a fraction, with a point before them if there are any. -/
theorem isFraction_behind_first {first : Char} {others : List Char}
    (areDigits : IsDigits (first :: others)) :
    IsFraction (if others = [] then [] else '.' :: others) ∧
      (if others = [] then [] else '.' :: others).tail = others := by
  split
  · next none => exact ⟨.none, none.symm⟩
  · next some => exact ⟨.some ⟨some, (List.forall_mem_cons.mp areDigits.all).2⟩, rfl⟩

/-- The text of a positive number is a decimal literal, which is read as this number. -/
theorem exists_isLiteral_magnitudeText (layout : Layout) (magnitude : Magnitude)
    (positive : magnitude.steps ≠ 0) :
    ∃ whole fraction exponent,
      magnitudeText layout magnitude.steps = whole ++ fraction ++ exponent ∧
        IsLiteral whole fraction exponent ∧
        ∀ negative, ∃ decimal,
          Decimal.readUnsigned negative (whole ++ fraction ++ exponent) = some decimal ∧
            decimal.toBinary64 = .finite negative magnitude := by
  have significant := (isNearDecimal_shortest positive).digits_ne_zero positive
  have areDigits := isDigits_toDigits (shortest magnitude.steps).digits
  have number := asciiNumber_toDigits (shortest magnitude.steps).digits
  obtain ⟨first, others, split⟩ := List.exists_cons_of_ne_nil areDigits.filled
  have notZero : first ≠ '0' := by
    rintro rfl
    exact significant (toDigits_eq_zero_cons split).1
  simp only [magnitudeText]
  rw [split] at areDigits number ⊢
  -- The point stands in or around the digits, or behind the first one when there is an exponent.
  split
  · obtain ⟨whole, part, zeros, pointed⟩ := exists_isPointed notZero areDigits
      ((shortest magnitude.steps).exponent + ((first :: others).length : Int) - 1 + 1)
    have length := pointed.length_eq
    refine ⟨whole, '.' :: part, [], by rw [pointed.text_eq, List.append_nil],
      ⟨pointed.isWhole, .some pointed.isDigits, .none, .inl (List.cons_ne_nil _ _)⟩,
      fun negative => ⟨_, Decimal.readUnsigned_append pointed.isWhole.toIsDigits
        (.some pointed.isDigits) .none rfl negative, ?_⟩⟩
    have exponent : 0 - (part.length : Int) = (shortest magnitude.steps).exponent - zeros := by
      omega
    rw [List.tail_cons, pointed.number_eq, number, exponent]
    exact toBinary64_shortest positive negative zeros
  · have isWhole : IsWhole [first] := isWhole_singleton (areDigits.all first List.mem_cons_self)
    obtain ⟨isFraction, tail⟩ := isFraction_behind_first areDigits
    rw [withExponent_eq]
    refine ⟨[first], _, _, rfl, ⟨isWhole, isFraction, isExponent_exponentText _,
      .inr (List.cons_ne_nil _ _)⟩, fun negative => ⟨_,
        Decimal.readUnsigned_append isWhole.toIsDigits isFraction (isExponent_exponentText _)
          (readExponent_exponentText _) negative, ?_⟩⟩
    have exponent : (shortest magnitude.steps).exponent + ((first :: others).length : Int) - 1 -
        others.length = (shortest magnitude.steps).exponent - (0 : Nat) := by
      rw [List.length_cons]
      omega
    rw [tail, List.singleton_append, number, exponent]
    have read := toBinary64_shortest positive negative 0
    rwa [Nat.pow_zero, Nat.mul_one] at read

end Texts

end FilterQuery.Number
