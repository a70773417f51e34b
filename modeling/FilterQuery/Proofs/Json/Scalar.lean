import FilterQuery.Json.Printer
import FilterQuery.Json.Reader
import FilterQuery.Proofs.Number.Shortest
import FilterQuery.Proofs.Outcome
import Mathlib.Tactic.SplitIfs

/-!
# Scalars in JSON

Strings and numbers are read back from their texts, whatever follows them. Main statements:
`readString_stringText`, `readScalar_intText` and `readScalar_text`.
-/

set_option autoImplicit false

namespace FilterQuery.Json

open Text Number

section Escapes

theorem hexValue?_digitChar : ∀ digit < 16, hexValue? (Nat.digitChar digit) = some digit := by
  decide

theorem hexNumber?_hexDigits (width number : Nat) :
    hexNumber? (hexDigits width number) = some (number % 16 ^ width) := by
  induction width generalizing number with
  | zero => simp [hexDigits, hexNumber?, Nat.mod_one]
  | succ width ih =>
      have start := ih (number / 16)
      simp only [hexNumber?] at start
      simp only [hexDigits, hexNumber?, List.foldl_append, start, List.foldl_cons, List.foldl_nil,
        hexValue?_digitChar _ (Nat.mod_lt number (by decide))]
      rw [Nat.pow_succ', Nat.mod_mul]
      exact congrArg some (Nat.add_comm _ _)

theorem readUnit_hexDigits {code : Nat} (narrow : code < 0x10000) (rest : List Char) :
    readUnit (hexDigits 4 code ++ rest) = .ok (code, rest) := by
  have read : hexNumber? (hexDigits 4 code) = some code := by
    rw [hexNumber?_hexDigits]
    exact congrArg some (Nat.mod_eq_of_lt narrow)
  simp only [hexDigits, List.nil_append, List.cons_append] at read ⊢
  simp only [readUnit, read]

/-- A character is no half of a surrogate pair. -/
theorem not_surrogate (c : Char) : ¬(0xD800 ≤ c.toNat ∧ c.toNat < 0xE000) := by
  intro surrogate
  rcases c.valid with below | above
  · have : c.toNat < 0xD800 := below
    omega
  · have : 0xDFFF < c.toNat := above.1
    omega

theorem readUnits_narrow {c : Char} (narrow : c.toNat < 0x10000) (rest : List Char) :
    readUnits (hexDigits 4 c.toNat ++ rest) = .ok (c, rest) := by
  have outside := not_surrogate c
  have alone : ¬(decide (0xD800 ≤ c.toNat) && decide (c.toNat < 0xE000)) = true := by
    simpa using outside
  have noPair : ¬(decide (0xD800 ≤ c.toNat) && decide (c.toNat < 0xDC00)) = true := by
    simp only [Bool.and_eq_true, decide_eq_true_eq]
    omega
  rw [readUnits, readUnit_hexDigits narrow]
  simp only [bind, Except.bind, alone, noPair, Bool.false_eq_true, ↓reduceIte, Char.ofNat_toNat]
  split <;> rfl

theorem readUnits_pair {high low : Nat} (isHigh : 0xD800 ≤ high ∧ high < 0xDC00)
    (isLow : 0xDC00 ≤ low ∧ low < 0xE000) (rest : List Char) :
    readUnits (hexDigits 4 high ++ (unitEscape low ++ rest)) =
      .ok (Char.ofNat (0x10000 + (high - 0xD800) * 0x400 + (low - 0xDC00)), rest) := by
  have below : low < 0x10000 := by omega
  rw [readUnits, readUnit_hexDigits (by omega)]
  simp only [unitEscape, List.cons_append, bind, Except.bind, isHigh, isLow, decide_true,
    Bool.and_self, ↓reduceIte, readUnit_hexDigits below]
  rfl

theorem readUnits_wide {c : Char} (wide : 0x10000 ≤ c.toNat) (rest : List Char) :
    readUnits (hexDigits 4 (0xD800 + (c.toNat - 0x10000) / 0x400) ++
      (unitEscape (0xDC00 + (c.toNat - 0x10000) % 0x400) ++ rest)) = .ok (c, rest) := by
  have below : c.toNat < 0x110000 := by
    rcases c.valid with below | above
    · have : c.toNat < 0xD800 := below
      omega
    · exact above.2
  have whole : 0x10000 + (0xD800 + (c.toNat - 0x10000) / 0x400 - 0xD800) * 0x400 +
      (0xDC00 + (c.toNat - 0x10000) % 0x400 - 0xDC00) = c.toNat := by omega
  rw [readUnits_pair ⟨by omega, by omega⟩ ⟨by omega, by omega⟩, whole, Char.ofNat_toNat]

end Escapes

section Strings

variable {fuel : Nat} {c : Char} {rest : List Char}

theorem readString_simpleEscape {escape : Char} (simple : simpleEscape? escape = some c) :
    readString (fuel + 1) ('\\' :: escape :: rest) =
      (readString fuel rest).map fun read => (c :: read.1, read.2) := by
  have other : escape ≠ 'u' := by
    rintro rfl
    cases simple
  simp only [readString, Char.reduceBEq, Bool.false_eq_true, ↓reduceIte, simple]
  cases readString fuel rest <;> rfl

theorem readString_unitEscape {units : List Char} (read : readUnits units = .ok (c, rest)) :
    readString (fuel + 1) ('\\' :: 'u' :: units) =
      (readString fuel rest).map fun read => (c :: read.1, read.2) := by
  simp only [readString, Char.reduceBEq, Bool.false_eq_true, ↓reduceIte, read, bind, Except.bind]
  cases readString fuel rest <;> rfl

theorem readString_plain (noQuote : c ≠ '"') (noEscape : c ≠ '\\') (printable : 0x20 ≤ c.toNat) :
    readString (fuel + 1) (c :: rest) =
      (readString fuel rest).map fun read => (c :: read.1, read.2) := by
  have visible : ¬c.toNat < 0x20 := Nat.not_lt.mpr printable
  simp only [readString, beq_iff_eq, noQuote, noEscape, visible, ↓reduceIte]
  cases readString fuel rest <;> rfl

theorem eq_ofNat {code : Nat} (same : (c.toNat == code) = true) : c = Char.ofNat code := by
  rw [← eq_of_beq same, Char.ofNat_toNat]

/-- What stands for a character in a string is read as that character. -/
theorem readString_stringChar (fuel : Nat) (c : Char) (rest : List Char) :
    readString (fuel + 1) (stringChar c ++ rest) =
      (readString fuel rest).map fun read => (c :: read.1, read.2) := by
  simp only [stringChar]
  split_ifs with marked plain lineFeed carriage tab backspace formFeed narrow
  · simp only [Bool.or_eq_true, beq_iff_eq] at marked
    rcases marked with rfl | rfl
    · exact readString_simpleEscape rfl
    · exact readString_simpleEscape rfl
  · simp only [Bool.or_eq_true, beq_iff_eq, not_or] at marked
    simp only [Bool.and_eq_true, decide_eq_true_eq] at plain
    exact readString_plain marked.1 marked.2 plain.1
  · rw [eq_of_beq lineFeed]
    exact readString_simpleEscape rfl
  · rw [eq_of_beq carriage]
    exact readString_simpleEscape rfl
  · rw [eq_of_beq tab]
    exact readString_simpleEscape rfl
  · rw [eq_ofNat backspace]
    exact readString_simpleEscape rfl
  · rw [eq_ofNat formFeed]
    exact readString_simpleEscape rfl
  · exact readString_unitEscape (readUnits_narrow narrow rest)
  · rw [List.append_assoc]
    exact readString_unitEscape (readUnits_wide (Nat.not_lt.mp narrow) rest)

theorem readString_flatMap {fuel : Nat} {text : List Char} (enough : text.length < fuel)
    (rest : List Char) :
    readString fuel (text.flatMap stringChar ++ '"' :: rest) = .ok (text, rest) := by
  induction text generalizing fuel with
  | nil =>
      obtain ⟨fuel, rfl⟩ := Nat.exists_eq_succ_of_ne_zero (Nat.ne_of_gt enough)
      rfl
  | cons c text ih =>
      obtain ⟨fuel, rfl⟩ := Nat.exists_eq_succ_of_ne_zero (Nat.ne_of_gt (Nat.zero_lt_of_lt enough))
      rw [List.flatMap_cons, List.append_assoc, readString_stringChar, ih (by simpa using enough)]
      rfl

theorem length_stringChar_pos (c : Char) : 0 < (stringChar c).length := by
  simp only [stringChar]
  split_ifs <;> simp [unitEscape]

theorem length_le_flatMap (text : List Char) :
    text.length ≤ (text.flatMap stringChar).length := by
  induction text with
  | nil => exact Nat.zero_le _
  | cons c text ih =>
      have first := length_stringChar_pos c
      rw [List.flatMap_cons, List.length_append, List.length_cons]
      omega

/-- A string is read back up to its closing quote. -/
theorem readString_stringText (text : String) (rest : List Char) :
    ∃ shown, stringText text ++ rest = '"' :: shown ∧
      readString shown.length.succ shown = .ok (text.toList, rest) := by
  refine ⟨text.toList.flatMap stringChar ++ '"' :: rest, by simp [stringText], ?_⟩
  refine readString_flatMap ?_ rest
  have shorter := length_le_flatMap text.toList
  rw [List.length_append]
  omega

end Strings

section Numbers

/-- A character that a number may go on with. -/
def continuesNumber (c : Char) : Bool :=
  isAsciiDigit c || c == '.' || c == 'e' || c == 'E'

/-- What follows a value in a text does not go on with a number. -/
abbrev Ends (rest : List Char) : Prop :=
  Stops continuesNumber rest

variable {whole fraction exponent digits rest : List Char} {negative : Bool}

theorem Ends.stops {kind : Char → Bool} (ends : Ends rest)
    (narrower : ∀ c, kind c = true → continuesNumber c = true) : Stops kind rest := by
  intro c first
  refine Bool.eq_false_iff.mpr fun more => ?_
  have goesOn := narrower c more
  rw [ends c first] at goesOn
  cases goesOn

theorem digitsOf_append (areDigits : IsDigits digits) (stops : Stops isAsciiDigit rest) :
    digitsOf (digits ++ rest) = digits :=
  takeWhile_append_stops areDigits.all stops

theorem Ends.stops_digit (ends : Ends rest) : Stops isAsciiDigit rest :=
  ends.stops fun c digit => by simp [continuesNumber, digit]

theorem exponentOf_append (isExponent : IsExponent exponent) (ends : Ends rest) :
    exponentOf (exponent ++ rest) = exponent := by
  cases isExponent with
  | none =>
      cases rest with
      | nil => rfl
      | cons c rest =>
          have other := stops_cons.mp ends
          simp only [continuesNumber, Bool.or_eq_false_iff] at other
          simp [exponentOf, other]
  | @some sign digits isSign areDigits =>
      obtain ⟨first, others, rfl⟩ := List.exists_cons_of_ne_nil areDigits.filled
      have isDigit : isAsciiDigit first = true := areDigits.all first List.mem_cons_self
      have noSign : (first == '+' || first == '-') = false := by
        refine Bool.eq_false_iff.mpr fun isSign => ?_
        simp only [Bool.or_eq_true, beq_iff_eq] at isSign
        rcases isSign with rfl | rfl <;> cases isDigit
      have isSign : (sign == '+' || sign == '-') = true := by
        simpa only [Bool.or_eq_true, beq_iff_eq] using isSign
      have taken := digitsOf_append areDigits ends.stops_digit
      simp only [List.cons_append] at taken
      simp [exponentOf, isSign, noSign, taken]

/-- What follows an integer part without a fraction: no digit and no point. -/
theorem stops_exponent {kind : Char → Bool} (isExponent : IsExponent exponent) (ends : Ends rest)
    (other : kind 'e' = false) (narrower : ∀ c, kind c = true → continuesNumber c = true) :
    Stops kind (exponent ++ rest) := by
  cases isExponent with
  | none => exact ends.stops narrower
  | some _ _ => exact stops_cons.mpr other

theorem fractionOf_append (isFraction : IsFraction fraction) (isExponent : IsExponent exponent)
    (ends : Ends rest) : fractionOf (fraction ++ (exponent ++ rest)) = fraction := by
  cases isFraction with
  | none =>
      have noPoint : Stops (· == '.') (exponent ++ rest) :=
        stops_exponent isExponent ends rfl fun c same => by simp [continuesNumber, same]
      rw [List.nil_append]
      generalize exponent ++ rest = text at noPoint
      unfold fractionOf
      split
      · cases stops_cons.mp noPoint
      · rfl
  | some areDigits =>
      have stops : Stops isAsciiDigit (exponent ++ rest) :=
        stops_exponent isExponent ends rfl fun c digit => by simp [continuesNumber, digit]
      simp [fractionOf, digitsOf_append areDigits stops, areDigits.filled]

theorem wholeOf_append (isWhole : IsWhole whole) (stops : Stops isAsciiDigit rest) :
    wholeOf (whole ++ rest) = whole := by
  unfold wholeOf
  split
  · next same =>
      obtain ⟨first, others, rfl⟩ := List.exists_cons_of_ne_nil isWhole.filled
      obtain ⟨rfl, -⟩ := List.cons.inj same
      rw [isWhole.noZero others rfl]
  · exact digitsOf_append isWhole.toIsDigits stops

theorem readUnsigned_append (negative : Bool) (isWhole : IsWhole whole)
    (isFraction : IsFraction fraction) (isExponent : IsExponent exponent) (ends : Ends rest) :
    readUnsigned negative (whole ++ (fraction ++ (exponent ++ rest))) =
      if fraction.isEmpty && exponent.isEmpty then
        if digitLimit < whole.length then .error (.tooManyDigits whole.length)
        else .ok (.int (withSign negative (asciiNumber whole)), rest)
      else
        (Decimal.readUnsigned negative (whole ++ fraction ++ exponent)).elim (.error .malformed)
          fun decimal => .ok (.float decimal.toBinary64, rest) := by
  have stops : Stops isAsciiDigit (fraction ++ (exponent ++ rest)) := by
    cases isFraction with
    | none =>
        rw [List.nil_append]
        exact stops_exponent isExponent ends rfl fun c digit => by simp [continuesNumber, digit]
    | some _ => exact stops_cons.mpr rfl
  have start := wholeOf_append isWhole stops
  have after :
      (fraction ++ (exponent ++ rest)).drop (fraction.length + exponent.length) = rest := by
    rw [← List.append_assoc, ← List.length_append, List.drop_left]
  simp only [readUnsigned, start, List.drop_left, fractionOf_append isFraction isExponent ends,
    exponentOf_append isExponent ends, after, List.isEmpty_eq_false_iff.mpr isWhole.filled,
    Bool.false_eq_true, ↓reduceIte]
  cases Decimal.readUnsigned negative (whole ++ fraction ++ exponent) <;> rfl

theorem readUnsigned_toDigits {n : Nat} (short : (Nat.toDigits 10 n).length ≤ digitLimit)
    (ends : Ends rest) :
    readUnsigned negative (Nat.toDigits 10 n ++ rest) = .ok (.int (withSign negative n), rest) := by
  have read := readUnsigned_append negative (isWhole_toDigits n) .none .none ends
  simp only [List.nil_append] at read
  rw [read, if_pos (by rfl), if_neg (Nat.not_lt.mpr short), asciiNumber_toDigits]

theorem readUnsigned_literal (isLiteral : IsLiteral whole fraction exponent) {decimal : Decimal}
    (read : Decimal.readUnsigned negative (whole ++ fraction ++ exponent) = some decimal)
    (ends : Ends rest) :
    readUnsigned negative (whole ++ fraction ++ exponent ++ rest) =
      .ok (.float decimal.toBinary64, rest) := by
  have notWhole : ¬(fraction.isEmpty && exponent.isEmpty) = true := by
    simp only [Bool.and_eq_true, List.isEmpty_iff]
    intro none
    rcases isLiteral.notWhole with some | some
    · exact some none.1
    · exact some none.2
  rw [List.append_assoc, List.append_assoc, readUnsigned_append negative isLiteral.isWhole
    isLiteral.isFraction isLiteral.isExponent ends, if_neg notWhole, read, Option.elim]

/-- No literal begins like a number. -/
theorem readScalar_of_digit {digit : Char} (isDigit : isAsciiDigit digit = true)
    (text : List Char) :
    readScalar (digit :: text) = readUnsigned false (digit :: text) ∧
      readScalar ('-' :: digit :: text) = readUnsigned true (digit :: text) := by
  have ne (letter : Char) (other : isAsciiDigit letter = false) : (letter == digit) = false := by
    refine beq_eq_false_iff_ne.mpr ?_
    rintro rfl
    rw [other] at isDigit
    cases isDigit
  have unsigned :
      (literals.find? fun literal => literal.1.toList.isPrefixOf (digit :: text)) = none := by
    simp [literals, List.isPrefixOf, ne 'n' rfl, ne 't' rfl, ne 'f' rfl, ne 'N' rfl, ne 'I' rfl,
      ne '-' rfl]
  have signed :
      (literals.find? fun literal => literal.1.toList.isPrefixOf ('-' :: digit :: text)) =
        none := by
    simp [literals, List.isPrefixOf, ne 'I' rfl]
  constructor
  · simp only [readScalar, unsigned]
    split
    · next same =>
        obtain ⟨rfl, -⟩ := List.cons.inj same
        cases isDigit
    · rfl
  · simp only [readScalar, signed]

theorem readScalar_signed (areDigits : IsDigits digits) (negative : Bool) (rest : List Char) :
    readScalar ((signText negative).toList ++ (digits ++ rest)) =
      readUnsigned negative (digits ++ rest) := by
  obtain ⟨digit, others, rfl⟩ := List.exists_cons_of_ne_nil areDigits.filled
  have scalar := readScalar_of_digit (areDigits.all digit List.mem_cons_self) (others ++ rest)
  cases negative with
  | false => exact scalar.1
  | true => exact scalar.2

/-- An integer is read back from its text, unless it has too many digits. -/
theorem readScalar_intText {value : Int} (writable : isWritable value = true) (ends : Ends rest) :
    readScalar ((intText value).toList ++ rest) = .ok (.int value, rest) := by
  have short := length_toDigits_le_iff.mpr writable
  have signed : (intText value).toList =
      (signText (decide (value < 0))).toList ++ Nat.toDigits 10 value.natAbs := by
    rw [toList_intText]
    by_cases negative : value < 0 <;> simp [negative, signText]
  rw [signed, List.append_assoc, readScalar_signed (isDigits_toDigits _),
    readUnsigned_toDigits short ends, withSign_natAbs]

theorem readScalar_literal (isLiteral : IsLiteral whole fraction exponent) {decimal : Decimal}
    (read : Decimal.readUnsigned negative (whole ++ fraction ++ exponent) = some decimal)
    (ends : Ends rest) :
    readScalar ((signText negative).toList ++ (whole ++ fraction ++ exponent) ++ rest) =
      .ok (.float decimal.toBinary64, rest) := by
  have numeral := readUnsigned_literal isLiteral read ends
  simp only [List.append_assoc] at numeral ⊢
  rw [readScalar_signed isLiteral.isWhole.toIsDigits, numeral]

/-- A floating-point number is read back from its text. -/
theorem readScalar_text (value : Binary64) (ends : Ends rest) :
    readScalar ((value.text numberLayout).toList ++ rest) = .ok (.float value, rest) := by
  match value with
  | .nan => rfl
  | .infinite false => rfl
  | .infinite true => rfl
  | .finite negative ⟨steps, fits, bounded⟩ =>
      simp only [Binary64.text, String.toList_append]
      split
      · next zero =>
          subst zero
          have isZero : IsWhole ['0'] := isWhole_singleton rfl
          have isLiteral : IsLiteral ['0'] ['.', '0'] [] :=
            ⟨isZero, .some isZero.toIsDigits, .none, .inl (by simp)⟩
          have read := Decimal.readUnsigned_append isZero.toIsDigits isLiteral.isFraction .none rfl
            negative
          exact readScalar_literal isLiteral read ends
      · next positive =>
          obtain ⟨whole, fraction, exponent, same, isLiteral, known⟩ :=
            exists_isLiteral_magnitudeText numberLayout ⟨steps, fits, bounded⟩ positive
          obtain ⟨decimal, read, rounded⟩ := known negative
          rw [String.toList_ofList, same, readScalar_literal isLiteral read ends, rounded]

end Numbers

end FilterQuery.Json
