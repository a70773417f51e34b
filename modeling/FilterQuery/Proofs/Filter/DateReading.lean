import FilterQuery.Filter.Literal
import FilterQuery.Proofs.Number.Integer
import FilterQuery.Proofs.Text.Run
import FilterQuery.Proofs.Time.Rfc3339

/-!
# Times that are no numbers

A written time is not also a number, so a value is read as one or as the other. Main statement:
`readDate_eq_outsideCalendar_iff` says which values name an instant that is outside the calendar.
-/

set_option autoImplicit false

namespace FilterQuery.Filter

open Number Text

/-- A written time that is in no year from 1 to 9999 when it is moved to UTC. -/
def IsOutside (value : List Char) : Prop :=
  ∃ parts, Rfc3339.read? value = some parts ∧
    ¬InCalendar (parts.fields.wall - offsetMicros parts.offset)

theorem takeWhile_decimalDigits {digits : List Char} {c : Char} (rest : List Char)
    (areDigits : ∀ d ∈ digits, isAsciiDigit d = true) (other : isDecimalDigit c = false) :
    (digits ++ c :: rest).takeWhile isDecimalDigit = digits ∧
      (digits ++ c :: rest).dropWhile isDecimalDigit = c :: rest := by
  have inside : ∀ d ∈ digits, isDecimalDigit d = true :=
    fun d member => isDecimalDigit_of_isAsciiDigit (areDigits d member)
  have stops : Stops isDecimalDigit (c :: rest) := stops_cons.mpr other
  exact ⟨takeWhile_append_stops inside stops, dropWhile_append_stops inside stops⟩

/-- Digits that a hyphen follows are no number. -/
theorem decimal_read?_hyphen {digits rest : List Char}
    (areDigits : ∀ d ∈ digits, isAsciiDigit d = true) (filled : digits ≠ []) :
    Decimal.read? (digits ++ '-' :: rest) = none := by
  obtain ⟨taken, dropped⟩ := takeWhile_decimalDigits rest areDigits (c := '-') (by decide)
  simp only [Decimal.read?, splitSign_digits_append areDigits filled, Decimal.readUnsigned, taken,
    dropped]
  simp [filled, Decimal.readExponent, splitSign]

theorem withoutFinalLineFeed_append_cons {c : Char} (start rest : List Char) (other : c ≠ '\n') :
    ∃ shorter, withoutFinalLineFeed (start ++ c :: rest) = start ++ c :: shorter := by
  simp only [withoutFinalLineFeed]
  split
  · next last =>
      cases rest with
      | nil => simp [other] at last
      | cons d rest =>
          refine ⟨(d :: rest).dropLast, ?_⟩
          rw [List.dropLast_append_of_ne_nil (by simp), List.dropLast_cons_cons]
  · exact ⟨rest, rfl⟩

theorem readNumeral_hyphen {digits rest : List Char}
    (areDigits : ∀ d ∈ digits, isAsciiDigit d = true) (filled : digits ≠ []) :
    readNumeral (digits ++ '-' :: rest) = none := by
  obtain ⟨shorter, same⟩ :=
    withoutFinalLineFeed_append_cons digits rest (c := '-') (by decide)
  simp only [readNumeral, same, decimal_read?_hyphen areDigits filled]
  rfl

theorem readNumeral_of_read? {text : List Char} {parts : Rfc3339.Parts}
    (read : Rfc3339.read? text = some parts) : readNumeral text = none := by
  obtain ⟨digits, rest, rfl, filled, areDigits⟩ := Rfc3339.exists_hyphen_of_read? read
  exact readNumeral_hyphen areDigits filled

theorem readDate_eq_outsideCalendar_iff {value : List Char} :
    readDate value = .outsideCalendar ↔ IsOutside value := by
  constructor
  · intro outside
    simp only [readDate] at outside
    split at outside
    · cases outside
    · split at outside
      · cases outside
      · next parts read =>
          split at outside
          · cases outside
          · next absent => exact ⟨parts, read, absent⟩
  · intro outside
    obtain ⟨parts, read, absent⟩ := outside
    simp only [readDate, readNumeral_of_read? read, read, absent, ↓reduceIte]

theorem IsOutside.ne_nil {value : List Char} (outside : IsOutside value) : value ≠ [] := by
  intro empty
  subst empty
  obtain ⟨parts, read, _⟩ := outside
  cases read

end FilterQuery.Filter
