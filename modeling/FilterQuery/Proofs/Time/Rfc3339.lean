import FilterQuery.Time.Rfc3339

/-!
# Pieces of written times

What the readers of single pieces take from the start of a text, and how a written time begins.
-/

set_option autoImplicit false

namespace FilterQuery.Rfc3339

open Text

theorem readNumber_eq_some_iff {width number : Nat} {text rest : List Char} :
    readNumber width text = some (number, rest) ↔
      ∃ digits, text = digits ++ rest ∧ digits.length = width ∧
        (∀ d ∈ digits, isAsciiDigit d = true) ∧ number = asciiNumber digits := by
  simp only [readNumber]
  constructor
  · intro read
    split at read
    · next known =>
        simp only [Bool.and_eq_true, beq_iff_eq, List.all_eq_true] at known
        cases read
        exact ⟨text.take width, (List.take_append_drop width text).symm, known.1, known.2, rfl⟩
    · cases read
  · intro known
    obtain ⟨digits, rfl, rfl, areDigits, rfl⟩ := known
    have known : digits.all isAsciiDigit = true := List.all_eq_true.mpr areDigits
    simp [known]

theorem skip_eq_some_iff {c : Char} {text rest : List Char} :
    skip c text = some rest ↔ text = c :: rest := by
  cases text with
  | nil => simp [skip]
  | cons head tail =>
      simp only [skip]
      split
      · next same => simp [eq_of_beq same]
      · next other => simpa using fun same => absurd (beq_iff_eq.mpr same) other

/-- A written time begins with digits and a hyphen. -/
theorem exists_hyphen_of_read? {text : List Char} {parts : Parts} (read : read? text = some parts) :
    ∃ digits rest, text = digits ++ '-' :: rest ∧ digits ≠ [] ∧
      ∀ d ∈ digits, isAsciiDigit d = true := by
  obtain ⟨⟨year, afterYear⟩, yearRead, read⟩ := Option.bind_eq_some_iff.mp read
  obtain ⟨afterHyphen, hyphen, _⟩ := Option.bind_eq_some_iff.mp read
  obtain ⟨digits, rfl, width, areDigits, _⟩ := readNumber_eq_some_iff.mp yearRead
  obtain rfl := skip_eq_some_iff.mp hyphen
  refine ⟨digits, afterHyphen, rfl, ?_, areDigits⟩
  intro empty
  subst empty
  cases width

end FilterQuery.Rfc3339
