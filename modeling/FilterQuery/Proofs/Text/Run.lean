import FilterQuery.Text.DecimalDigit

/-!
# Runs of characters

What is taken from the start of a text as long as its characters are of one kind, where two splits
of a text meet, and the ASCII digits among the digits of all scripts.
-/

set_option autoImplicit false

namespace FilterQuery

variable {α : Type}

theorem append_eq_append_cons {first second before after : List α} {item : α}
    (split : first ++ second = before ++ item :: after) :
    (∃ rest, before = first ++ rest ∧ second = rest ++ item :: after) ∨
      ∃ rest, first = before ++ item :: rest ∧ after = rest ++ second := by
  obtain ⟨rest, rfl, same⟩ | ⟨rest, rfl, same⟩ := List.append_eq_append_iff.mp split
  · exact .inl ⟨rest, rfl, same⟩
  · obtain ⟨rfl, rfl⟩ | ⟨rest, rfl, rfl⟩ := List.cons_eq_append_iff.mp same
    · exact .inl ⟨[], by simp, rfl⟩
    · exact .inr ⟨rest, rfl, rfl⟩

end FilterQuery

namespace FilterQuery.Text

/-- A text does not go on with a character of a kind. -/
def Stops (kind : Char → Bool) (rest : List Char) : Prop :=
  ∀ c, rest.head? = some c → kind c = false

theorem stops_nil (kind : Char → Bool) : Stops kind [] :=
  fun _ found => nomatch found

theorem stops_cons {kind : Char → Bool} {c : Char} {rest : List Char} :
    Stops kind (c :: rest) ↔ kind c = false := by
  simp [Stops]

section Run

variable {kind : Char → Bool} {run rest : List Char}

theorem takeWhile_append_stops (inside : ∀ c ∈ run, kind c = true) (stops : Stops kind rest) :
    (run ++ rest).takeWhile kind = run := by
  rw [List.takeWhile_append_of_pos inside]
  cases rest with
  | nil => simp
  | cons c rest => simp [stops_cons.mp stops]

theorem dropWhile_append_stops (inside : ∀ c ∈ run, kind c = true) (stops : Stops kind rest) :
    (run ++ rest).dropWhile kind = rest := by
  rw [List.dropWhile_append_of_pos inside]
  cases rest with
  | nil => rfl
  | cons c rest => simp [stops_cons.mp stops]

/-- The text before the first of two equal separators is the same. -/
theorem before_eq {c : Char} {before other after rest : List Char} (first : c ∉ before)
    (otherFirst : c ∉ other) (same : before ++ c :: after = other ++ c :: rest) :
    before = other := by
  have cut {before after : List Char} (first : c ∉ before) :
      (before ++ c :: after).takeWhile (· != c) = before := by
    have inside : ∀ d ∈ before, (d != c) = true :=
      fun d member => bne_iff_ne.mpr fun same => first (same ▸ member)
    exact takeWhile_append_stops inside (stops_cons.mpr (by simp))
  rw [← cut first, same, cut otherFirst]

end Run

theorem isAsciiDigit_iff {c : Char} : isAsciiDigit c = true ↔ 48 ≤ c.toNat ∧ c.toNat ≤ 57 := by
  simp only [isAsciiDigit, Bool.and_eq_true, decide_eq_true_eq, Char.le_def, UInt32.le_iff_toNat_le]
  exact Iff.rfl

theorem digitValue?_of_isAsciiDigit {c : Char} (digit : isAsciiDigit c = true) :
    digitValue? c = some (c.toNat - 48) := by
  obtain ⟨lower, upper⟩ := isAsciiDigit_iff.mp digit
  have below : c.toNat < 48 + 10 := by omega
  simp [digitValue?, digitZeros, lower, below]

theorem isDecimalDigit_of_isAsciiDigit {c : Char} (digit : isAsciiDigit c = true) :
    isDecimalDigit c = true := by
  simp [isDecimalDigit, digitValue?_of_isAsciiDigit digit]

/-- ASCII digits write the same number when digits of other scripts are looked for as well. -/
theorem digitsNumber_of_ascii {digits : List Char}
    (areDigits : ∀ d ∈ digits, isAsciiDigit d = true) :
    digitsNumber digits = asciiNumber digits := by
  suffices same : ∀ start, digits.foldl (fun number digit => 10 * number +
      (digitValue? digit).getD 0) start =
      digits.foldl (fun number digit => 10 * number + (digit.toNat - 48)) start from same 0
  induction digits with
  | nil => exact fun _ => rfl
  | cons digit rest ih =>
      obtain ⟨isDigit, areDigits⟩ := List.forall_mem_cons.mp areDigits
      intro start
      simp only [List.foldl_cons, digitValue?_of_isAsciiDigit isDigit, Option.getD_some]
      exact ih areDigits _

end FilterQuery.Text
