import FilterQuery.Timeframe
import FilterQuery.Proofs.Outcome

/-!
# Forms of timeframes

A timeframe that is not refused is a word, or ASCII digits and the letter of a unit. Whether it has
a duration does not depend on the reference time, and some are neither accepted nor refused: a
number with a unit that has more digits than integers are read from. Main statements:
`spells_of_validate` and `spells_of_duration` say what is not refused, and
`window_eq_tooManyDigits_iff` what is not read.
-/

set_option autoImplicit false

namespace FilterQuery.Timeframe

open Text Number

/-- The letter of a unit and the hours that one of them has. -/
inductive IsUnit : Char → Nat → Prop where
  | hour : IsUnit 'h' 1
  | day : IsUnit 'd' 24
  | week : IsUnit 'w' 168

/-- What a timeframe asks for: what a word stands for, or a number of units of some hours each. -/
inductive Form where
  | word (keyword : Keyword)
  | amount (number hours : Nat)

/-- A text in lower case and without surrounding blanks spells a form. -/
inductive Spells : List Char → Form → Prop where
  | word (keyword : Keyword) : Spells keyword.text.toList (.word keyword)
  | amount {digits : List Char} {letter : Char} {hours : Nat} :
      digits ≠ [] → (∀ c ∈ digits, isAsciiDigit c = true) → IsUnit letter hours →
      Spells (digits ++ [letter]) (.amount (asciiNumber digits) hours)

def hourMicros : Int := 3600 * secondMicros

namespace Form

/-- The duration of a form at a reference time, in microseconds. -/
def duration (now : Moment) : Form → Int
  | .word keyword => keyword.duration now
  | .amount number hours => number * (hours * hourMicros)

end Form

/-- A number of hours, days or weeks with so many digits that it is not read. -/
def IsOverlong (timeframe : String) (digits : Nat) : Prop :=
  ∃ number unit, normalized timeframe = number ++ [unit] ∧ (unitMicros? unit).isSome = true ∧
    (∀ c ∈ number, isAsciiDigit c = true) ∧ number.length = digits ∧ digitLimit < digits

variable {timeframe : String} {now : Moment} {digits : Nat}

theorem unitMicros?_eq_some_iff {letter : Char} {micros : Int} :
    unitMicros? letter = some micros ↔
      ∃ hours, IsUnit letter hours ∧ micros = hours * hourMicros := by
  constructor
  · intro known
    unfold unitMicros? at known
    split at known
    · exact ⟨1, .hour, (Option.some.inj known).symm⟩
    · exact ⟨24, .day, (Option.some.inj known).symm⟩
    · exact ⟨168, .week, (Option.some.inj known).symm⟩
    · cases known
  · intro known
    obtain ⟨hours, isUnit, rfl⟩ := known
    cases isUnit <;> rfl

theorem Keyword.ofChars?_eq_some_iff {value : List Char} {keyword : Keyword} :
    Keyword.ofChars? value = some keyword ↔ value = keyword.text.toList := by
  constructor
  · intro found
    have same := List.find?_some found
    exact (eq_of_beq same).symm
  · rintro rfl
    cases keyword <;> rfl

theorem isNumber_iff {number : List Char} :
    isNumber number = true ↔ number ≠ [] ∧ ∀ c ∈ number, isAsciiDigit c = true := by
  simp [isNumber]

/-- No word for a timeframe begins with a digit. -/
theorem Keyword.text_ne_digit (keyword : Keyword) :
    ∃ letter rest, keyword.text.toList = letter :: rest ∧ isAsciiDigit letter = false := by
  cases keyword <;> exact ⟨_, _, rfl, by decide⟩

/-- A text that begins with a digit is no word for a timeframe and begins with none. -/
theorem keywords_of_digit {digit : Char} (isDigit : isAsciiDigit digit = true) (rest : List Char) :
    Keyword.ofChars? (digit :: rest) = none ∧
      (Keyword.all.find? fun keyword => keyword.text.toList.isPrefixOf (digit :: rest)) = none := by
  have differs (keyword : Keyword) : keyword.text.toList.isPrefixOf (digit :: rest) = false := by
    obtain ⟨letter, others, spelling, notDigit⟩ := keyword.text_ne_digit
    have ne : letter ≠ digit := fun same => by simp [same, isDigit] at notDigit
    simp [spelling, List.isPrefixOf, ne]
  constructor
  · refine List.find?_eq_none.mpr fun keyword _ same => ?_
    have whole := differs keyword
    rw [eq_of_beq same, List.isPrefixOf_iff_prefix.mpr (List.prefix_refl _)] at whole
    cases whole
  · exact List.find?_eq_none.mpr fun keyword _ => by simp [differs keyword]

section Word

variable {keyword : Keyword} (same : normalized timeframe = keyword.text.toList)
include same

theorem validate_word : validate timeframe = .ok () := by
  have found := Keyword.ofChars?_eq_some_iff.mpr same
  have filled : (normalized timeframe).isEmpty = false := by
    rw [same]
    cases keyword <;> rfl
  simp only [validate, filled, found, Option.isSome_some, Bool.false_eq_true, ↓reduceIte]

theorem duration_word (now : Moment) : duration timeframe now = .ok (keyword.duration now) := by
  have found := Keyword.ofChars?_eq_some_iff.mpr same
  have filled : (normalized timeframe).isEmpty = false := by
    rw [same]
    cases keyword <;> rfl
  simp only [duration, filled, found, Bool.false_eq_true, ↓reduceIte]

end Word

section Amount

variable {number : List Char} {letter : Char} {hours : Nat}

/-- What the parts of a number with a letter are, and that it is not taken for a word. -/
theorem amount_parts (letter : Char) (filled : number ≠ [])
    (areDigits : ∀ c ∈ number, isAsciiDigit c = true) :
    (number ++ [letter]).isEmpty = false ∧ Keyword.ofChars? (number ++ [letter]) = none ∧
      (Keyword.all.find? fun keyword => keyword.text.toList.isPrefixOf (number ++ [letter])) =
        none ∧
      (number ++ [letter]).getLast? = some letter ∧ (number ++ [letter]).dropLast = number := by
  obtain ⟨first, rest, rfl⟩ := List.exists_cons_of_ne_nil filled
  obtain ⟨noWord, noBeginning⟩ :=
    keywords_of_digit (areDigits first List.mem_cons_self) (rest ++ [letter])
  exact ⟨rfl, noWord, noBeginning, List.getLast?_concat .., List.dropLast_concat ..⟩

variable (split : normalized timeframe = number ++ [letter]) (filled : number ≠ [])
  (areDigits : ∀ c ∈ number, isAsciiDigit c = true) (isUnit : IsUnit letter hours)
include split filled areDigits isUnit

theorem validate_amount :
    validate timeframe = (do
      if (← readNumber number) = 0 then
        reject (.notPositive (String.ofList (normalized timeframe)))) := by
  obtain ⟨nonempty, noWord, noBeginning, last, start⟩ := amount_parts letter filled areDigits
  obtain ⟨first, rest, rfl⟩ := List.exists_cons_of_ne_nil filled
  have known := unitMicros?_eq_some_iff.mpr ⟨hours, isUnit, rfl⟩
  simp only [validate, split, nonempty, noWord, noBeginning, last, start, known,
    isNumber_iff.mpr ⟨filled, areDigits⟩, Option.isSome_none, Option.isNone_some, Bool.not_true,
    Bool.false_eq_true, ↓reduceIte]

theorem duration_amount (now : Moment) :
    duration timeframe now = (do
      let count ← readNumber number
      if durationLimit ≤ (Form.amount count hours).duration now then
        reject (.tooLarge (String.ofList (normalized timeframe)))
      else return (Form.amount count hours).duration now) := by
  obtain ⟨nonempty, noWord, -, last, start⟩ := amount_parts letter filled areDigits
  obtain ⟨first, rest, rfl⟩ := List.exists_cons_of_ne_nil filled
  have known := unitMicros?_eq_some_iff.mpr ⟨hours, isUnit, rfl⟩
  simp only [duration, split, nonempty, noWord, last, start, known,
    isNumber_iff.mpr ⟨filled, areDigits⟩, Bool.not_true, Bool.false_eq_true, ↓reduceIte]
  rfl

end Amount

section Inversion

variable {number : List Char} {letter : Char}

theorem spells_of_parts (last : (normalized timeframe).getLast? = some letter)
    (start : (normalized timeframe).dropLast = number) (areDigits : isNumber number = true)
    (isUnit : (unitMicros? letter).isSome = true) :
    ∃ form, Spells (normalized timeframe) form := by
  obtain ⟨others, split⟩ := List.getLast?_eq_some_iff.mp last
  obtain rfl : others = number := by rw [← start, split, List.dropLast_concat]
  obtain ⟨micros, known⟩ := Option.isSome_iff_exists.mp isUnit
  obtain ⟨hours, isUnit, -⟩ := unitMicros?_eq_some_iff.mp known
  obtain ⟨filled, areDigits⟩ := isNumber_iff.mp areDigits
  rw [split]
  exact ⟨_, .amount filled areDigits isUnit⟩

/-- What a check does not refuse is a form. -/
theorem spells_of_validate (kept : ∀ error, validate timeframe ≠ .error (.invalid error)) :
    ∃ form, Spells (normalized timeframe) form := by
  simp only [validate, reject] at kept
  split at kept
  · exact absurd rfl (kept _)
  split at kept
  · next known =>
      obtain ⟨keyword, found⟩ := Option.isSome_iff_exists.mp known
      rw [Keyword.ofChars?_eq_some_iff.mp found]
      exact ⟨_, .word keyword⟩
  split at kept
  · exact absurd rfl (kept _)
  split at kept
  · next letter first rest last start =>
      split at kept
      · exact absurd rfl (kept _)
      · next isUnit =>
          split at kept
          · exact absurd rfl (kept _)
          · next areDigits =>
              exact spells_of_parts last start (by simpa using areDigits)
                (by simpa [Option.isSome_iff_ne_none] using isUnit)
  · exact absurd rfl (kept _)

/-- What has a duration, but for the number of its digits or their value, is a form. -/
theorem spells_of_duration (kept : ∀ error, duration timeframe now = .error (.invalid error) →
      error = .tooLarge (String.ofList (normalized timeframe))) :
    ∃ form, Spells (normalized timeframe) form := by
  simp only [duration, reject] at kept
  split at kept
  · cases kept _ rfl
  split at kept
  · next keyword found =>
      rw [Keyword.ofChars?_eq_some_iff.mp found]
      exact ⟨_, .word keyword⟩
  split at kept
  · next letter first rest last start =>
      split at kept
      · cases kept _ rfl
      · next areDigits =>
          split at kept
          · cases kept _ rfl
          · next micros isUnit =>
              exact spells_of_parts last start (by simpa using areDigits) (by simp [isUnit])
  · cases kept _ rfl

end Inversion

/-- Only the word for the day that has begun looks at the reference time. -/
theorem exists_duration {other : Moment} {micros : Int}
    (known : duration timeframe other = .ok micros) (now : Moment) :
    ∃ micros, duration timeframe now = .ok micros := by
  simp only [duration] at known ⊢
  split at known
  · cases known
  · next filled =>
      rw [if_neg filled]
      cases word : Keyword.ofChars? (normalized timeframe) with
      | some keyword => exact ⟨keyword.duration now, rfl⟩
      | none =>
          rw [word] at known
          exact ⟨micros, known⟩

theorem Keyword.duration_bounds (keyword : Keyword) (now : Moment) :
    0 ≤ keyword.duration now ∧ keyword.duration now < durationLimit := by
  have day : 0 < dayMicros := by decide
  have start : 0 ≤ now.wall % dayMicros := Int.emod_nonneg _ (Int.ne_of_gt day)
  have before : now.wall % dayMicros < dayMicros := Int.emod_lt_of_pos _ day
  cases keyword <;> simp only [Keyword.duration, Moment.sinceMidnight, durationLimit] <;> omega

theorem Form.duration_nonneg (form : Form) (now : Moment) : 0 ≤ form.duration now := by
  cases form with
  | word keyword => exact (keyword.duration_bounds now).1
  | amount number hours =>
      have hour : 0 ≤ hourMicros := by decide
      exact Int.mul_nonneg (Int.natCast_nonneg _) (Int.mul_nonneg (Int.natCast_nonneg _) hour)

theorem readNumber_eq_tooManyDigits_iff {number : List Char} :
    readNumber number = .error (.tooManyDigits digits) ↔
      number.length = digits ∧ digitLimit < digits := by
  simp only [readNumber]
  split
  · next tooMany =>
      simp only [Except.error.injEq, TimeframeFault.tooManyDigits.injEq]
      exact ⟨fun same => ⟨same, same ▸ tooMany⟩, fun both => both.1⟩
  · next fits =>
      simp only [reduceCtorEq, false_iff]
      intro both
      obtain ⟨rfl, tooMany⟩ := both
      exact fits tooMany

theorem readNumber_eq_ok_iff {number : List Char} {count : Nat} :
    readNumber number = .ok count ↔ number.length ≤ digitLimit ∧ asciiNumber number = count := by
  simp only [readNumber]
  split
  · next tooMany => simp [Nat.not_le.mpr tooMany]
  · next fits => simp [Nat.not_lt.mp fits]

/-- A duration is that of a form. -/
theorem exists_form_of_duration {micros : Int} (known : duration timeframe now = .ok micros) :
    ∃ form, Spells (normalized timeframe) form ∧ form.duration now = micros ∧
      micros < durationLimit := by
  obtain ⟨form, spells⟩ := @spells_of_duration timeframe now (by simp [known])
  refine ⟨form, spells, ?_⟩
  generalize isValue : normalized timeframe = value at spells
  cases spells with
  | word keyword =>
      rw [duration_word isValue] at known
      cases known
      exact ⟨rfl, (keyword.duration_bounds now).2⟩
  | amount filled areDigits isUnit =>
      rw [duration_amount isValue filled areDigits isUnit] at known
      obtain ⟨count, isRead, known⟩ := bind_eq_ok_iff.mp known
      obtain ⟨_, rfl⟩ := readNumber_eq_ok_iff.mp isRead
      split at known
      · cases known
      · next fits =>
          cases known
          exact ⟨rfl, Int.not_le.mp fits⟩

/-- A duration goes back in time, and not further than a thousand million days. -/
theorem duration_bounds {micros : Int} (known : duration timeframe now = .ok micros) :
    0 ≤ micros ∧ micros < durationLimit := by
  obtain ⟨form, _, rfl, within⟩ := exists_form_of_duration known
  exact ⟨form.duration_nonneg now, within⟩

theorem isOverlong_of_readNumber {number : List Char} {letter : Char} {hours : Nat}
    (split : normalized timeframe = number ++ [letter])
    (areDigits : ∀ c ∈ number, isAsciiDigit c = true) (isUnit : IsUnit letter hours)
    (stopped : readNumber number = .error (.tooManyDigits digits)) :
    IsOverlong timeframe digits := by
  obtain ⟨width, tooMany⟩ := readNumber_eq_tooManyDigits_iff.mp stopped
  have known := unitMicros?_eq_some_iff.mpr ⟨hours, isUnit, rfl⟩
  exact ⟨number, letter, split, by simp [known], areDigits, width, tooMany⟩

theorem isOverlong_of_validate
    (stopped : validate timeframe = .error (.tooManyDigits digits)) :
    IsOverlong timeframe digits := by
  obtain ⟨form, spells⟩ := @spells_of_validate timeframe (by simp [stopped])
  generalize isValue : normalized timeframe = value at spells
  cases spells with
  | word keyword => rw [validate_word isValue] at stopped; cases stopped
  | amount filled areDigits isUnit =>
      rw [validate_amount isValue filled areDigits isUnit] at stopped
      rcases bind_eq_error_iff.mp stopped with stopped | ⟨_, _, continued⟩
      · exact isOverlong_of_readNumber isValue areDigits isUnit stopped
      · split at continued <;> cases continued

theorem isOverlong_of_duration
    (stopped : duration timeframe now = .error (.tooManyDigits digits)) :
    IsOverlong timeframe digits := by
  obtain ⟨form, spells⟩ :=
    @spells_of_duration timeframe now (by simp [stopped])
  generalize isValue : normalized timeframe = value at spells
  cases spells with
  | word keyword => rw [duration_word isValue] at stopped; cases stopped
  | amount filled areDigits isUnit =>
      rw [duration_amount isValue filled areDigits isUnit] at stopped
      rcases bind_eq_error_iff.mp stopped with stopped | ⟨_, _, continued⟩
      · exact isOverlong_of_readNumber isValue areDigits isUnit stopped
      · split at continued <;> cases continued

theorem IsOverlong.validate (overlong : IsOverlong timeframe digits) :
    validate timeframe = .error (.tooManyDigits digits) := by
  obtain ⟨number, unit, split, isUnit, areDigits, width, tooMany⟩ := overlong
  have filled : number ≠ [] := fun empty => by
    rw [empty, List.length_nil] at width
    omega
  obtain ⟨micros, known⟩ := Option.isSome_iff_exists.mp isUnit
  obtain ⟨hours, isUnit, -⟩ := unitMicros?_eq_some_iff.mp known
  rw [validate_amount split filled areDigits isUnit]
  exact bind_eq_error_iff.mpr (.inl (readNumber_eq_tooManyDigits_iff.mpr ⟨width, tooMany⟩))

/-- Checking a timeframe and finding its duration stops at too many digits in the check. -/
theorem checked_eq_tooManyDigits_iff (now : Moment) :
    (validate timeframe >>= fun _ => duration timeframe now) = .error (.tooManyDigits digits) ↔
      IsOverlong timeframe digits := by
  constructor
  · intro stopped
    rcases bind_eq_error_iff.mp stopped with stopped | ⟨_, _, stopped⟩
    · exact isOverlong_of_validate stopped
    · exact isOverlong_of_duration stopped
  · intro overlong
    exact bind_eq_error_iff.mpr (.inl overlong.validate)

theorem window_eq_tooManyDigits_iff (now : Moment) :
    window timeframe now = .error (.tooManyDigits digits) ↔ IsOverlong timeframe digits := by
  rw [← checked_eq_tooManyDigits_iff now, window]
  simp only [bind_eq_error_iff]
  constructor
  · intro stopped
    rcases stopped with stopped | ⟨_, valid, stopped | ⟨_, _, continued⟩⟩
    · exact .inl stopped
    · exact .inr ⟨_, valid, stopped⟩
    · cases continued
  · intro stopped
    rcases stopped with stopped | ⟨_, valid, stopped⟩
    · exact .inl stopped
    · exact .inr ⟨_, valid, .inl stopped⟩

end FilterQuery.Timeframe
