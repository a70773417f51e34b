import FilterQuery.Proofs.Text.Blank
import FilterQuery.Proofs.Text.LowerCase
import FilterQuery.Proofs.Timeframe

/-!
# The language of timeframes

A timeframe is checked and its duration is found by two readers, which look at its parts in
different orders. What either of them does follows from the form that the timeframe spells, if it
spells one. Main statements: `validate_of_spells`, `duration_of_spells` and `readers_agree`.
-/

set_option autoImplicit false

namespace FilterQuery.Timeframe

open Text Number

/-- A timeframe has no more ASCII digits than integers are read from. -/
def HasFewDigits (timeframe : String) : Prop :=
  timeframe.toList.countP isAsciiDigit ≤ digitLimit

instance (timeframe : String) : Decidable (HasFewDigits timeframe) :=
  inferInstanceAs (Decidable (_ ≤ _))

namespace Form

/-- A form is a word or a number that is not zero. -/
def IsPositive : Form → Prop
  | .word _ => True
  | .amount number _ => 0 < number

instance : DecidablePred IsPositive
  | .word _ => inferInstanceAs (Decidable True)
  | .amount number _ => inferInstanceAs (Decidable (0 < number))

/-- As many weeks, sevenfold days and hours are one duration. -/
theorem duration_of_weeks (number : Nat) (now : Moment) :
    (Form.amount (7 * number) 24).duration now = (Form.amount number 168).duration now ∧
      (Form.amount (168 * number) 1).duration now = (Form.amount number 168).duration now := by
  simp only [duration, Int.natCast_mul, Int.mul_comm _ (number : Int), Int.mul_assoc]
  exact ⟨rfl, rfl⟩

end Form

variable {timeframe : String} {form : Form}

theorem length_le_of_few {number : List Char} {letter : Char} (few : HasFewDigits timeframe)
    (split : normalized timeframe = number ++ [letter])
    (areDigits : ∀ c ∈ number, isAsciiDigit c = true) : number.length ≤ digitLimit :=
  calc
    number.length = number.countP isAsciiDigit := (List.countP_eq_length.mpr areDigits).symm
    _ ≤ (normalized timeframe).countP isAsciiDigit := by
      rw [split, List.countP_append]
      exact Nat.le_add_right ..
    _ = (strip timeframe.toList).countP isAsciiDigit := countP_lower _
    _ ≤ timeframe.toList.countP isAsciiDigit := (stripBy_sublist ..).countP_le
    _ ≤ digitLimit := few

/-- The check of a timeframe that spells a form. -/
theorem validate_of_spells (few : HasFewDigits timeframe)
    (spells : Spells (normalized timeframe) form) :
    validate timeframe =
      if form.IsPositive then .ok ()
      else reject (.notPositive (String.ofList (normalized timeframe))) := by
  generalize isValue : normalized timeframe = value at spells
  cases spells with
  | word keyword =>
      rw [validate_word isValue, if_pos]
      exact trivial
  | @amount digits letter hours filled areDigits isUnit =>
      have short := length_le_of_few few isValue areDigits
      rw [validate_amount isValue filled areDigits isUnit,
        readNumber_eq_ok_iff.mpr ⟨short, rfl⟩, ok_bind, isValue]
      by_cases zero : asciiNumber digits = 0
      · rw [if_pos zero, if_neg (by simp [Form.IsPositive, zero])]
      · have positive : (Form.amount (asciiNumber digits) hours).IsPositive :=
          Nat.pos_of_ne_zero zero
        rw [if_neg zero, if_pos positive]
        rfl

/-- The duration of a timeframe that spells a form. -/
theorem duration_of_spells (few : HasFewDigits timeframe)
    (spells : Spells (normalized timeframe) form) (now : Moment) :
    duration timeframe now =
      if form.duration now < durationLimit then .ok (form.duration now)
      else reject (.tooLarge (String.ofList (normalized timeframe))) := by
  generalize isValue : normalized timeframe = value at spells
  cases spells with
  | word keyword =>
      have within : (Form.word keyword).duration now < durationLimit :=
        (keyword.duration_bounds now).2
      rw [duration_word isValue, if_pos within, Form.duration]
  | @amount digits letter hours filled areDigits isUnit =>
      have short := length_le_of_few few isValue areDigits
      rw [duration_amount isValue filled areDigits isUnit,
        readNumber_eq_ok_iff.mpr ⟨short, rfl⟩, ok_bind, isValue]
      by_cases within : (Form.amount (asciiNumber digits) hours).duration now < durationLimit
      · rw [if_pos within, if_neg (Int.not_le.mpr within)]
        rfl
      · rw [if_neg within, if_pos (Int.not_lt.mp within)]

section Form

variable (few : HasFewDigits timeframe) (spells : Spells (normalized timeframe) form)
include few spells

theorem validate_eq_ok_iff : validate timeframe = .ok () ↔ form.IsPositive := by
  rw [validate_of_spells few spells]
  split <;> simp [reject, *]

theorem duration_eq_ok_iff {now : Moment} {micros : Int} :
    duration timeframe now = .ok micros ↔
      form.duration now = micros ∧ form.duration now < durationLimit := by
  rw [duration_of_spells few spells]
  split <;> simp [reject, *]

theorem validate_fault {fault : TimeframeFault} (refused : validate timeframe = .error fault) :
    fault = .invalid (.notPositive (String.ofList (normalized timeframe))) ∧ ¬form.IsPositive := by
  rw [validate_of_spells few spells] at refused
  split at refused
  · cases refused
  · next notPositive => exact ⟨(Except.error.inj refused).symm, notPositive⟩

theorem duration_fault {now : Moment} {fault : TimeframeFault}
    (refused : duration timeframe now = .error fault) :
    fault = .invalid (.tooLarge (String.ofList (normalized timeframe))) := by
  rw [duration_of_spells few spells] at refused
  split at refused
  · cases refused
  · exact (Except.error.inj refused).symm

end Form

/-- Neither reader accepts a timeframe that spells no form. -/
theorem exists_invalid (noForm : ∀ form, ¬Spells (normalized timeframe) form) :
    (∃ error, validate timeframe = .error (.invalid error)) ∧
      ∀ now, ∃ error, duration timeframe now = .error (.invalid error) := by
  constructor
  · apply Classical.byContradiction
    intro kept
    obtain ⟨form, spells⟩ := @spells_of_validate timeframe
      fun error refused => kept ⟨error, refused⟩
    exact noForm form spells
  · intro now
    apply Classical.byContradiction
    intro kept
    obtain ⟨form, spells⟩ := @spells_of_duration timeframe now
      fun error refused => absurd ⟨error, refused⟩ kept
    exact noForm form spells

theorem validate_eq_ok_iff_spells (few : HasFewDigits timeframe) :
    validate timeframe = .ok () ↔ ∃ form, Spells (normalized timeframe) form ∧ form.IsPositive := by
  constructor
  · intro valid
    obtain ⟨form, spells⟩ := @spells_of_validate timeframe (by simp [valid])
    exact ⟨form, spells, (validate_eq_ok_iff few spells).mp valid⟩
  · intro found
    obtain ⟨form, spells, positive⟩ := found
    exact (validate_eq_ok_iff few spells).mpr positive

theorem duration_eq_ok_iff_spells (few : HasFewDigits timeframe) {now : Moment} {micros : Int} :
    duration timeframe now = .ok micros ↔
      ∃ form, Spells (normalized timeframe) form ∧ form.duration now = micros ∧
        micros < durationLimit := by
  constructor
  · exact exists_form_of_duration
  · intro found
    obtain ⟨form, spells, rfl, within⟩ := found
    exact (duration_eq_ok_iff few spells).mpr ⟨rfl, within⟩

/-- With few digits, what is not accepted is refused. -/
theorem exists_error_of_fault (few : HasFewDigits timeframe) :
    (∀ fault, validate timeframe = .error fault → ∃ error, fault = .invalid error) ∧
      ∀ now fault, duration timeframe now = .error fault → ∃ error, fault = .invalid error := by
  by_cases found : ∃ form, Spells (normalized timeframe) form
  · obtain ⟨form, spells⟩ := found
    exact ⟨fun fault refused => ⟨_, (validate_fault few spells refused).1⟩,
      fun now fault refused => ⟨_, duration_fault few spells refused⟩⟩
  · obtain ⟨⟨error, invalid⟩, unread⟩ := exists_invalid fun form spells => found ⟨form, spells⟩
    constructor
    · intro fault refused
      exact ⟨error, (Except.error.inj (invalid.symm.trans refused)).symm⟩
    · intro now fault refused
      obtain ⟨error, invalid⟩ := unread now
      exact ⟨error, (Except.error.inj (invalid.symm.trans refused)).symm⟩

theorem Form.duration_of_not_isPositive (zero : ¬form.IsPositive) (now : Moment) :
    form.duration now = 0 := by
  cases form with
  | word keyword => exact absurd trivial zero
  | amount number hours =>
      have none : number = 0 := Nat.eq_zero_of_not_pos zero
      rw [none, duration, Int.natCast_zero, Int.zero_mul]

/-- The check and the reading of a timeframe accept one language, but for numbers that are zero and
durations that are too large, and what they do not accept they refuse. Weeks are read like sevenfold
days and as many hours. -/
theorem readers_agree (timeframe : String) (few : HasFewDigits timeframe) :
    (validate timeframe = .ok () ↔
      ∃ form, Spells (normalized timeframe) form ∧ form.IsPositive) ∧
    (∀ now micros, duration timeframe now = .ok micros ↔
      ∃ form, Spells (normalized timeframe) form ∧ form.duration now = micros ∧
        micros < durationLimit) ∧
    (∀ fault, validate timeframe = .error fault → ∃ error, fault = .invalid error) ∧
    (∀ now fault, duration timeframe now = .error fault → ∃ error, fault = .invalid error) ∧
    (validate timeframe = .ok () → ∀ now fault, duration timeframe now = .error fault →
      fault = .invalid (.tooLarge (String.ofList (normalized timeframe)))) ∧
    (∀ now micros, duration timeframe now = .ok micros →
      ∀ fault, validate timeframe = .error fault →
        fault = .invalid (.notPositive (String.ofList (normalized timeframe))) ∧ micros = 0) ∧
    ∀ number, Spells (normalized timeframe) (.amount number 168) →
      ∀ days hours, HasFewDigits days → Spells (normalized days) (.amount (7 * number) 24) →
        HasFewDigits hours → Spells (normalized hours) (.amount (168 * number) 1) → ∀ now,
          (∃ micros, duration timeframe now = .ok micros ∧ duration days now = .ok micros ∧
            duration hours now = .ok micros) ∨
          ∀ text ∈ [timeframe, days, hours], duration text now =
            .error (.invalid (.tooLarge (String.ofList (normalized text)))) := by
  refine ⟨validate_eq_ok_iff_spells few, fun now micros => duration_eq_ok_iff_spells few,
    (exists_error_of_fault few).1, (exists_error_of_fault few).2, ?_, ?_, ?_⟩
  · intro valid now fault refused
    obtain ⟨form, spells, -⟩ := (validate_eq_ok_iff_spells few).mp valid
    exact duration_fault few spells refused
  · intro now micros known fault refused
    obtain ⟨form, spells, rfl, -⟩ := exists_form_of_duration known
    obtain ⟨same, zero⟩ := validate_fault few spells refused
    exact ⟨same, form.duration_of_not_isPositive zero now⟩
  · intro number spells days hours daysFew daysSpells hoursFew hoursSpells now
    obtain ⟨inDays, inHours⟩ := Form.duration_of_weeks number now
    have weeksRead := duration_of_spells few spells now
    have daysRead := duration_of_spells daysFew daysSpells now
    have hoursRead := duration_of_spells hoursFew hoursSpells now
    rw [inDays] at daysRead
    rw [inHours] at hoursRead
    by_cases within : (Form.amount number 168).duration now < durationLimit
    · rw [if_pos within] at weeksRead daysRead hoursRead
      exact .inl ⟨_, weeksRead, daysRead, hoursRead⟩
    · rw [if_neg within] at weeksRead daysRead hoursRead
      refine .inr fun text member => ?_
      simp only [List.mem_cons, List.not_mem_nil, or_false] at member
      rcases member with rfl | rfl | rfl
      · exact weeksRead
      · exact daysRead
      · exact hoursRead

theorem readers_agree_tooManyWeeks :
    HasFewDigits " 142857143W" ∧ validate " 142857143W" = .ok () ∧
      ∀ text ∈ [" 142857143W", "1000000001d", "24000000024h"], duration text ⟨0, 0⟩ =
        .error (.invalid (.tooLarge (String.ofList (normalized text)))) := by
  have few : HasFewDigits " 142857143W" := by decide +kernel
  obtain ⟨valid, -, -, -, -, -, alike⟩ := readers_agree " 142857143W" few
  have weeks : Spells (normalized " 142857143W") (.amount 142857143 168) :=
    @Spells.amount "142857143".toList 'w' 168 (by decide) (List.all_eq_true.mp (by decide)) .week
  have days : Spells (normalized "1000000001d") (.amount (7 * 142857143) 24) :=
    @Spells.amount "1000000001".toList 'd' 24 (by decide) (List.all_eq_true.mp (by decide)) .day
  have hours : Spells (normalized "24000000024h") (.amount (168 * 142857143) 1) :=
    @Spells.amount "24000000024".toList 'h' 1 (by decide) (List.all_eq_true.mp (by decide)) .hour
  refine ⟨few, valid.mpr ⟨_, weeks, by decide⟩, ?_⟩
  rcases alike _ weeks _ _ (by decide +kernel) days (by decide +kernel) hours ⟨0, 0⟩ with
    ⟨micros, known, -⟩ | tooLarge
  · have refused : (duration " 142857143W" ⟨0, 0⟩).isOk = false := by decide +kernel
    rw [known] at refused
    cases refused
  · exact tooLarge

end FilterQuery.Timeframe
