import FilterQuery.Proofs.Filter.DateReading
import FilterQuery.Proofs.Filter.Grammar

/-!
# Tokens that break down

A token that is neither compiled nor rejected gives a date field a time that has no place in the
calendar, or its field has a type that is no name: a list or an object, or an integer that cannot be
written. Main statement: `compileStripped_eq_broken_iff` says which tokens these are.
-/

set_option autoImplicit false

namespace FilterQuery.Filter

open Number Text FilterQuery.Field

inductive IsCompound : Json → Prop where
  | list (items : List Json) : IsCompound (.arr items)
  | object (members : List (String × Json)) : IsCompound (.obj members)

/-- What a value of a field breaks down with. -/
inductive BreaksValue (metadata : Metadata) (value : List Char) : Breakdown → Prop where
  | type : IsCompound metadata.type → BreaksValue metadata value .compoundType
  | time :
      metadata.isDate = true → IsOutside value → BreaksValue metadata value .outsideCalendar

/-- What a bound for a field breaks down with. That there are no bounds for a type cannot be said of
one that cannot be written. -/
inductive BreaksBound (metadata : Metadata) (value : List Char) : Breakdown → Prop where
  | value {breakdown : Breakdown} :
      BreaksValue metadata value breakdown → BreaksBound metadata value breakdown
  | shown {integer : Int} :
      metadata.type = .int integer → isWritable integer = false →
      BreaksBound metadata value (.tooManyDigits (Nat.toDigits 10 integer.natAbs).length)

/-- The text before an operator names a field that can be searched. -/
structure IsSearched (cache : Cache) (before : List Char) : Prop where
  named : IsDotted (strip before)
  allowed : (metadataOf cache (String.ofList (strip before))).searchable = true

/-- What a token breaks down with: its bound or its value does. -/
inductive BreaksDown (cache : Cache) (text : List Char) : Breakdown → Prop where
  | range {before after : List Char} {comparison : Comparison} {breakdown : Breakdown} :
      IsRange text before comparison after → IsSearched cache before → strip after ≠ [] →
      BreaksBound (metadataOf cache (String.ofList (strip before))) (strip after) breakdown →
      BreaksDown cache text breakdown
  | equality {before after : List Char} {breakdown : Breakdown} :
      IsEquality text before after → IsSearched cache before →
      BreaksValue (metadataOf cache (String.ofList (strip before))) (strip after) breakdown →
      BreaksDown cache text breakdown

section Values

variable {field : String} {metadata : Metadata} {value : List Char} {breakdown : Breakdown}

theorem reject_ne_broken {α : Type} {cause : Cause} :
    (reject field cause : Except Fault α) ≠ .error (.broken breakdown) := by
  simp [reject]

theorem typeText?_eq_none_iff : metadata.typeText? = none ↔ IsCompound metadata.type := by
  rw [Metadata.typeText?]
  cases metadata.type with
  | arr items => exact iff_of_true rfl (.list items)
  | obj members => exact iff_of_true rfl (.object members)
  | _ =>
      refine iff_of_false (Option.some_ne_none _) fun compound => ?_
      cases compound

theorem not_isCompound_of_any {holds : String → Bool}
    (some : metadata.type.str?.any holds = true) : ¬IsCompound metadata.type := by
  obtain ⟨name, type, -⟩ := exists_name_of_any some
  rw [type]
  nofun

theorem dateOr_eq_broken_iff {cause : Cause} :
    dateOr field cause value = .error (.broken breakdown) ↔
      breakdown = .outsideCalendar ∧ IsOutside value := by
  rw [dateOr, ← readDate_eq_outsideCalendar_iff]
  cases reading : readDate value with
  | millis millis => simp
  | notADate => simp [reject]
  | outsideCalendar => simp [eq_comm]

theorem rejectRange_eq_broken_iff {α : Type} {type : Json} {shown : String}
    (simple : ¬IsCompound type) :
    (rejectRange field type shown : Except Fault α) = .error (.broken breakdown) ↔
      ∃ integer, type = .int integer ∧ isWritable integer = false ∧
        breakdown = .tooManyDigits (Nat.toDigits 10 integer.natAbs).length := by
  rw [rejectRange]
  cases type with
  | int integer =>
      rw [Json.unwritable?]
      cases writable : isWritable integer with
      | true => simp [reject, writable]
      | false =>
          simp only [Bool.false_eq_true, ↓reduceIte, Except.error.injEq, Fault.broken.injEq]
          constructor
          · rintro rfl
            exact ⟨integer, rfl, writable, rfl⟩
          · rintro ⟨_, same, -, rfl⟩
            cases same
            rfl
  | arr items => exact absurd (.list items) simple
  | obj members => exact absurd (.object members) simple
  | _ => simp [Json.unwritable?, reject]

theorem keyword_ne_broken : keyword field value ≠ .error (.broken breakdown) := by
  simp only [keyword, reject]
  split
  · simp
  · split <;> simp

/-- The values that a simple type breaks down with are times. -/
theorem breaksValue_iff (simple : ¬IsCompound metadata.type) :
    BreaksValue metadata value breakdown ↔
      metadata.isDate = true ∧ breakdown = .outsideCalendar ∧ IsOutside value := by
  constructor
  · intro breaks
    cases breaks with
    | type compound => exact absurd compound simple
    | time date outside => exact ⟨date, rfl, outside⟩
  · rintro ⟨date, rfl, outside⟩
    exact .time date outside

theorem breaksValue_of_isCompound (compound : IsCompound metadata.type) :
    BreaksValue metadata value breakdown ↔ breakdown = .compoundType := by
  constructor
  · intro breaks
    cases breaks with
    | type _ => rfl
    | time date _ => exact absurd compound (not_isCompound_of_any date)
  · rintro rfl
    exact .type compound

theorem exact_eq_broken_iff :
    exact field metadata value = .error (.broken breakdown) ↔
      BreaksValue metadata value breakdown := by
  cases shown : metadata.typeText? with
  | none =>
      rw [breaksValue_of_isCompound (typeText?_eq_none_iff.mp shown)]
      simp [exact, shown, eq_comm]
  | some type =>
      have simple : ¬IsCompound metadata.type := by simp [← typeText?_eq_none_iff, shown]
      simp only [breaksValue_iff simple, exact, shown]
      cases date : metadata.isDate with
      | true =>
          simp only [not_isNumeric_of_isDate date, Bool.false_eq_true, ↓reduceIte, true_and,
            bind_eq_error_iff, dateOr_eq_broken_iff, or_iff_left_iff_imp]
          rintro ⟨_, _, continued⟩
          cases continued
      | false =>
          simp only [Bool.false_eq_true, ↓reduceIte, false_and, iff_false]
          split
          · cases readNumeral value <;> simp [reject]
          · split
            · cases readBool value <;> simp [reject]
            · exact keyword_ne_broken

theorem breaksBound_iff :
    BreaksBound metadata value breakdown ↔
      BreaksValue metadata value breakdown ∨
        ∃ integer, metadata.type = .int integer ∧ isWritable integer = false ∧
          breakdown = .tooManyDigits (Nat.toDigits 10 integer.natAbs).length := by
  constructor
  · intro breaks
    cases breaks with
    | value breaks => exact .inl breaks
    | shown type long => exact .inr ⟨_, type, long, rfl⟩
  · rintro (breaks | ⟨integer, type, long, rfl⟩)
    · exact .value breaks
    · exact .shown type long

theorem bound_eq_broken_iff :
    bound field metadata value = .error (.broken breakdown) ↔
      BreaksBound metadata value breakdown := by
  have unnumbered {holds : String → Bool} (named : metadata.type.str?.any holds = true) :
      ¬∃ integer, metadata.type = .int integer ∧ isWritable integer = false ∧
        breakdown = .tooManyDigits (Nat.toDigits 10 integer.natAbs).length := by
    obtain ⟨name, type, -⟩ := exists_name_of_any named
    rintro ⟨integer, other, -⟩
    rw [type] at other
    cases other
  rw [breaksBound_iff]
  cases shown : metadata.typeText? with
  | none =>
      have compound := typeText?_eq_none_iff.mp shown
      rw [breaksValue_of_isCompound compound]
      simp only [bound, shown, Except.error.injEq, Fault.broken.injEq]
      constructor
      · rintro rfl
        exact .inl rfl
      · rintro (rfl | ⟨integer, type, -⟩)
        · rfl
        · rw [type] at compound
          cases compound
  | some type =>
      have simple : ¬IsCompound metadata.type := by simp [← typeText?_eq_none_iff, shown]
      simp only [breaksValue_iff simple, bound, shown]
      cases numeric : metadata.isNumeric with
      | true =>
          have notDate : metadata.isDate = false := by
            by_contra date
            rw [not_isNumeric_of_isDate (Bool.not_eq_false _ ▸ date)] at numeric
            cases numeric
          have none := unnumbered numeric
          simp only [notDate, none, ↓reduceIte, Bool.false_eq_true, false_and, or_false, iff_false]
          cases readNumeral value <;> simp [reject]
      | false =>
          cases date : metadata.isDate with
          | true =>
              have none := unnumbered date
              simp only [none, Bool.false_eq_true, ↓reduceIte, true_and, or_false]
              exact dateOr_eq_broken_iff
          | false =>
              simp only [Bool.false_eq_true, ↓reduceIte, false_and, false_or]
              exact rejectRange_eq_broken_iff simple

end Values

variable {cache : Cache} {text before after : List Char} {comparison : Comparison}
  {breakdown : Breakdown}

theorem searchable_ne_broken {field : String} :
    searchable cache field ≠ .error (.broken breakdown) := by
  simp only [searchable, reject]
  split <;> simp

/-- What is done with a searchable field breaks down when the field is reached and the rest does. -/
private theorem searchable_bind_eq_broken_iff {α : Type} {field : String}
    {next : Metadata → Except Fault α} :
    searchable cache field >>= next = .error (.broken breakdown) ↔
      (metadataOf cache field).searchable = true ∧
        next (metadataOf cache field) = .error (.broken breakdown) := by
  simp only [bind_eq_error_iff, searchable_ne_broken, searchable_eq_ok_iff, false_or]
  constructor
  · rintro ⟨_, ⟨rfl, allowed⟩, broken⟩
    exact ⟨allowed, broken⟩
  · rintro ⟨allowed, broken⟩
    exact ⟨_, ⟨rfl, allowed⟩, broken⟩

theorem range_eq_broken_iff {angle : Char} {tail : List Char}
    (read : comparisonAt angle tail = (comparison, after)) :
    range cache before angle tail = .error (.broken breakdown) ↔
      IsSearched cache before ∧ strip after ≠ [] ∧
        BreaksBound (metadataOf cache (String.ofList (strip before))) (strip after) breakdown := by
  simp only [range, read]
  split
  · next refused =>
      refine iff_of_false reject_ne_broken ?_
      rintro ⟨searched, -⟩
      simp [isFieldName_strip_iff.mpr searched.named] at refused
  · next accepted =>
      have named := isFieldName_strip_iff.mp (by simpa using accepted)
      split
      · next missing =>
          exact iff_of_false reject_ne_broken fun breaks =>
            breaks.2.1 (List.isEmpty_iff.mp missing)
      · next filled =>
          rw [searchable_bind_eq_broken_iff, bind_eq_error_iff, bound_eq_broken_iff]
          constructor
          · rintro ⟨allowed, breaks | ⟨_, _, continued⟩⟩
            · exact ⟨⟨named, allowed⟩, mt List.isEmpty_iff.mpr filled, breaks⟩
            · cases continued
          · rintro ⟨searched, -, breaks⟩
            exact ⟨searched.allowed, .inl breaks⟩

theorem equality_eq_broken_iff :
    equality cache before after = .error (.broken breakdown) ↔
      IsSearched cache before ∧
        BreaksValue (metadataOf cache (String.ofList (strip before))) (strip after) breakdown := by
  simp only [equality]
  split
  · next refused =>
      refine iff_of_false reject_ne_broken ?_
      rintro ⟨searched, -⟩
      simp [isFieldName_strip_iff.mpr searched.named] at refused
  · next accepted =>
      have named := isFieldName_strip_iff.mp (by simpa using accepted)
      rw [searchable_bind_eq_broken_iff, exact_eq_broken_iff]
      constructor
      · rintro ⟨allowed, breaks⟩
        exact ⟨⟨named, allowed⟩, breaks⟩
      · rintro ⟨searched, breaks⟩
        exact ⟨searched.allowed, breaks⟩

theorem compileStripped_eq_broken_iff :
    compileStripped cache text = .error (.broken breakdown) ↔ BreaksDown cache text breakdown := by
  constructor
  · intro broken
    rcases exists_form text with ⟨value, split⟩ | ⟨value, split⟩ |
      ⟨before, comparison, after, form⟩ | ⟨before, after, form⟩ | form
    · rw [compileStripped_of_ids split] at broken
      cases broken
    · rw [compileStripped_of_dedup split] at broken
      cases broken
    · obtain ⟨angle, tail, read, compiled⟩ := compileStripped_of_isRange cache form
      rw [compiled, range_eq_broken_iff read] at broken
      obtain ⟨searched, filled, breaks⟩ := broken
      exact .range form searched filled breaks
    · rw [compileStripped_of_isEquality form, equality_eq_broken_iff] at broken
      exact .equality form broken.1 broken.2
    · rw [compileStripped_of_isFormless form] at broken
      split at broken <;> cases broken
  · intro breaks
    cases breaks with
    | range form searched filled breaks =>
        obtain ⟨angle, tail, read, compiled⟩ := compileStripped_of_isRange cache form
        rw [compiled]
        exact (range_eq_broken_iff read).mpr ⟨searched, filled, breaks⟩
    | equality form searched breaks =>
        rw [compileStripped_of_isEquality form]
        exact equality_eq_broken_iff.mpr ⟨searched, breaks⟩

end FilterQuery.Filter
