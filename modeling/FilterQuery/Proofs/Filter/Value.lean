import FilterQuery.Filter.Token
import FilterQuery.Proofs.Outcome

/-!
# What values say

The readings of a value by the type of its field, as rules. Main statements: `exact_eq_ok_iff` and
`bound_eq_ok_iff` say that a value is compiled into a clause, or into a bound, exactly when a rule
applies.
-/

set_option autoImplicit false

namespace FilterQuery.Filter

open Text FilterQuery.Field

/-- The metadata that a token is compiled with: a field without an entry is a searchable keyword. -/
def metadataOf (cache : Cache) (field : String) : Metadata :=
  (cache.get? field).getD .keyword

/-- The field has a type, which is neither a numeric one nor that of a date or a truth value. -/
structure IsKeyword (metadata : Metadata) : Prop where
  notNumeric : metadata.isNumeric = false
  notDate : metadata.isDate = false
  notBoolean : metadata.isBoolean = false
  simple : metadata.typeText?.isSome = true

/-- The bounds that a value can be, by the type of its field. -/
inductive IsBound (metadata : Metadata) (value : List Char) : Numeral → Prop where
  | number {number : Numeral} :
      metadata.isNumeric = true → readNumeral value = some number →
      IsBound metadata value number
  | date {millis : Int} :
      metadata.isDate = true → readDate value = .millis millis →
      IsBound metadata value (.whole millis)

/-- The word for a truth value. -/
def truthWord (truth : Bool) : String :=
  if truth then "true" else "false"

/-- A word for a missing value, in any case. -/
def IsNullWord (value : List Char) : Prop :=
  lower value = "null".toList ∨ lower value = "nil".toList

/-- What a value says of its field, by the type of the field. -/
inductive Means (field : String) (metadata : Metadata) (value : List Char) : Clause → Prop where
  | number {number : Numeral} :
      metadata.isNumeric = true → readNumeral value = some number →
      Means field metadata value (.term field (.number number))
  | date {millis : Int} :
      metadata.isDate = true → readDate value = .millis millis →
      Means field metadata value (.term field (.number (.whole millis)))
  | truth {truth : Bool} :
      metadata.isBoolean = true → lower value = (truthWord truth).toList →
      Means field metadata value (.term field (.bool truth))
  | missing :
      IsKeyword metadata → IsNullWord value → Means field metadata value (.missing field)
  | wildcard :
      IsKeyword metadata → ¬IsNullWord value → (∀ c ∈ value.head?, isWildcard c = false) →
      hasWildcard value = true →
      Means field metadata value (.wildcard field (String.ofList (unescape value)))
  | textMatch :
      IsKeyword metadata → ¬IsNullWord value → (∀ c ∈ value.head?, isWildcard c = false) →
      hasWildcard value = false →
      Means field metadata value (.textMatch field (String.ofList (unescape value)))

section Types

variable {metadata : Metadata}

/-- What is asked of the name of a type holds only of types with a name. -/
theorem exists_name_of_any {holds : String → Bool} (some : metadata.type.str?.any holds = true) :
    ∃ name, metadata.type = .str name ∧ holds name = true := by
  cases type : metadata.type with
  | str name => exact ⟨name, rfl, by simpa [type, Json.str?] using some⟩
  | _ => simp [type, Json.str?] at some

theorem exists_typeText_of_any {holds : String → Bool}
    (some : metadata.type.str?.any holds = true) :
    ∃ type, metadata.typeText? = .some type := by
  obtain ⟨name, type, -⟩ := exists_name_of_any some
  exact ⟨name, by rw [Metadata.typeText?, type]⟩

theorem not_isNumeric_of_isDate (date : metadata.isDate = true) :
    metadata.isNumeric = false := by
  obtain ⟨name, type, named⟩ := exists_name_of_any date
  rw [beq_iff_eq] at named
  rw [Metadata.isNumeric, type, named]
  decide

theorem not_isNumeric_of_isBoolean (boolean : metadata.isBoolean = true) :
    metadata.isNumeric = false ∧ metadata.isDate = false := by
  obtain ⟨name, type, named⟩ := exists_name_of_any boolean
  rw [beq_iff_eq] at named
  rw [Metadata.isNumeric, Metadata.isDate, type, named]
  decide

end Types

theorem searchable_eq_ok_iff {cache : Cache} {field : String} {metadata : Metadata} :
    searchable cache field = .ok metadata ↔
      metadata = metadataOf cache field ∧ (metadataOf cache field).searchable = true := by
  simp only [searchable, metadataOf]
  split
  · next allowed => simp [allowed, eq_comm]
  · next refused => simp [reject, refused]

theorem dateOr_eq_ok_iff {field : String} {cause : Cause} {value : List Char} {bound : Numeral} :
    dateOr field cause value = .ok bound ↔
      ∃ millis, readDate value = .millis millis ∧ bound = .whole millis := by
  rw [dateOr]
  cases reading : readDate value with
  | millis millis => simp [eq_comm]
  | notADate => simp [reject]
  | outsideCalendar => simp

theorem rejectRange_ne_ok {α : Type} {field shown : String} {type : Json} {value : α} :
    rejectRange field type shown ≠ .ok value := by
  rw [rejectRange]
  split <;> simp [reject]

theorem bound_eq_ok_iff {field : String} {metadata : Metadata} {value : List Char}
    {number : Numeral} :
    bound field metadata value = .ok number ↔ IsBound metadata value number := by
  constructor
  · intro accepted
    simp only [bound] at accepted
    split at accepted
    · cases accepted
    · split at accepted
      · next numeric =>
          cases read : readNumeral value with
          | none => simp [read, reject] at accepted
          | some other =>
              simp only [read, Except.ok.injEq] at accepted
              subst accepted
              exact .number numeric read
      · split at accepted
        · next date =>
            obtain ⟨millis, read, rfl⟩ := dateOr_eq_ok_iff.mp accepted
            exact .date date read
        · exact absurd accepted rejectRange_ne_ok
  · intro rule
    cases rule with
    | number numeric read =>
        obtain ⟨type, shown⟩ := exists_typeText_of_any numeric
        simp [bound, shown, numeric, read]
    | date date read =>
        obtain ⟨type, shown⟩ := exists_typeText_of_any date
        simp only [bound, shown, not_isNumeric_of_isDate date, date, Bool.false_eq_true,
          ↓reduceIte]
        exact dateOr_eq_ok_iff.mpr ⟨_, read, rfl⟩

theorem readBool_eq_some_iff {value : List Char} {truth : Bool} :
    readBool value = some truth ↔ lower value = (truthWord truth).toList := by
  have different : "true".toList ≠ "false".toList := by decide
  simp only [readBool, beq_iff_eq]
  split
  · next yes => cases truth <;> simp [truthWord, yes]
  · next notTrue =>
      split
      · next spelt => cases truth <;> simp [truthWord, spelt]
      · next notFalse =>
          cases truth with
          | true => simpa [truthWord] using notTrue
          | false => simpa [truthWord] using notFalse

theorem isNull_iff {value : List Char} : isNull value = true ↔ IsNullWord value := by
  simp only [isNull, IsNullWord, Bool.or_eq_true, beq_iff_eq]

theorem isNull_eq_false_iff {value : List Char} : isNull value = false ↔ ¬IsNullWord value := by
  rw [← isNull_iff, Bool.not_eq_true]

theorem startsWithWildcard_iff {value : List Char} :
    value.head?.any isWildcard = false ↔ ∀ c ∈ value.head?, isWildcard c = false := by
  cases value <;> simp

/-- The clause of a keyword value follows the last three rules. -/
theorem keyword_eq_ok_iff {field : String} {metadata : Metadata} {value : List Char}
    {clause : Clause} (untyped : IsKeyword metadata) :
    keyword field value = .ok clause ↔ Means field metadata value clause := by
  constructor
  · intro accepted
    simp only [keyword] at accepted
    cases null : isNull value with
    | true =>
        simp only [null, ↓reduceIte, Except.ok.injEq] at accepted
        subst accepted
        exact .missing untyped (isNull_iff.mp null)
    | false =>
        have word := isNull_eq_false_iff.mp null
        cases wildStart : value.head?.any isWildcard with
        | true => simp [null, wildStart, reject] at accepted
        | false =>
            have start := startsWithWildcard_iff.mp wildStart
            cases wild : hasWildcard value with
            | true =>
                have made : .wildcard field (String.ofList (unescape value)) = clause := by
                  simpa [null, wildStart, wild] using accepted
                exact made ▸ .wildcard untyped word start wild
            | false =>
                have made : .textMatch field (String.ofList (unescape value)) = clause := by
                  simpa [null, wildStart, wild] using accepted
                exact made ▸ .textMatch untyped word start wild
  · intro rule
    cases rule with
    | number numeric _ => simp [untyped.notNumeric] at numeric
    | date date _ => simp [untyped.notDate] at date
    | truth boolean _ => simp [untyped.notBoolean] at boolean
    | missing _ null => simp [keyword, isNull_iff.mpr null]
    | wildcard _ word start wild =>
        simp [keyword, isNull_eq_false_iff.mpr word, startsWithWildcard_iff.mpr start, wild]
    | textMatch _ word start plain =>
        simp [keyword, isNull_eq_false_iff.mpr word, startsWithWildcard_iff.mpr start, plain]

private theorem exact_number_iff {field : String} {metadata : Metadata} {value : List Char}
    {clause : Clause} (numeric : metadata.isNumeric = true) :
    exact field metadata value = .ok clause ↔
      ∃ number, readNumeral value = some number ∧ clause = .term field (.number number) := by
  obtain ⟨type, shown⟩ := exists_typeText_of_any numeric
  simp only [exact, shown, numeric, ↓reduceIte]
  cases readNumeral value with
  | none => simp [reject]
  | some number => simp [eq_comm]

private theorem exact_date_iff {field : String} {metadata : Metadata} {value : List Char}
    {clause : Clause} (date : metadata.isDate = true) :
    exact field metadata value = .ok clause ↔
      ∃ millis, readDate value = .millis millis ∧
        clause = .term field (.number (.whole millis)) := by
  obtain ⟨type, shown⟩ := exists_typeText_of_any date
  simp only [exact, shown, not_isNumeric_of_isDate date, date, Bool.false_eq_true, ↓reduceIte,
    bind_eq_ok_iff, dateOr_eq_ok_iff]
  constructor
  · intro accepted
    obtain ⟨_, ⟨millis, read, rfl⟩, made⟩ := accepted
    cases made
    exact ⟨millis, read, rfl⟩
  · intro known
    obtain ⟨millis, read, rfl⟩ := known
    exact ⟨_, ⟨millis, read, rfl⟩, rfl⟩

private theorem exact_truth_iff {field : String} {metadata : Metadata} {value : List Char}
    {clause : Clause} (boolean : metadata.isBoolean = true) :
    exact field metadata value = .ok clause ↔
      ∃ truth, readBool value = some truth ∧ clause = .term field (.bool truth) := by
  obtain ⟨notNumeric, notDate⟩ := not_isNumeric_of_isBoolean boolean
  obtain ⟨type, shown⟩ := exists_typeText_of_any boolean
  simp only [exact, shown, notNumeric, notDate, boolean, Bool.false_eq_true, ↓reduceIte]
  cases readBool value with
  | none => simp [reject]
  | some truth => simp [eq_comm]

theorem exact_eq_ok_iff {field : String} {metadata : Metadata} {value : List Char}
    {clause : Clause} :
    exact field metadata value = .ok clause ↔ Means field metadata value clause := by
  constructor
  · intro accepted
    cases numeric : metadata.isNumeric with
    | true =>
        obtain ⟨number, read, rfl⟩ := (exact_number_iff numeric).mp accepted
        exact .number numeric read
    | false =>
        cases date : metadata.isDate with
        | true =>
            obtain ⟨millis, read, rfl⟩ := (exact_date_iff date).mp accepted
            exact .date date read
        | false =>
            cases boolean : metadata.isBoolean with
            | true =>
                obtain ⟨truth, read, rfl⟩ := (exact_truth_iff boolean).mp accepted
                exact .truth boolean (readBool_eq_some_iff.mp read)
            | false =>
                cases simple : metadata.typeText? with
                | none => simp [exact, simple] at accepted
                | some type =>
                    simp only [exact, simple, numeric, date, boolean, Bool.false_eq_true,
                      ↓reduceIte] at accepted
                    have untyped : IsKeyword metadata :=
                      ⟨numeric, date, boolean, by rw [simple, Option.isSome_some]⟩
                    exact (keyword_eq_ok_iff untyped).mp accepted
  · intro rule
    have word : IsKeyword metadata → exact field metadata value = .ok clause := by
      intro untyped
      obtain ⟨type, shown⟩ := Option.isSome_iff_exists.mp untyped.simple
      simp only [exact, shown, untyped.notNumeric, untyped.notDate, untyped.notBoolean,
        Bool.false_eq_true, ↓reduceIte]
      exact (keyword_eq_ok_iff untyped).mpr rule
    cases rule with
    | number numeric read => exact (exact_number_iff numeric).mpr ⟨_, read, rfl⟩
    | date date read => exact (exact_date_iff date).mpr ⟨_, read, rfl⟩
    | truth boolean spelt =>
        exact (exact_truth_iff boolean).mpr ⟨_, readBool_eq_some_iff.mpr spelt, rfl⟩
    | missing untyped => exact word untyped
    | wildcard untyped => exact word untyped
    | textMatch untyped => exact word untyped

end FilterQuery.Filter
