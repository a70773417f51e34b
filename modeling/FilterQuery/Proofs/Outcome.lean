/-!
# Outcomes of steps in a row

When a step that is followed by another one gives a result, when the two give an error, and what
holds once the checks that stand in a row have passed.
-/

set_option autoImplicit false

namespace FilterQuery

variable {ε ε' α β : Type}

theorem ok_bind (value : α) (next : α → Except ε β) : Except.ok value >>= next = next value :=
  rfl

theorem bind_eq_ok_iff {first : Except ε α} {next : α → Except ε β} {result : β} :
    first >>= next = .ok result ↔ ∃ value, first = .ok value ∧ next value = .ok result := by
  cases first with
  | error error => simp [bind, Except.bind]
  | ok value => simp [bind, Except.bind]

theorem bind_eq_error_iff {first : Except ε α} {next : α → Except ε β} {error : ε} :
    first >>= next = .error error ↔
      first = .error error ∨ ∃ value, first = .ok value ∧ next value = .error error := by
  cases first with
  | error other => simp [bind, Except.bind]
  | ok value => simp [bind, Except.bind]

/-- A check that gives no value, before what comes next. -/
theorem check_bind_eq_ok_iff {check : Except ε Unit} {next : Unit → Except ε α} {result : α} :
    check >>= next = .ok result ↔ check = .ok () ∧ next () = .ok result := by
  rw [bind_eq_ok_iff]
  constructor
  · intro passed
    obtain ⟨_, passed⟩ := passed
    exact passed
  · exact fun passed => ⟨(), passed⟩

/-- A condition that is refused at once, before what comes next. -/
theorem guard_eq_ok_iff {condition : Prop} [Decidable condition] {error : ε}
    {next : Unit → Except ε α} {result : α} :
    (if condition then throw error >>= next else next ()) = .ok result ↔
      ¬condition ∧ next () = .ok result := by
  by_cases refused : condition
  · simp [refused, throw, throwThe, MonadExceptOf.throw, bind, Except.bind]
  · simp [refused]

/-- A condition that is refused at the end. -/
theorem last_guard_eq_ok_iff {condition : Prop} [Decidable condition] {error : ε} :
    (if condition then throw error else pure () : Except ε Unit) = .ok () ↔ ¬condition := by
  by_cases refused : condition
  · simp [refused, throw, throwThe, MonadExceptOf.throw]
  · simp [refused, pure, Except.pure]

theorem check_when_eq_ok_iff {condition : Prop} [Decidable condition] {check : Except ε Unit} :
    (if condition then check else pure ()) = .ok () ↔ (condition → check = .ok ()) := by
  by_cases applies : condition
  · simp [applies]
  · simp [applies, pure, Except.pure]

@[simp]
theorem mapError_ok (value : α) (change : ε → ε') :
    (Except.ok value).mapError change = .ok value :=
  rfl

@[simp]
theorem mapError_error (error : ε) (change : ε → ε') :
    (Except.error error : Except ε α).mapError change = .error (change error) :=
  rfl

theorem mapError_eq_ok_iff {result : Except ε α} {change : ε → ε'} {value : α} :
    result.mapError change = .ok value ↔ result = .ok value := by
  cases result with
  | error error => simp
  | ok other => simp

theorem map_eq_ok_iff {result : Except ε α} {change : α → β} {value : β} :
    result.map change = .ok value ↔ ∃ before, result = .ok before ∧ change before = value := by
  cases result with
  | error error => simp [Except.map]
  | ok other => simp [Except.map]

/-- The error of a step that fails. -/
def error? : Except ε α → Option ε
  | .error error => some error
  | .ok _ => none

theorem error?_eq_some_iff {result : Except ε α} {error : ε} :
    error? result = some error ↔ result = .error error := by
  cases result with
  | error other => simp [error?]
  | ok value => simp [error?]

theorem toOption_eq_some_iff {result : Except ε α} {value : α} :
    result.toOption = some value ↔ result = .ok value := by
  cases result with
  | error error => simp [Except.toOption]
  | ok other => simp [Except.toOption]

end FilterQuery
