import FilterQuery.Query
import FilterQuery.Proofs.Filter.Collecting
import Mathlib.Data.List.Forall2

/-!
# Building queries

A query is built from all of its parts or not at all. Main statement: `build_allOrNothing` says when
there is a query and what it asks for, which errors are reported when there is none, and that tokens
do not influence each other.
-/

set_option autoImplicit false

namespace FilterQuery.Query

open Number FilterQuery.Filter

/-- The clauses of a timeframe: none when it is empty, else that of its window. -/
inductive IsTime (timeframe : String) (now : Moment) : List Clause → Prop where
  | unlimited : timeframe = "" → IsTime timeframe now []
  | within {window : Window} :
      timeframe ≠ "" → Timeframe.window timeframe now = .ok window →
      IsTime timeframe now [.within window]

/-- Each token is compiled into the clause at its place. -/
def AreCompiled (cache : Field.Cache) : List String → List Clause → Prop :=
  List.Forall₂ fun filter clause => compile cache filter = .ok clause

variable {cache : Field.Cache} {filters : List String} {clauses : List Clause} {size : Int}
  {timeframe : String} {now : Moment}

theorem timeClauses_eq_ok_iff :
    timeClauses timeframe now = .ok clauses ↔ IsTime timeframe now clauses := by
  simp only [timeClauses]
  constructor
  · intro built
    split at built
    · next empty =>
        cases built
        exact .unlimited empty
    · next filled =>
        split at built
        · next window found =>
            cases built
            exact .within filled found
        · cases built
        · cases built
  · intro time
    cases time with
    | unlimited empty => simp [empty]
    | within filled found => simp [filled, found]

theorem exists_isTime_iff :
    (∃ time, IsTime timeframe now time) ↔
      timeframe = "" ∨ ∃ window, Timeframe.window timeframe now = .ok window := by
  constructor
  · intro known
    obtain ⟨time, isTime⟩ := known
    cases isTime with
    | unlimited empty => exact .inl empty
    | within _ found => exact .inr ⟨_, found⟩
  · by_cases empty : timeframe = ""
    · exact fun _ => ⟨[], .unlimited empty⟩
    · intro known
      rcases known with same | ⟨window, found⟩
      · exact absurd same empty
      · exact ⟨_, .within empty found⟩

theorem areCompiled_accepted {start : Nat} (completes : Completes cache filters)
    (noErrors : rejections cache start filters = []) :
    AreCompiled cache filters (accepted cache filters) := by
  induction filters generalizing start with
  | nil => exact .nil
  | cons filter rest ih =>
      obtain ⟨whole, completes⟩ := completes_cons.mp completes
      simp only [rejections, List.append_eq_nil_iff, List.map_eq_nil_iff] at noErrors
      obtain ⟨notRejected, noErrors⟩ := noErrors
      cases result : compile cache filter with
      | ok clause =>
          simp only [accepted, List.filterMap_cons, result, Except.toOption]
          exact .cons result (ih completes noErrors)
      | error fault =>
          cases fault with
          | rejected error => simp [rejection?, result] at notRejected
          | broken breakdown => exact absurd result (whole breakdown)

theorem AreCompiled.completes (compiled : AreCompiled cache filters clauses) :
    Completes cache filters ∧ accepted cache filters = clauses ∧
      ∀ start, rejections cache start filters = [] := by
  induction compiled with
  | nil => exact ⟨by simp [Completes], rfl, fun _ => rfl⟩
  | @cons filter clause filters clauses result _ ih =>
      obtain ⟨completes, same, noErrors⟩ := ih
      refine ⟨completes_cons.mpr ⟨by simp [result], completes⟩, ?_, ?_⟩
      · simpa only [accepted, List.filterMap_cons, result, Except.toOption, List.cons.injEq,
          true_and] using same
      · intro start
        simp [rejections, rejection?, result, noErrors]

theorem AreCompiled.mem_iff (compiled : AreCompiled cache filters clauses) {clause : Clause} :
    clause ∈ clauses ↔ ∃ filter ∈ filters, compile cache filter = .ok clause := by
  induction compiled with
  | nil => simp
  | cons result _ ih => simp [ih, result, eq_comm]

theorem exists_areCompiled_iff :
    (∃ clauses, AreCompiled cache filters clauses) ↔
      ∀ filter ∈ filters, ∃ clause, compile cache filter = .ok clause := by
  induction filters with
  | nil => exact ⟨by simp, fun _ => ⟨[], .nil⟩⟩
  | cons filter rest ih =>
      rw [List.forall_mem_cons, ← ih]
      constructor
      · intro known
        obtain ⟨_, compiled⟩ := known
        cases compiled with
        | cons result others => exact ⟨⟨_, result⟩, _, others⟩
      · intro known
        obtain ⟨⟨clause, result⟩, clauses, others⟩ := known
        exact ⟨clause :: clauses, .cons result others⟩

/-- What the tokens of a query contribute when none of them breaks down. -/
theorem filterClauses_of_completes (completes : Completes cache filters) :
    filterClauses cache filters =
      if rejections cache 0 filters = [] then .ok (accepted cache filters)
      else .error (.query (.filters (rejections cache 0 filters))) := by
  simp only [filterClauses, compileAll, compileFrom_of_completes completes]
  cases rejections cache 0 filters with
  | nil => rfl
  | cons error errors => rfl

theorem filterClauses_of_stopsWith {breakdown : Filter.Breakdown}
    (stops : StopsWith cache filters breakdown) :
    filterClauses cache filters = .error (.broken breakdown) := by
  simp only [filterClauses, compileAll, compileFrom_of_stopsWith stops]

theorem filterClauses_eq_ok_iff :
    filterClauses cache filters = .ok clauses ↔ AreCompiled cache filters clauses := by
  by_cases completes : Completes cache filters
  · rw [filterClauses_of_completes completes]
    split
    · next noErrors =>
        constructor
        · intro made
          cases made
          exact areCompiled_accepted completes noErrors
        · intro compiled
          rw [compiled.completes.2.1]
    · next errors =>
        simp only [reduceCtorEq, false_iff]
        exact fun compiled => errors (compiled.completes.2.2 0)
  · obtain ⟨breakdown, stops⟩ := exists_stopsWith_of_not_completes completes
    rw [filterClauses_of_stopsWith stops]
    simp only [reduceCtorEq, false_iff]
    exact fun compiled => completes compiled.completes.1

theorem filterClauses_eq_query_iff {error : QueryError} :
    filterClauses cache filters = .error (.query error) ↔
      Completes cache filters ∧ rejections cache 0 filters ≠ [] ∧
        error = .filters (rejections cache 0 filters) := by
  by_cases completes : Completes cache filters
  · rw [filterClauses_of_completes completes]
    split
    · next noErrors => simp [noErrors]
    · next errors => simp [completes, errors, eq_comm]
  · obtain ⟨breakdown, stops⟩ := exists_stopsWith_of_not_completes completes
    rw [filterClauses_of_stopsWith stops]
    simp [completes]

theorem build_of_negative (negative : size < 0) :
    build filters size timeframe cache now = .error (.ofError (.negativeSize size)) := by
  simp only [build, negative, ↓reduceIte]

theorem build_of_nonneg (nonneg : 0 ≤ size) :
    build filters size timeframe cache now = (do
      let time ← timeClauses timeframe now
      let clauses ← filterClauses cache filters
      return ⟨time ++ clauses, size⟩) := by
  simp only [build, Int.not_lt.mpr nonneg, ↓reduceIte]

theorem build_eq_ok_iff {query : Query} :
    build filters size timeframe cache now = .ok query ↔
      0 ≤ size ∧ ∃ time clauses, IsTime timeframe now time ∧ AreCompiled cache filters clauses ∧
        query = ⟨time ++ clauses, size⟩ := by
  by_cases nonneg : 0 ≤ size
  · simp only [build_of_nonneg nonneg, bind_eq_ok_iff, timeClauses_eq_ok_iff,
      filterClauses_eq_ok_iff, nonneg, true_and]
    constructor
    · intro built
      obtain ⟨time, isTime, clauses, compiled, made⟩ := built
      cases made
      exact ⟨time, clauses, isTime, compiled, rfl⟩
    · intro parts
      obtain ⟨time, clauses, isTime, compiled, rfl⟩ := parts
      exact ⟨time, isTime, clauses, compiled, rfl⟩
  · rw [build_of_negative (Int.not_le.mp nonneg)]
    simp [nonneg]

theorem eq_of_ofError_eq_query {error shown : QueryError}
    (worded : QueryFault.ofError error = .query shown) : shown = error := by
  simp only [QueryFault.ofError] at worded
  split at worded
  · exact (QueryFault.query.inj worded).symm
  · cases worded

theorem timeClauses_ne_query {error : QueryError} :
    timeClauses timeframe now ≠ .error (.query error) := by
  simp only [timeClauses]
  split
  · simp
  · split <;> simp

/-- Errors of tokens are reported only when the size is accepted, and then those of all tokens. -/
theorem build_eq_filters {error : QueryError}
    (rejected : build filters size timeframe cache now = .error (.query error))
    (listed : error.errors ≠ []) :
    error = .filters (rejections cache 0 filters) := by
  by_cases nonneg : 0 ≤ size
  · rw [build_of_nonneg nonneg, bind_eq_error_iff] at rejected
    rcases rejected with rejected | ⟨time, _, rejected⟩
    · exact absurd rejected timeClauses_ne_query
    · rcases bind_eq_error_iff.mp rejected with rejected | ⟨clauses, _, continued⟩
      · exact (filterClauses_eq_query_iff.mp rejected).2.2
      · cases continued
  · rw [build_of_negative (Int.not_le.mp nonneg), Except.error.injEq] at rejected
    rw [eq_of_ofError_eq_query rejected] at listed
    exact absurd rfl listed

theorem positioned_eq :
    QueryError.positioned = fun listed =>
      "filter[" ++ natText listed.1 ++ "]: " ++ listed.2.message := by
  funext listed
  simp only [QueryError.positioned, toString]

theorem message_filters (errors : List (Nat × Error)) :
    (QueryError.filters errors).message = "failed to parse filters: " ++ "; ".intercalate
      (errors.map fun listed => "filter[" ++ natText listed.1 ++ "]: " ++ listed.2.message) := by
  rw [← positioned_eq]
  -- The equations of `message` are not used: to make them is slow.
  unfold QueryError.message
  dsimp only

/-- The form of a query in a request lists its clauses, or asks for all documents. -/
theorem toJson_eq (query : Query) :
    query.toJson = .obj [
      ("query",
        if query.must = [] then single "match_all" (.obj [])
        else single "bool" (single "must" (.arr (query.must.map Clause.toJson)))),
      ("size", .int query.size)] := by
  simp only [Query.toJson, List.isEmpty_iff]

/-- There is a query exactly when the size, the timeframe and every single token are accepted. It
asks for the time and then for what the tokens say, in their order. The errors that are reported are
those of all rejected tokens, at their positions; and a list of tokens behind another one is
compiled as if it stood alone. -/
theorem build_allOrNothing (filters : List String) (size : Int) (timeframe : String)
    (cache : Field.Cache) (now : Moment) :
    ((∃ query, build filters size timeframe cache now = .ok query) ↔
        0 ≤ size ∧ (timeframe = "" ∨ ∃ window, Timeframe.window timeframe now = .ok window) ∧
          ∀ filter ∈ filters, ∃ clause, compile cache filter = .ok clause) ∧
      (∀ query, build filters size timeframe cache now = .ok query →
        ∃ time clauses, IsTime timeframe now time ∧ AreCompiled cache filters clauses ∧
          query.must = time ++ clauses ∧ query.size = size ∧
          query.toJson = .obj [
            ("query",
              if time ++ clauses = [] then single "match_all" (.obj [])
              else single "bool" (single "must" (.arr ((time ++ clauses).map Clause.toJson)))),
            ("size", .int size)]) ∧
      (∀ error, build filters size timeframe cache now = .error (.query error) →
        error.errors ≠ [] →
        error.errors.Pairwise (fun first second => first.1 < second.1) ∧
          (∀ position rejected, (position, rejected) ∈ error.errors ↔
            ∃ filter, filters[position]? = some filter ∧
              compile cache filter = .error (.rejected rejected)) ∧
          error.message = "failed to parse filters: " ++ "; ".intercalate
            (error.errors.map fun listed =>
              "filter[" ++ natText listed.1 ++ "]: " ++ listed.2.message)) ∧
      ∀ first second, compileAll cache (first ++ second) = (do
        let (clauses, errors) ← compileAll cache first
        let (others, otherErrors) ← compileAll cache second
        return (clauses ++ others,
          errors ++ otherErrors.map fun error => (error.1 + first.length, error.2))) := by
  refine ⟨?_, ?_, ?_, compileAll_append_eq cache⟩
  · rw [← exists_isTime_iff, ← exists_areCompiled_iff]
    constructor
    · intro known
      obtain ⟨query, built⟩ := known
      obtain ⟨nonneg, time, clauses, isTime, compiled, _⟩ := build_eq_ok_iff.mp built
      exact ⟨nonneg, ⟨time, isTime⟩, clauses, compiled⟩
    · intro parts
      obtain ⟨nonneg, ⟨time, isTime⟩, clauses, compiled⟩ := parts
      exact ⟨_, build_eq_ok_iff.mpr ⟨nonneg, time, clauses, isTime, compiled, rfl⟩⟩
  · intro query built
    obtain ⟨_, time, clauses, isTime, compiled, rfl⟩ := build_eq_ok_iff.mp built
    exact ⟨time, clauses, isTime, compiled, rfl, rfl, toJson_eq _⟩
  · intro error rejected listed
    obtain rfl := build_eq_filters rejected listed
    refine ⟨pairwise_rejections, ?_, ?_⟩
    · intro position rejected
      simp [QueryError.errors, mem_rejections_iff]
    · exact message_filters _

end FilterQuery.Query
