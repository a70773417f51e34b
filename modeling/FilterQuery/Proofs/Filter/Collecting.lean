import FilterQuery.Filter.Token
import FilterQuery.Proofs.Outcome

/-!
# Collecting clauses and errors

Compiling a list of tokens, token by token. Main statements: `compileFrom_of_completes` says that
clauses and errors are those of the single tokens, in order, `compileFrom_of_stopsWith` that the
first token which breaks down stops the collection, and `compileAll_append_eq` that two lists one
after the other are compiled as each of them is.
-/

set_option autoImplicit false

namespace FilterQuery.Filter

open FilterQuery.Field

/-- Every token is accepted or rejected. -/
def Completes (cache : Cache) (filters : List String) : Prop :=
  ∀ filter ∈ filters, ∀ breakdown, compile cache filter ≠ .error (.broken breakdown)

/-- The first token that is neither accepted nor rejected breaks down in this way. -/
inductive StopsWith (cache : Cache) : List String → Breakdown → Prop where
  | here {filter : String} {rest : List String} {breakdown : Breakdown} :
      compile cache filter = .error (.broken breakdown) →
      StopsWith cache (filter :: rest) breakdown
  | later {filter : String} {rest : List String} {breakdown : Breakdown} :
      (∀ other, compile cache filter ≠ .error (.broken other)) →
      StopsWith cache rest breakdown → StopsWith cache (filter :: rest) breakdown

/-- The error of a token, if it is rejected. -/
def rejection? (cache : Cache) (filter : String) : Option Error :=
  match compile cache filter with
  | .error (.rejected error) => some error
  | _ => none

/-- The clauses of the accepted tokens, in order. -/
def accepted (cache : Cache) (filters : List String) : List Clause :=
  filters.filterMap fun filter => (compile cache filter).toOption

/-- The errors of the rejected tokens, with their positions from `start` on. -/
def rejections (cache : Cache) : (start : Nat) → List String → List (Nat × Error)
  | _, [] => []
  | start, filter :: rest =>
      (rejection? cache filter).toList.map (start, ·) ++ rejections cache (start + 1) rest

variable {cache : Cache} {start position : Nat} {filter : String} {filters : List String}
  {error : Error}

theorem rejection?_eq_some_iff :
    rejection? cache filter = some error ↔ compile cache filter = .error (.rejected error) := by
  simp only [rejection?]
  split
  · next found => simp [found]
  · next other => simpa using other error

theorem completes_cons :
    Completes cache (filter :: filters) ↔
      (∀ breakdown, compile cache filter ≠ .error (.broken breakdown)) ∧
        Completes cache filters :=
  List.forall_mem_cons

theorem compileFrom_of_completes (completes : Completes cache filters) :
    compileFrom cache start filters =
      .ok (accepted cache filters, rejections cache start filters) := by
  induction filters generalizing start with
  | nil => rfl
  | cons filter rest ih =>
      obtain ⟨whole, completes⟩ := completes_cons.mp completes
      simp only [compileFrom, accepted, rejections, rejection?, List.filterMap_cons]
      cases result : compile cache filter with
      | ok clause =>
          simp only [ih completes]
          rfl
      | error fault =>
          cases fault with
          | rejected error =>
              simp only [ih completes]
              rfl
          | broken breakdown => exact absurd result (whole breakdown)

section Stopping

variable {breakdown : Breakdown}

theorem compileFrom_of_stopsWith (stops : StopsWith cache filters breakdown) :
    compileFrom cache start filters = .error breakdown := by
  induction stops generalizing start with
  | here broken => simp only [compileFrom, broken]
  | @later filter rest breakdown whole stops ih =>
      simp only [compileFrom, ih]
      cases result : compile cache filter with
      | ok clause => rfl
      | error fault =>
          cases fault with
          | rejected error => rfl
          | broken other => exact absurd result (whole other)

theorem StopsWith.append_right (stops : StopsWith cache filters breakdown) (more : List String) :
    StopsWith cache (filters ++ more) breakdown := by
  induction stops with
  | here broken => exact .here broken
  | later whole _ ih => exact .later whole ih

theorem StopsWith.append_left {first : List String} (completes : Completes cache first)
    (stops : StopsWith cache filters breakdown) : StopsWith cache (first ++ filters) breakdown := by
  induction first with
  | nil => exact stops
  | cons filter rest ih =>
      obtain ⟨whole, completes⟩ := completes_cons.mp completes
      exact .later whole (ih completes)

theorem exists_stopsWith_of_not_completes (stopped : ¬Completes cache filters) :
    ∃ breakdown, StopsWith cache filters breakdown := by
  induction filters with
  | nil => exact absurd (fun filter member => nomatch member) stopped
  | cons filter rest ih =>
      have later (whole : ∀ other, compile cache filter ≠ .error (.broken other)) :
          ∃ breakdown, StopsWith cache (filter :: rest) breakdown := by
        obtain ⟨breakdown, stops⟩ :=
          ih fun completes => stopped (completes_cons.mpr ⟨whole, completes⟩)
        exact ⟨breakdown, .later whole stops⟩
      cases result : compile cache filter with
      | ok clause => exact later (by simp [result])
      | error fault =>
          cases fault with
          | rejected error => exact later (by simp [result])
          | broken breakdown => exact ⟨breakdown, .here result⟩

theorem StopsWith.exists_mem (stops : StopsWith cache filters breakdown) :
    ∃ filter ∈ filters, compile cache filter = .error (.broken breakdown) := by
  induction stops with
  | here broken => exact ⟨_, List.mem_cons_self, broken⟩
  | later _ _ ih =>
      obtain ⟨filter, member, broken⟩ := ih
      exact ⟨filter, List.mem_cons_of_mem _ member, broken⟩

end Stopping

theorem rejections_append (first second : List String) :
    rejections cache start (first ++ second) =
      rejections cache start first ++ rejections cache (start + first.length) second := by
  induction first generalizing start with
  | nil => rfl
  | cons filter first ih =>
      simp only [List.cons_append, rejections, ih, List.append_assoc, List.length_cons]
      rw [Nat.add_right_comm, Nat.add_assoc]

theorem rejections_shift (shift : Nat) :
    rejections cache (start + shift) filters =
      (rejections cache start filters).map fun error => (error.1 + shift, error.2) := by
  induction filters generalizing start with
  | nil => rfl
  | cons filter rest ih =>
      simp only [rejections, List.map_append, List.map_map, Nat.add_right_comm start shift 1, ih]
      rfl

theorem mem_rejections_iff :
    (position, error) ∈ rejections cache start filters ↔
      ∃ offset filter, position = start + offset ∧ filters[offset]? = some filter ∧
        compile cache filter = .error (.rejected error) := by
  induction filters generalizing start with
  | nil => simp [rejections]
  | cons filter rest ih =>
      simp only [rejections, List.mem_append, List.mem_map, Option.mem_toList,
        rejection?_eq_some_iff, Prod.mk.injEq, ih]
      constructor
      · intro listed
        rcases listed with ⟨_, found, rfl, rfl⟩ | ⟨offset, other, rfl, place, found⟩
        · exact ⟨0, filter, rfl, rfl, found⟩
        · exact ⟨offset + 1, other, by omega, by simpa using place, found⟩
      · intro found
        obtain ⟨offset, other, rfl, place, found⟩ := found
        cases offset with
        | zero =>
            obtain rfl : filter = other := by simpa using place
            exact .inl ⟨error, found, rfl, rfl⟩
        | succ offset =>
            exact .inr ⟨offset, other, by omega, by simpa using place, found⟩

theorem pairwise_rejections :
    (rejections cache start filters).Pairwise fun first second => first.1 < second.1 := by
  induction filters generalizing start with
  | nil => exact List.Pairwise.nil
  | cons filter rest ih =>
      rw [rejections, List.pairwise_append]
      refine ⟨?_, ih, ?_⟩
      · cases rejection? cache filter <;> simp
      · intro first head second tail
        obtain ⟨later, error⟩ := second
        obtain ⟨_, _, same⟩ := List.mem_map.mp head
        obtain ⟨offset, _, rfl, _⟩ := mem_rejections_iff.mp tail
        cases same
        exact Nat.lt_add_right offset (Nat.lt_succ_self start)

/-- Two lists one after the other are compiled as each of them is, the positions of the second one
counted on. -/
theorem compileAll_append_eq (cache : Cache) (first second : List String) :
    compileAll cache (first ++ second) = (do
      let (clauses, errors) ← compileAll cache first
      let (others, otherErrors) ← compileAll cache second
      return (clauses ++ others,
        errors ++ otherErrors.map fun error => (error.1 + first.length, error.2))) := by
  simp only [compileAll]
  by_cases completes : Completes cache first
  · by_cases others : Completes cache second
    · have both : Completes cache (first ++ second) := List.forall_mem_append.mpr ⟨completes, others⟩
      simp only [compileFrom_of_completes, both, completes, others, accepted, rejections_append,
        List.filterMap_append, rejections_shift]
      rfl
    · obtain ⟨breakdown, stops⟩ := exists_stopsWith_of_not_completes others
      rw [compileFrom_of_completes completes, compileFrom_of_stopsWith stops,
        compileFrom_of_stopsWith (stops.append_left completes)]
      rfl
  · obtain ⟨breakdown, stops⟩ := exists_stopsWith_of_not_completes completes
    rw [compileFrom_of_stopsWith stops, compileFrom_of_stopsWith (stops.append_right second)]
    rfl

end FilterQuery.Filter
