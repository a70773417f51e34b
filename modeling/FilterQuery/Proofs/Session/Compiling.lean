import FilterQuery.Proofs.Field.Cache
import FilterQuery.Proofs.Filter.Consulting
import FilterQuery.Session.Step

/-!
# What a query is compiled with

A query is compiled with the types of the fields that its tokens name, and with whether these can be
searched. What a user does with the fields of a session changes neither. Main statement:
`Session.compile_dependsOnNamed`.
-/

set_option autoImplicit false

namespace FilterQuery

open Server FilterQuery.Field FilterQuery.Filter

namespace Query

variable {cache other : Cache} {filters : List String}

theorem filterClauses_congr
    (same : ∀ filter ∈ filters, Filter.compile cache filter = Filter.compile other filter) :
    filterClauses cache filters = filterClauses other filters := by
  simp only [filterClauses, compileAll, compileFrom_congr same]

theorem build_congr
    (same : ∀ filter ∈ filters, Filter.compile cache filter = Filter.compile other filter)
    (size : Int) (timeframe : String) (now : Moment) :
    build filters size timeframe cache now = build filters size timeframe other now := by
  simp only [build, filterClauses_congr same]

end Query

namespace Field

theorem Cache.agreeOn_markActive (cache : Cache) (fields : List String) (field : String) :
    AgreeOn cache (cache.markActive fields) field := by
  constructor
  all_goals
    simp only [metadataOf, Cache.get?_markActive]
    split
    · cases cache.get? field <;> rfl
    · rfl

/-- The one thing that actions change of a cache is which fields were seen in documents. -/
theorem Catalog.agreeOn_perform (catalog : Catalog) (action : Action) (field : String) :
    AgreeOn catalog.cache (catalog.perform action).2.cache field := by
  cases action with
  | update documents =>
      simp only [perform, absorb]
      split
      · exact Cache.agreeOn_markActive catalog.cache _ field
      · exact .refl _ _
  | select | unselect | toggle | move | applyFilter | reset | isSelected => exact .refl _ _

end Field

namespace Session

variable {σ : Type}

theorem run_perform (server : Server σ) (session : Session σ) (actions : List Action) :
    ∃ catalog, session.run server (actions.map .perform) = { session with catalog } ∧
      ∀ field, AgreeOn session.catalog.cache catalog.cache field := by
  induction actions generalizing session with
  | nil => exact ⟨session.catalog, rfl, fun field => .refl _ field⟩
  | cons action actions ih =>
      obtain ⟨catalog, reached, agree⟩ := ih (session.perform action).2
      exact ⟨catalog, reached, fun field =>
        (session.catalog.agreeOn_perform action field).trans (agree field)⟩

theorem compile_run_perform (server : Server σ) (session : Session σ) (actions : List Action)
    (demand : Demand) :
    (session.run server (actions.map .perform)).compile demand = session.compile demand := by
  obtain ⟨catalog, reached, agree⟩ := session.run_perform server actions
  have same : ∀ filter ∈ demand.filters,
      Filter.compile catalog.cache filter = Filter.compile session.catalog.cache filter :=
    fun filter _ => (compile_congr fun field _ => agree field).symm
  simp only [reached, compile, Demand.compile, Query.build_congr same]

/-- A token names at most one field, and is compiled alike, or rejected alike, with all caches that
agree on this field. So are queries, and what a user does with the fields of a session makes no
difference to those that it compiles. -/
theorem compile_dependsOnNamed :
    (∀ text field other, Names text field → Names text other → field = other) ∧
    (∀ cache other filter, (∀ field, Names (Text.strip filter.toList) field →
        AgreeOn cache other field) →
      Filter.compile cache filter = Filter.compile other filter) ∧
    (∀ cache other filter, IsFixed (Text.strip filter.toList) →
      Filter.compile cache filter = Filter.compile other filter) ∧
    (∀ cache other filters size timeframe now, (∀ filter ∈ filters, ∀ field,
        Names (Text.strip filter.toList) field → AgreeOn cache other field) →
      Query.build filters size timeframe cache now =
        Query.build filters size timeframe other now) ∧
    ∀ (server : Server σ) (session : Session σ) (actions : List Action) (demand : Demand),
      (session.run server (actions.map .perform)).compile demand = session.compile demand :=
  ⟨fun _ _ _ names namesOther => names.unique namesOther,
    fun _ _ _ agree => compile_congr agree,
    fun cache other _ fixed => compileStripped_of_isFixed fixed cache other,
    fun _ _ _ size timeframe now agree => Query.build_congr
      (fun filter member => compile_congr (agree filter member)) size timeframe now,
    compile_run_perform⟩

def sized : Cache :=
  ⟨[("size", ⟨.str "long", true, true, false⟩), ("note", ⟨.str "text", true, false, true⟩)]⟩

/-- One field is as before in what counts, and the other one is not. -/
def resized : Cache :=
  ⟨[("note", ⟨.str "date", false, true, false⟩), ("size", ⟨.str "long", true, false, true⟩)]⟩

theorem compile_dependsOnNamed_sized :
    Names (Text.strip " size >= 10".toList) "size" ∧
      (∀ field, Names (Text.strip " size >= 10".toList) field → AgreeOn sized resized field) ∧
      Filter.compile sized " size >= 10" = Filter.compile resized " size >= 10" ∧
      Filter.compile sized "note=a" ≠ Filter.compile resized "note=a" ∧
      IsFixed (Text.strip "_id=note".toList) ∧
      Filter.compile sized "_id=note" = Filter.compile resized "_id=note" ∧
      Query.build [" size >= 10", "_id=note"] 1 "" sized ⟨0, 0⟩ =
        Query.build [" size >= 10", "_id=note"] 1 "" resized ⟨0, 0⟩ := by
  have form : IsRange (Text.strip " size >= 10".toList) "size ".toList .atLeast " 10".toList :=
    { free := by
        unfold IsFixed
        decide
      split := by decide
      first := forall_not_isAngle (by decide)
      longest := fun other _ => by cases other <;> decide }
  have fixed : IsFixed (Text.strip "_id=note".toList) := .inl (by decide)
  obtain ⟨unique, alike, whatever, builds, -⟩ := @compile_dependsOnNamed Unit
  have names : Names (Text.strip " size >= 10".toList) "size" := .range form
  have agree : ∀ field, Names (Text.strip " size >= 10".toList) field →
      AgreeOn sized resized field := by
    intro field named
    obtain rfl := unique _ _ _ named names
    exact ⟨rfl, rfl⟩
  refine ⟨names, agree, alike _ _ _ agree, by decide +kernel, fixed,
    whatever _ _ _ fixed, ?_⟩
  refine builds _ _ _ 1 "" ⟨0, 0⟩ fun filter member => ?_
  rcases List.mem_cons.mp member with rfl | member
  · exact agree
  · obtain rfl := List.mem_singleton.mp member
    rintro field (form | form)
    · exact absurd fixed form.free
    · exact absurd fixed form.free

end Session

end FilterQuery
