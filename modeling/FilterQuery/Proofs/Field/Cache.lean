import FilterQuery.Field.Cache

/-!
# What is known after a change of the cache

Each operation of a field cache, seen through look-ups: which entries it writes, what they are then,
and that it leaves the others alone.
-/

set_option autoImplicit false

namespace FilterQuery.Field.Cache

variable {cache : Cache} {field : String}

theorem get?_set_self (cache : Cache) (field : String) (metadata : Metadata) :
    (cache.set field metadata).get? field = some metadata :=
  Entries.get?_put_self cache.entries field metadata

theorem get?_set_of_ne (cache : Cache) {field other : String} (metadata : Metadata)
    (ne : other ≠ field) : (cache.set field metadata).get? other = cache.get? other :=
  Entries.get?_put_of_ne cache.entries metadata ne

/-- An entry whose type has a name is told by its parts. -/
theorem get?_eq_some_of_parts {name : String} {searchable aggregatable active : Bool}
    (parts : (cache.get? field).map (fun metadata =>
        (metadata.type.str?, metadata.searchable, metadata.aggregatable, metadata.active)) =
      some (some name, searchable, aggregatable, active)) :
    cache.get? field = some ⟨.str name, searchable, aggregatable, active⟩ := by
  obtain ⟨⟨type, _, _, _⟩, found, same⟩ := Option.map_eq_some_iff.mp parts
  cases type <;> cases same
  exact found

/-- Marking an entry twice is marking it once, so only membership counts. -/
theorem get?_markActive (cache : Cache) (fields : List String) (field : String) :
    (cache.markActive fields).get? field =
      if field ∈ fields then (cache.get? field).map fun metadata => { metadata with active := true }
      else cache.get? field := by
  induction fields generalizing cache with
  | nil => rfl
  | cons first rest ih =>
      rw [markActive, List.foldl_cons, ← markActive, ih]
      by_cases same : field = first
      · subst same
        have marked := Entries.get?_update_self cache.entries
          (fun metadata => { metadata with active := true }) field
        simp only [get?] at marked ⊢
        simp [marked, Function.comp_def]
      · have untouched := Entries.get?_update_of_ne cache.entries
          (fun metadata => { metadata with active := true }) same
        simp only [get?] at untouched ⊢
        simp [untouched, same]

theorem get?_setDefaults_of_mem (cache : Cache) (member : field ∈ builtIn) :
    cache.setDefaults.get? field = some .keyword := by
  simp only [builtIn, List.mem_cons, List.not_mem_nil, or_false] at member
  simp only [setDefaults, builtIn, List.foldl_cons, List.foldl_nil]
  rcases member with rfl | rfl
  · rw [get?_set_of_ne _ _ (by decide), get?_set_self]
  · rw [get?_set_self]

theorem get?_setDefaults_of_not_mem (cache : Cache) (absent : field ∉ builtIn) :
    cache.setDefaults.get? field = cache.get? field := by
  simp only [builtIn, List.mem_cons, List.not_mem_nil, or_false, not_or] at absent
  simp only [setDefaults, builtIn, List.foldl_cons, List.foldl_nil]
  rw [get?_set_of_ne _ _ absent.2, get?_set_of_ne _ _ absent.1]

theorem setDefaults_keeps_iff (cache : Cache) :
    (∀ field, cache.setDefaults.get? field = cache.get? field) ↔
      ∀ field ∈ builtIn, cache.get? field = some .keyword := by
  constructor
  · intro keeps field member
    rw [← keeps field]
    exact get?_setDefaults_of_mem cache member
  · intro known field
    by_cases member : field ∈ builtIn
    · rw [get?_setDefaults_of_mem cache member, known field member]
    · exact get?_setDefaults_of_not_mem cache member

/-- The names of the fields that a list describes. -/
def describedNames (fields : List (String × Json)) : List String :=
  fields.filterMap fun (field, types) => (described? types).map fun _ => field

theorem described?_inactive {types : Json} {metadata : Metadata}
    (described : described? types = some metadata) : metadata.active = false := by
  simp only [described?] at described
  split at described
  · cases described
    rfl
  · cases described

theorem get?_storeAll_of_not_mem {fields : List (String × Json)}
    (absent : field ∉ describedNames fields) : (storeAll fields cache).1.get? field =
      cache.get? field := by
  induction fields generalizing cache with
  | nil => rfl
  | cons entry rest ih =>
      obtain ⟨name, types⟩ := entry
      cases described : described? types with
      | none =>
          simp only [describedNames, List.filterMap_cons, described, Option.map_none] at absent
          simp only [storeAll, described]
          exact ih absent
      | some metadata =>
          simp only [describedNames, List.filterMap_cons, described, Option.map_some,
            List.mem_cons, not_or] at absent
          simp only [storeAll, described]
          rw [ih absent.2, get?_set_of_ne _ _ absent.1]

/-- A field that is described more than once keeps what was said last; it is not active, whatever
was known before. -/
theorem get?_storeAll_of_mem {fields : List (String × Json)}
    (member : field ∈ describedNames fields) :
    ∃ metadata, (storeAll fields cache).1.get? field = some metadata ∧
      metadata.active = false := by
  induction fields generalizing cache with
  | nil => cases member
  | cons entry rest ih =>
      obtain ⟨name, types⟩ := entry
      by_cases later : field ∈ describedNames rest
      · simp only [storeAll]
        split
        · exact ih later
        · exact ih later
      · cases described : described? types with
        | none =>
            simp only [describedNames, List.filterMap_cons, described, Option.map_none] at member
            exact absurd member later
        | some metadata =>
            simp only [describedNames, List.filterMap_cons, described, Option.map_some,
              List.mem_cons] at member
            obtain rfl : field = name := member.resolve_right later
            refine ⟨metadata, ?_, described?_inactive described⟩
            simp only [storeAll, described]
            rw [get?_storeAll_of_not_mem later, get?_set_self]

end FilterQuery.Field.Cache
