import FilterQuery.Proofs.Entries
import FilterQuery.Proofs.Field.Cache

/-!
# Field capabilities

What a field capabilities response says about fields. A cache that loads one knows this afterwards,
and about all other fields what it knew before. Main statement: `Cache.populate_writes`.
-/

set_option autoImplicit false

namespace FilterQuery.Field

/-- A response is an object that has these fields as its object `fields`. -/
def Lists (response : Json) (fields : Json.Members) : Prop :=
  ∃ members : Json.Members, response = .obj members ∧ members.get? "fields" = some (.obj fields)

/-- A list of fields has an entry for a field that is an object with a first type. -/
def Describes (fields : Json.Members) (field : String) : Prop :=
  ∃ type capabilities more, (field, .obj ((type, capabilities) :: more)) ∈ fields

theorem mem_describedNames_iff {fields : Json.Members} {field : String} :
    field ∈ Cache.describedNames fields ↔ Describes fields field := by
  simp only [Cache.describedNames, List.mem_filterMap]
  constructor
  · rintro ⟨⟨name, types⟩, among, described⟩
    cases types with
    | obj members =>
        cases members with
        | nil => cases described
        | cons first more =>
            obtain ⟨type, capabilities⟩ := first
            cases described
            exact ⟨type, capabilities, more, among⟩
    | _ => cases described
  · rintro ⟨type, capabilities, more, among⟩
    exact ⟨_, among, rfl⟩

/-- What is said about a type under a name, if it is given an object. -/
def said? (capabilities : Json) (name : String) : Option Json :=
  capabilities.members?.bind fun members => members.get? name

/-- The metadata of a field whose first type has these capabilities. What they say of the type counts,
whatever it is. A type is searchable unless something else is said, and aggregatable only if this is
said. -/
structure IsMetadataOf (type : String) (capabilities : Json) (metadata : Metadata) : Prop where
  inactive : metadata.active = false
  type_of_said : ∀ value, said? capabilities "type" = some value → metadata.type = value
  type_of_unsaid : said? capabilities "type" = none → metadata.type = .str type
  searchable_iff : metadata.searchable = true ↔
    ∀ value, said? capabilities "searchable" = some value → value.isTrue = true
  aggregatable_iff : metadata.aggregatable = true ↔
    ∃ value, said? capabilities "aggregatable" = some value ∧ value.isTrue = true

/-- A cache has taken in a list of fields: it knows what is said about the described ones, which are
as many as were counted, and about any other field what it knew before. -/
structure HasLoaded (fields : Json.Members) (before after : Cache) (count : Nat) : Prop where
  described : ∀ field type capabilities more,
    (field, .obj ((type, capabilities) :: more)) ∈ fields →
      ∃ metadata, after.get? field = some metadata ∧ IsMetadataOf type capabilities metadata
  kept : ∀ field, ¬Describes fields field → after.get? field = before.get? field
  counted : ∃ written : List String, written.Nodup ∧
    (∀ field, field ∈ written ↔ Describes fields field) ∧ written.length = count

namespace Cache

variable {response types : Json} {fields others : Json.Members} {cache : Cache} {field : String}
  {metadata : Metadata}

theorem isMetadataOf_typeMetadata (type : String) (capabilities : Json) :
    IsMetadataOf type capabilities (typeMetadata type capabilities) := by
  have member (name : String) : Entries.get? (capabilities.members?.getD []) name =
      said? capabilities name := by
    simp only [said?]
    cases capabilities.members? <;> rfl
  constructor
  · rfl
  · intro value said
    simp [typeMetadata, member, said]
  · intro unsaid
    simp [typeMetadata, member, unsaid]
  · simp only [typeMetadata, member]
    cases said? capabilities "searchable" <;> simp
  · simp only [typeMetadata, member]
    cases said? capabilities "aggregatable" <;> simp

theorem populate_of_lists (lists : Lists response fields) (cache : Cache) :
    cache.populate response = .ok (storeAll fields cache) := by
  obtain ⟨members, rfl, listed⟩ := lists
  simp only [populate, Json.members?, Option.bind_some, listed]

theorem populate_eq_error_iff :
    cache.populate response = .error .noFields ↔ ¬∃ fields, Lists response fields := by
  constructor
  · rintro refused ⟨fields, lists⟩
    cases (populate_of_lists lists cache).symm.trans refused
  · intro unlisted
    simp only [populate]
    split
    · rfl
    · next fields found =>
        obtain ⟨listed, found, isObject⟩ := Option.bind_eq_some_iff.mp found
        obtain ⟨members, isMembers, found⟩ := Option.bind_eq_some_iff.mp found
        cases response <;> cases isMembers
        cases listed <;> cases isObject
        exact absurd ⟨fields, members, rfl, found⟩ unlisted

/-! ## Storing a list of fields -/

theorem describedNames_sublist (fields : Json.Members) :
    (describedNames fields).Sublist (Entries.names fields) := by
  induction fields with
  | nil => exact .slnil
  | cons entry rest ih =>
      obtain ⟨name, types⟩ := entry
      simp only [describedNames, List.filterMap_cons, Entries.names_cons]
      cases described? types with
      | none => exact ih.cons name
      | some metadata => exact ih.cons_cons name

theorem storeAll_count (fields : Json.Members) (cache : Cache) :
    (storeAll fields cache).2 = (describedNames fields).length := by
  induction fields generalizing cache with
  | nil => rfl
  | cons entry rest ih =>
      obtain ⟨name, types⟩ := entry
      simp only [storeAll, describedNames, List.filterMap_cons]
      cases described? types with
      | none => exact ih cache
      | some metadata => exact congrArg (· + 1) (ih (cache.set name metadata))

theorem get?_storeAll_of_described (distinct : Entries.HasDistinctNames fields)
    (among : (field, types) ∈ fields) (described : described? types = some metadata) :
    (storeAll fields cache).1.get? field = some metadata := by
  induction fields generalizing cache with
  | nil => cases among
  | cons entry rest ih =>
      obtain ⟨apart, distinct⟩ := List.nodup_cons.mp distinct
      rcases List.mem_cons.mp among with rfl | among
      · have later : field ∉ describedNames rest := fun member =>
          apart ((describedNames_sublist rest).mem member)
        simp only [storeAll, described]
        rw [get?_storeAll_of_not_mem later, get?_set_self]
      · simp only [storeAll]
        split <;> exact ih distinct among

/-- What is known already is not changed by storing it. -/
theorem storeAll_of_known (known : ∀ field types metadata, (field, types) ∈ fields →
    described? types = some metadata → cache.get? field = some metadata) :
    (storeAll fields cache).1 = cache := by
  induction fields with
  | nil => rfl
  | cons entry rest ih =>
      obtain ⟨name, types⟩ := entry
      have others := ih fun field types metadata among =>
        known field types metadata (List.mem_cons_of_mem _ among)
      simp only [storeAll]
      split
      · exact others
      · next metadata described =>
          have held := known name types metadata List.mem_cons_self described
          rw [set, Entries.put_of_get? held]
          exact others

theorem get?_storeAll_perm (perm : fields.Perm others)
    (distinct : Entries.HasDistinctNames fields) (cache : Cache) (field : String) :
    (storeAll others cache).1.get? field = (storeAll fields cache).1.get? field := by
  have sameNames : (describedNames fields).Perm (describedNames others) := perm.filterMap _
  have otherDistinct : Entries.HasDistinctNames others := (perm.map _).nodup_iff.mp distinct
  by_cases member : field ∈ describedNames fields
  · obtain ⟨⟨name, types⟩, among, named⟩ := List.mem_filterMap.mp member
    obtain ⟨metadata, described, rfl⟩ := Option.map_eq_some_iff.mp named
    rw [get?_storeAll_of_described distinct among described,
      get?_storeAll_of_described otherDistinct (perm.mem_iff.mp among) described]
  · rw [get?_storeAll_of_not_mem member,
      get?_storeAll_of_not_mem (mt sameNames.mem_iff.mpr member)]

theorem hasLoaded_storeAll (distinct : Entries.HasDistinctNames fields) (cache : Cache) :
    HasLoaded fields cache (storeAll fields cache).1 (storeAll fields cache).2 where
  described _ type capabilities _ among :=
    ⟨_, get?_storeAll_of_described distinct among rfl, isMetadataOf_typeMetadata type capabilities⟩
  kept _ undescribed := get?_storeAll_of_not_mem (mt mem_describedNames_iff.mp undescribed)
  counted := ⟨describedNames fields, distinct.sublist (describedNames_sublist fields),
    fun _ => mem_describedNames_iff, (storeAll_count fields cache).symm⟩

theorem storeAll_again (distinct : Entries.HasDistinctNames fields) (cache : Cache) :
    storeAll fields (storeAll fields cache).1 = storeAll fields cache := by
  refine Prod.ext (storeAll_of_known fun _ _ _ among described => ?_) ?_
  · exact get?_storeAll_of_described distinct among described
  · rw [storeAll_count, storeAll_count]

/-- A response that lists no fields is refused, and gives no new cache. Any other one is loaded: into
the entries of the fields that it describes and no others, to no further effect when it is loaded
again, and in whatever order it lists the fields. -/
theorem populate_writes (response : Json) (cache : Cache) :
    (cache.populate response = .error .noFields ↔ ¬∃ fields, Lists response fields) ∧
    ∀ fields, Lists response fields → Entries.HasDistinctNames fields → ∃ after count,
      cache.populate response = .ok (after, count) ∧ HasLoaded fields cache after count ∧
      after.populate response = .ok (after, count) ∧
      ∀ other others, Lists other others → fields.Perm others → ∃ loaded,
        cache.populate other = .ok (loaded, count) ∧
        ∀ field, loaded.get? field = after.get? field := by
  refine ⟨populate_eq_error_iff, fun fields lists distinct => ?_⟩
  refine ⟨_, _, populate_of_lists lists cache, hasLoaded_storeAll distinct cache, ?_, ?_⟩
  · rw [populate_of_lists lists, storeAll_again distinct]
  · intro other others otherLists perm
    have sameNames : (describedNames fields).Perm (describedNames others) := perm.filterMap _
    refine ⟨(storeAll others cache).1, ?_, get?_storeAll_perm perm distinct cache⟩
    rw [populate_of_lists otherLists, storeAll_count fields, sameNames.length_eq,
      ← storeAll_count others cache]

/-- Fields of which the second has two types, the third a type that is no name, and the last two
none. -/
def census : Json.Members := Entries.ofPairs
  [("note", .obj [("text", .null)]),
    ("code", .obj [("long", .obj [("type", .str "integer"), ("searchable", .int 0)]),
      ("keyword", .obj [])]),
    ("odd", .obj [("float", .obj [("type", .null)])]),
    ("empty", .obj []), ("kept", .arr [])]

def censusResponse : Json := .obj [("indices", .arr []), ("fields", .obj census)]

def beforeCensus : Cache := ⟨[("kept", .keyword), ("code", ⟨.str "date", true, true, true⟩)]⟩

theorem populate_writes_census :
    Lists censusResponse census ∧ Entries.HasDistinctNames census ∧ ∃ after,
      beforeCensus.populate censusResponse = .ok (after, 3) ∧
      HasLoaded census beforeCensus after 3 ∧
      after.get? "note" = some ⟨.str "text", true, false, false⟩ ∧
      after.get? "code" = some ⟨.str "integer", false, false, false⟩ ∧
      after.get? "odd" = some ⟨.null, true, false, false⟩ ∧
      after.get? "kept" = some .keyword := by
  have lists : Lists censusResponse census := ⟨_, rfl, rfl⟩
  have distinct : Entries.HasDistinctNames census := Entries.hasDistinctNames_ofPairs _
  obtain ⟨after, count, populated, loaded, -⟩ :=
    (populate_writes censusResponse beforeCensus).2 census lists distinct
  cases populated
  exact ⟨lists, distinct, _, rfl, loaded, rfl, rfl, rfl, rfl⟩

end Cache

end FilterQuery.Field
