import FilterQuery.Field.Path
import FilterQuery.Proofs.Json.Reading

/-!
# Leaves of documents

The paths that are collected from a document are those of its leaves, however deep they lie. Main
statement: `Field.mem_found_iff`.
-/

set_option autoImplicit false

namespace FilterQuery.Field

/-- A value that stands at a path has a leaf at another one: the value itself, unless it is an
object, or a leaf of one of its members. -/
inductive HasLeaf : (path : String) → Json → (field : String) → Prop where
  | here {path : String} {value : Json} : value.members? = none → HasLeaf path value path
  | member {path name field : String} {members : Json.Members} {value : Json} :
      (name, value) ∈ members → HasLeaf (below path name) value field →
      HasLeaf path (.obj members) field

theorem mem_memberPaths_iff {path field : String} {members : Json.Members} :
    field ∈ memberPaths path members ↔
      ∃ member ∈ members, field ∈ leafPaths (below path member.1) member.2 := by
  induction members with
  | nil => simp [memberPaths]
  | cons member rest ih => simp [memberPaths, ih]

theorem hasLeaf_iff_of_not_object {path field : String} {value : Json}
    (leaf : value.members? = none) : HasLeaf path value field ↔ field = path := by
  constructor
  · intro has
    cases has with
    | here => rfl
    | member => cases leaf
  · rintro rfl
    exact .here leaf

theorem mem_leafPaths_iff {path field : String} {value : Json} :
    field ∈ leafPaths path value ↔ HasLeaf path value field := by
  induction value using Json.deepInduction generalizing path with
  | null | bool | int | float | str | arr =>
      rw [hasLeaf_iff_of_not_object rfl]
      exact List.mem_singleton
  | obj members ih =>
      rw [leafPaths, mem_memberPaths_iff]
      constructor
      · rintro ⟨member, among, has⟩
        exact .member among ((ih member among).mp has)
      · intro has
        cases has with
        | here impossible => cases impossible
        | member among has => exact ⟨_, among, (ih _ among).mpr has⟩

theorem mem_found_iff {documents : List Document} {field : String} :
    field ∈ found documents ↔ ∃ document ∈ documents, HasLeaf "" (.obj document) field := by
  simp only [found, Text.mem_distinct, List.mem_flatMap, ← mem_leafPaths_iff, leafPaths]

end FilterQuery.Field
