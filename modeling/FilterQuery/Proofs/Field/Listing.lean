import FilterQuery.Field.Path
import FilterQuery.Proofs.Json.Decoding
import FilterQuery.Proofs.Json.Reading
import FilterQuery.Proofs.Text.Order
import Mathlib.Data.List.Nodup

/-!
# Listing the leaves of a document

The fields of a document are the chains of names that lead to its leaves, written with dots between
the names and listed in order. Main statement: `Field.paths_listLeaves`.
-/

set_option autoImplicit false

namespace FilterQuery

namespace Json

/-- A chain of names leads from a value through the members of objects to one that is no object. -/
inductive LeadsToLeaf : Json → List String → Prop where
  | here {value : Json} : value.members? = none → LeadsToLeaf value []
  | member {members : Members} {name : String} {value : Json} {chain : List String} :
      (name, value) ∈ members → LeadsToLeaf value chain →
      LeadsToLeaf (.obj members) (name :: chain)

/-- The members of objects stand in another order, or members without leaves are left out. -/
inductive Rearranges : Json → Json → Prop where
  | order {members others : Members} : members.Perm others →
      Rearranges (.obj members) (.obj others)
  | leafless {before after : Members} {name : String} {value : Json} :
      (∀ chain, ¬LeadsToLeaf value chain) →
      Rearranges (.obj (before ++ (name, value) :: after)) (.obj (before ++ after))
  | member {before after : Members} {name : String} {value other : Json} :
      Rearranges value other →
      Rearranges (.obj (before ++ (name, value) :: after)) (.obj (before ++ (name, other) :: after))
  | item {before after : List Json} {value other : Json} : Rearranges value other →
      Rearranges (.arr (before ++ value :: after)) (.arr (before ++ other :: after))
  | trans {first middle last : Json} : Rearranges first middle → Rearranges middle last →
      Rearranges first last

mutual

/-- The chains of names that lead to leaves, one for each leaf. -/
def leafChains : Json → List (List String)
  | .obj members => memberChains members
  | _ => [[]]

def memberChains : List (String × Json) → List (List String)
  | [] => []
  | (name, value) :: rest => (leafChains value).map (name :: ·) ++ memberChains rest

end

variable {value other : Json} {chain : List String}

theorem memberChains_eq_flatMap (members : Members) :
    memberChains members =
      members.flatMap fun member => (leafChains member.2).map (member.1 :: ·) := by
  induction members with
  | nil => rfl
  | cons member rest ih => rw [memberChains, List.flatMap_cons, ih]

theorem mem_leafChains_iff : chain ∈ leafChains value ↔ LeadsToLeaf value chain := by
  induction value using deepInduction generalizing chain with
  | null | bool | int | float | str | arr =>
      constructor
      · intro member
        obtain rfl := List.mem_singleton.mp member
        exact .here rfl
      · intro leads
        cases leads
        exact List.mem_singleton.mpr rfl
  | obj members ih =>
      simp only [leafChains, memberChains_eq_flatMap, List.mem_flatMap, List.mem_map]
      constructor
      · rintro ⟨member, among, rest, leads, rfl⟩
        exact .member among ((ih member among).mp leads)
      · intro leads
        cases leads with
        | here impossible => cases impossible
        | member among leads => exact ⟨_, among, _, (ih _ among).mpr leads, rfl⟩

/-- In an object without repeated names no two leaves have the same chain. -/
theorem nodup_leafChains (decoded : IsDecoded value) : (leafChains value).Nodup := by
  induction decoded with
  | null | bool | int | float | str | arr => exact List.pairwise_singleton _ _
  | @obj members distinct _ ih =>
      rw [leafChains, memberChains_eq_flatMap, List.nodup_flatMap]
      refine ⟨fun member among => ?_, ?_⟩
      · exact (ih member among).map fun _ _ same => (List.cons.inj same).2
      · refine (List.pairwise_map.mp distinct).imp fun {first second} apart => ?_
        intro chain inFirst inSecond
        obtain ⟨_, _, rfl⟩ := List.mem_map.mp inFirst
        obtain ⟨_, _, same⟩ := List.mem_map.mp inSecond
        exact apart (List.cons.inj same).1.symm

theorem leafChains_eq_nil (leafless : ∀ chain, ¬LeadsToLeaf value chain) : leafChains value = [] :=
  List.eq_nil_iff_forall_not_mem.mpr fun chain member => leafless chain (mem_leafChains_iff.mp member)

/-- Chains are found member by member, so their order is all that an arrangement can change. -/
theorem Rearranges.perm_leafChains (rearranges : Rearranges value other) :
    (leafChains value).Perm (leafChains other) := by
  induction rearranges with
  | order perm =>
      simp only [leafChains, memberChains_eq_flatMap]
      exact perm.flatMap_right _
  | leafless noLeaf =>
      simp only [leafChains, memberChains_eq_flatMap, List.flatMap_append, List.flatMap_cons,
        leafChains_eq_nil noLeaf, List.map_nil, List.nil_append]
      exact .refl _
  | member _ ih =>
      simp only [leafChains, memberChains_eq_flatMap, List.flatMap_append, List.flatMap_cons]
      exact ((ih.map _).append_right _).append_left _
  | item => exact .refl _
  | trans _ _ first later => exact first.trans later

end Json

namespace Field

open Json

/-- How the chain of a leaf is written: with dots between the names, without empty names before the
first other one. -/
def dotted (chain : List String) : String :=
  ".".intercalate (chain.dropWhile (· = ""))

theorem below_empty (name : String) : below "" name = name := rfl

theorem below_of_ne {path : String} (ne : path ≠ "") (name : String) :
    below path name = path ++ "." ++ name :=
  if_neg ne

theorem foldl_below {path : String} (ne : path ≠ "") (chain : List String) :
    chain.foldl below path = ".".intercalate (path :: chain) := by
  induction chain generalizing path with
  | nil => rfl
  | cons name chain ih =>
      have filled : path ++ "." ++ name ≠ "" := by simp
      rw [List.foldl_cons, below_of_ne ne, ih filled]
      rfl

/-- The empty path stands for the root, so names are dropped as long as the path stays empty. -/
theorem foldl_below_root (chain : List String) : chain.foldl below "" = dotted chain := by
  induction chain with
  | nil => rfl
  | cons name chain ih =>
      rw [List.foldl_cons, below_empty]
      by_cases empty : name = ""
      · simpa [empty, dotted] using ih
      · simp only [dotted, List.dropWhile_cons, empty, decide_false, Bool.false_eq_true, ↓reduceIte]
        exact foldl_below empty chain

theorem memberPaths_eq_map {members : Members} (path : String)
    (each : ∀ member ∈ members, ∀ path, leafPaths path member.2 =
      (leafChains member.2).map fun chain => chain.foldl below path) :
    memberPaths path members =
      (memberChains members).map fun chain => chain.foldl below path := by
  induction members with
  | nil => rfl
  | cons member rest ih =>
      obtain ⟨first, others⟩ := List.forall_mem_cons.mp each
      rw [memberPaths, memberChains, List.map_append, List.map_map, first, ih others]
      rfl

theorem leafPaths_eq_map (path : String) (value : Json) :
    leafPaths path value = (leafChains value).map fun chain => chain.foldl below path := by
  induction value using deepInduction generalizing path with
  | null | bool | int | float | str | arr => rfl
  | obj members ih => exact memberPaths_eq_map path fun member among path => ih member among path

theorem paths_eq (document : Document) :
    paths document = Text.sorted ((leafChains (.obj document)).map dotted) := by
  have collected := leafPaths_eq_map "" (.obj document)
  simp only [foldl_below_root] at collected
  exact congrArg Text.sorted collected

/-- The fields of a document are its leaves, each under the chain of names that leads to it, in order
of the code points. How the members of its objects are arranged does not matter. -/
theorem paths_listLeaves (document : Document) :
    (paths document).Pairwise (· ≤ ·) ∧
    ((Json.obj document).IsDecoded → ∃ chains : List (List String), chains.Nodup ∧
      (∀ chain, chain ∈ chains ↔ LeadsToLeaf (.obj document) chain) ∧
      (paths document).Perm (chains.map dotted)) ∧
    ∀ other : Document, Rearranges (.obj document) (.obj other) → paths other = paths document := by
  refine ⟨Text.pairwise_sorted _, fun decoded => ?_, fun other rearranges => ?_⟩
  · refine ⟨leafChains (.obj document), nodup_leafChains decoded, fun _ => mem_leafChains_iff, ?_⟩
    rw [paths_eq]
    exact Text.perm_sorted _
  · rw [paths_eq, paths_eq]
    exact Text.sorted_eq_of_perm (rearranges.perm_leafChains.symm.map dotted)

/-- A document in which two leaves are written alike, and one stands below empty names. -/
def crossing : Document :=
  [("a.b", .int 1), ("", .obj [("", .obj [("c", .null)])]),
    ("a", .obj [("meta", .obj []), ("b", .arr [])])]

def uncrossed : Document :=
  [("a", .obj [("b", .arr [])]), ("a.b", .int 1), ("", .obj [("", .obj [("c", .null)])])]

theorem paths_listLeaves_crossing :
    (Json.obj crossing).IsDecoded ∧ Rearranges (.obj crossing) (.obj uncrossed) ∧
      paths uncrossed = paths crossing ∧ paths crossing = ["a.b", "a.b", "c"] ∧
      ∃ chains : List (List String), chains.Nodup ∧
        (∀ chain, chain ∈ chains ↔ LeadsToLeaf (.obj crossing) chain) ∧
        (paths crossing).Perm (chains.map dotted) := by
  have noMember {motive : String × Json → Prop} : ∀ member ∈ ([] : Members), motive member :=
    fun _ member => absurd member List.not_mem_nil
  have decoded : (Json.obj crossing).IsDecoded := by
    have inner : (Json.obj [("", .obj [("c", .null)])]).IsDecoded :=
      .obj (by decide) (List.forall_mem_singleton.mpr
        (.obj (by decide) (List.forall_mem_singleton.mpr .null)))
    have last : (Json.obj [("meta", .obj []), ("b", .arr [])]).IsDecoded :=
      .obj (by decide) (List.forall_mem_cons.mpr ⟨.obj .nil noMember,
        List.forall_mem_singleton.mpr (.arr fun _ item => absurd item List.not_mem_nil)⟩)
    exact .obj (by decide) (List.forall_mem_cons.mpr ⟨.int, List.forall_mem_cons.mpr
      ⟨inner, List.forall_mem_singleton.mpr last⟩⟩)
  have noLeaf (chain : List String) : ¬LeadsToLeaf (.obj []) chain := by
    rintro (⟨⟨⟩⟩ | ⟨⟨⟩, -⟩)
  have thinned : Rearranges
      (.obj ([("a.b", .int 1), ("", .obj [("", .obj [("c", .null)])])] ++
        ("a", .obj ([] ++ ("meta", .obj []) :: [("b", .arr [])])) :: []))
      (.obj ([("a.b", .int 1), ("", .obj [("", .obj [("c", .null)])])] ++
        ("a", .obj ([] ++ [("b", .arr [])])) :: [])) :=
    .member (.leafless noLeaf)
  have rearranges : Rearranges (.obj crossing) (.obj uncrossed) :=
    .trans thinned (.order List.perm_append_comm)
  obtain ⟨-, listed, kept⟩ := paths_listLeaves crossing
  exact ⟨decoded, rearranges, kept uncrossed rearranges, by decide +kernel, listed decoded⟩

end Field

end FilterQuery
