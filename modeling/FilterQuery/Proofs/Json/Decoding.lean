import FilterQuery.Json.Reader
import FilterQuery.Proofs.Entries
import FilterQuery.Proofs.Outcome

/-!
# Names in decoded objects

A text is read as a value in whose objects no name is there twice. Main statement:
`Json.read_isDecoded`.
-/

set_option autoImplicit false

namespace FilterQuery.Json

/-- No name is there twice in any object of a value. -/
inductive IsDecoded : Json → Prop where
  | null : IsDecoded .null
  | bool {value : Bool} : IsDecoded (.bool value)
  | int {value : Int} : IsDecoded (.int value)
  | float {value : Binary64} : IsDecoded (.float value)
  | str {text : String} : IsDecoded (.str text)
  | arr {items : List Json} : (∀ item ∈ items, IsDecoded item) → IsDecoded (.arr items)
  | obj {members : Members} : members.HasDistinctNames →
      (∀ member ∈ members, IsDecoded member.2) → IsDecoded (.obj members)

variable {text rest : List Char} {value : Json}

theorem isDecoded_ofPairs {members : List (String × Json)}
    (decoded : ∀ member ∈ members, IsDecoded member.2) :
    IsDecoded (.obj (Entries.ofPairs members)) := by
  refine .obj (Entries.hasDistinctNames_ofPairs members) fun member among => ?_
  obtain ⟨pair, paired, same⟩ := Entries.of_mem_ofPairs among
  exact same ▸ decoded pair paired

theorem isDecoded_of_readScalar (isRead : readScalar text = .ok (value, rest)) :
    IsDecoded value := by
  have unsigned {negative : Bool} {text : List Char}
      (isRead : readUnsigned negative text = .ok (value, rest)) : IsDecoded value := by
    simp only [readUnsigned] at isRead
    split at isRead
    · cases isRead
    · split at isRead
      · split at isRead
        · cases isRead
        · cases isRead
          exact .int
      · split at isRead
        · cases isRead
          exact .float
        · cases isRead
  simp only [readScalar] at isRead
  split at isRead
  · next name literal found =>
      cases isRead
      have among := List.mem_of_find?_eq_some found
      simp only [literals, List.mem_cons, Prod.mk.injEq, List.not_mem_nil, or_false] at among
      rcases among with ⟨-, rfl⟩ | ⟨-, rfl⟩ | ⟨-, rfl⟩ | ⟨-, rfl⟩ | ⟨-, rfl⟩ | ⟨-, rfl⟩
      · exact .null
      · exact .bool
      · exact .bool
      · exact .float
      · exact .float
      · exact .float
  · split at isRead
    · exact unsigned isRead
    · exact unsigned isRead

mutual

theorem isDecoded_of_readValue {text rest : List Char} {value : Json} :
    (fuel : Nat) → readValue fuel text = .ok (value, rest) → IsDecoded value
  | 0, isRead => by cases isRead
  | fuel + 1, isRead => by
      unfold readValue at isRead
      split at isRead
      · obtain ⟨_, -, returned⟩ := bind_eq_ok_iff.mp isRead
        cases returned
        exact .str
      · split at isRead
        · cases isRead
          exact .arr fun _ member => absurd member List.not_mem_nil
        · obtain ⟨_, readItems, returned⟩ := bind_eq_ok_iff.mp isRead
          cases returned
          exact .arr (isDecoded_of_readItems fuel readItems)
      · split at isRead
        · cases isRead
          exact .obj .nil fun _ member => absurd member List.not_mem_nil
        · obtain ⟨_, readMembers, returned⟩ := bind_eq_ok_iff.mp isRead
          cases returned
          exact isDecoded_ofPairs (isDecoded_of_readMembers fuel readMembers)
      · exact isDecoded_of_readScalar isRead

theorem isDecoded_of_readItems {text rest : List Char} {items : List Json} :
    (fuel : Nat) → readItems fuel text = .ok (items, rest) → ∀ item ∈ items, IsDecoded item
  | 0, isRead => by cases isRead
  | fuel + 1, isRead => by
      unfold readItems at isRead
      obtain ⟨⟨first, after⟩, readFirst, isRead⟩ := bind_eq_ok_iff.mp isRead
      have decodedFirst := isDecoded_of_readValue fuel readFirst
      dsimp only at isRead
      split at isRead
      · cases isRead
        exact List.forall_mem_singleton.mpr decodedFirst
      · obtain ⟨_, readRest, returned⟩ := bind_eq_ok_iff.mp isRead
        cases returned
        exact List.forall_mem_cons.mpr ⟨decodedFirst, isDecoded_of_readItems fuel readRest⟩
      · cases isRead

theorem isDecoded_of_readMembers {text rest : List Char} {members : List (String × Json)} :
    (fuel : Nat) → readMembers fuel text = .ok (members, rest) →
      ∀ member ∈ members, IsDecoded member.2
  | 0, isRead => by cases isRead
  | fuel + 1, isRead => by
      unfold readMembers at isRead
      split at isRead
      · obtain ⟨_, -, isRead⟩ := bind_eq_ok_iff.mp isRead
        dsimp only at isRead
        split at isRead
        · obtain ⟨⟨first, after⟩, readFirst, isRead⟩ := bind_eq_ok_iff.mp isRead
          have decodedFirst := isDecoded_of_readValue fuel readFirst
          dsimp only at isRead
          split at isRead
          · cases isRead
            exact List.forall_mem_singleton.mpr decodedFirst
          · obtain ⟨_, readRest, returned⟩ := bind_eq_ok_iff.mp isRead
            cases returned
            exact List.forall_mem_cons.mpr ⟨decodedFirst, isDecoded_of_readMembers fuel readRest⟩
          · cases isRead
        · cases isRead
      · cases isRead

end

/-- What a text is read as has no object with a name twice. -/
theorem read_isDecoded {text : String} (isRead : read text = .ok value) : IsDecoded value := by
  obtain ⟨⟨first, after⟩, readFirst, isRead⟩ := bind_eq_ok_iff.mp isRead
  dsimp only at isRead
  split at isRead
  · cases isRead
    exact isDecoded_of_readValue _ readFirst
  · cases isRead

end FilterQuery.Json
