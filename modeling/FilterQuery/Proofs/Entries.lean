import FilterQuery.Entries

/-!
# Entries with distinct names

An object that is decoded from a list of pairs has no name twice, and its values come from the list.
Putting a value again that a name has already changes nothing.
-/

set_option autoImplicit false

namespace FilterQuery.Entries

variable {α : Type} {entries : Entries α} {name : String} {value : α}

/-- No name is there twice. -/
def HasDistinctNames (entries : Entries α) : Prop :=
  entries.names.Nodup

instance : Decidable entries.HasDistinctNames :=
  inferInstanceAs (Decidable entries.names.Nodup)

@[simp]
theorem names_cons (entry : String × α) (rest : Entries α) :
    names (entry :: rest) = entry.1 :: names rest := rfl

theorem names_put (entries : Entries α) (name : String) (value : α) :
    (entries.put name value).names =
      if name ∈ entries.names then entries.names else entries.names ++ [name] := by
  induction entries with
  | nil => rfl
  | cons entry rest ih =>
      simp only [put]
      split
      · next same => simp [same]
      · next other =>
          simp only [names_cons, List.mem_cons, Ne.symm other, false_or, ih]
          exact apply_ite (List.cons entry.1) _ _ _

theorem HasDistinctNames.put (distinct : entries.HasDistinctNames) (name : String) (value : α) :
    (entries.put name value).HasDistinctNames := by
  rw [HasDistinctNames, names_put]
  split
  · exact distinct
  · next absent =>
      refine List.nodup_append.mpr ⟨distinct, List.pairwise_singleton _ _, ?_⟩
      rintro other member _ added rfl
      exact absent (List.mem_singleton.mp added ▸ member)

theorem of_mem_put {entry : String × α} (member : entry ∈ entries.put name value) :
    entry.2 = value ∨ ∃ other ∈ entries, other.2 = entry.2 := by
  induction entries with
  | nil => exact .inl (congrArg Prod.snd (List.mem_singleton.mp member))
  | cons head rest ih =>
      rw [put] at member
      split at member
      · rcases List.mem_cons.mp member with rfl | member
        · exact .inl rfl
        · exact .inr ⟨entry, List.mem_cons_of_mem _ member, rfl⟩
      · rcases List.mem_cons.mp member with rfl | member
        · exact .inr ⟨_, List.mem_cons_self, rfl⟩
        · rcases ih member with same | ⟨other, among, same⟩
          · exact .inl same
          · exact .inr ⟨other, List.mem_cons_of_mem _ among, same⟩

theorem hasDistinctNames_ofPairs (pairs : List (String × α)) :
    (ofPairs pairs).HasDistinctNames :=
  List.foldlRecOn (motive := HasDistinctNames) pairs _ .nil fun _ distinct pair _ =>
    distinct.put pair.1 pair.2

/-- What entries hold comes from the pairs that were put there. -/
theorem of_mem_ofPairs {pairs : List (String × α)} {entry : String × α}
    (member : entry ∈ ofPairs pairs) : ∃ pair ∈ pairs, pair.2 = entry.2 := by
  have held : ∀ entry ∈ ofPairs pairs, ∃ pair ∈ pairs, pair.2 = entry.2 := by
    refine List.foldlRecOn (motive := fun entries : Entries α => ∀ entry ∈ entries,
      ∃ pair ∈ pairs, pair.2 = entry.2) pairs _ (fun _ member => absurd member List.not_mem_nil) ?_
    intro entries held pair among entry member
    rcases of_mem_put member with same | ⟨other, among, same⟩
    · exact ⟨pair, among, same.symm⟩
    · exact same ▸ held other among
  exact held entry member

theorem put_of_get? (known : entries.get? name = some value) : entries.put name value = entries := by
  induction entries with
  | nil => cases known
  | cons entry rest ih =>
      obtain ⟨key, old⟩ := entry
      simp only [get?, put] at known ⊢
      split at known
      · next same =>
          cases known
          simp [same]
      · next other => simp [other, ih known]

end FilterQuery.Entries
