import FilterQuery.Proofs.Outcome
import FilterQuery.Yaml.Reader

/-!
# Keys of decoded mappings

A text is read as a value in whose mappings no two keys are equal. Main statement:
`Yaml.read_isDecoded`.
-/

set_option autoImplicit false

namespace FilterQuery.Yaml

variable {key value : Yaml} {entries : List (Yaml × Yaml)}

theorem of_mem_putEntry {entry : Yaml × Yaml} (member : entry ∈ putEntry key value entries) :
    (entry.1 = key ∨ ∃ other ∈ entries, other.1 = entry.1) ∧
      (entry.2 = value ∨ ∃ other ∈ entries, other.2 = entry.2) := by
  induction entries with
  | nil =>
      obtain rfl := List.mem_singleton.mp member
      exact ⟨.inl rfl, .inl rfl⟩
  | cons head rest ih =>
      rw [putEntry] at member
      split at member
      · rcases List.mem_cons.mp member with rfl | member
        · exact ⟨.inr ⟨head, List.mem_cons_self, rfl⟩, .inl rfl⟩
        · exact ⟨.inr ⟨entry, List.mem_cons_of_mem _ member, rfl⟩,
            .inr ⟨entry, List.mem_cons_of_mem _ member, rfl⟩⟩
      · rcases List.mem_cons.mp member with rfl | member
        · exact ⟨.inr ⟨_, List.mem_cons_self, rfl⟩, .inr ⟨_, List.mem_cons_self, rfl⟩⟩
        · exact (ih member).imp
            (Or.imp_right fun ⟨other, among, same⟩ => ⟨other, List.mem_cons_of_mem _ among, same⟩)
            (Or.imp_right fun ⟨other, among, same⟩ => ⟨other, List.mem_cons_of_mem _ among, same⟩)

theorem HasDistinctKeys.putEntry (distinct : HasDistinctKeys entries) (key value : Yaml) :
    HasDistinctKeys (putEntry key value entries) := by
  induction entries with
  | nil => exact List.pairwise_singleton _ _
  | cons head rest ih =>
      obtain ⟨apart, distinct⟩ := List.pairwise_cons.mp distinct
      rw [Yaml.putEntry]
      split
      · exact List.pairwise_cons.mpr ⟨apart, distinct⟩
      · next other =>
          refine List.pairwise_cons.mpr ⟨fun entry member => ?_, ih distinct⟩
          rcases (of_mem_putEntry member).1 with same | ⟨entry, among, same⟩
          · rw [same]
            exact Bool.eq_false_iff.mpr other
          · rw [← same]
            exact apart entry among

theorem isDecoded_ofPairs (decoded : ∀ entry ∈ entries, IsDecoded entry.2) :
    IsDecoded (ofPairs entries) := by
  have step {map : List (Yaml × Yaml)} (before : IsDecoded (.map map)) {entry : Yaml × Yaml}
      (added : IsDecoded entry.2) : IsDecoded (.map (putEntry entry.1 entry.2 map)) := by
    cases before with
    | map distinct values =>
        refine .map (distinct.putEntry _ _) fun other member => ?_
        rcases (of_mem_putEntry member).2 with same | ⟨old, among, same⟩
        · rwa [same]
        · exact same ▸ values old among
  refine List.foldlRecOn (motive := fun map => IsDecoded (.map map)) entries _
    (.map .nil fun _ member => absurd member List.not_mem_nil) fun map before entry member => ?_
  exact step before (decoded entry member)

theorem isDecoded_of_entries {result : List (Yaml × Yaml)} (decoded : IsDecoded value)
    (read : value.entries = .ok result) : ∀ entry ∈ result, IsDecoded entry.2 := by
  cases decoded with
  | map _ values =>
      cases read
      exact values
  | _ => cases read

theorem isDecoded_of_mergedEntries {result : List (Yaml × Yaml)} (decoded : IsDecoded value)
    (merged : mergedEntries value = .ok result) : ∀ entry ∈ result, IsDecoded entry.2 := by
  have each {items : List Yaml} {lists : List (List (Yaml × Yaml))}
      (decoded : ∀ item ∈ items, IsDecoded item) (read : items.mapM Yaml.entries = .ok lists) :
      ∀ entry ∈ lists.flatten, IsDecoded entry.2 := by
    induction items generalizing lists with
    | nil =>
        cases read
        exact fun _ member => absurd member List.not_mem_nil
    | cons item items ih =>
        rw [List.mapM_cons] at read
        obtain ⟨first, readFirst, read⟩ := bind_eq_ok_iff.mp read
        obtain ⟨rest, readRest, returned⟩ := bind_eq_ok_iff.mp read
        cases returned
        obtain ⟨decodedFirst, decodedRest⟩ := List.forall_mem_cons.mp decoded
        rw [List.flatten_cons]
        exact List.forall_mem_append.mpr
          ⟨isDecoded_of_entries decodedFirst readFirst, ih decodedRest readRest⟩
  cases decoded with
  | list items =>
      obtain ⟨lists, read, returned⟩ := bind_eq_ok_iff.mp merged
      cases returned
      exact each (fun item member => items item (List.mem_reverse.mp member)) read
  | map distinct values => exact isDecoded_of_entries (.map distinct values) merged
  | _ => cases merged

theorem isDecoded_of_ofPlain {text : String} (read : ofPlain text = .ok value) :
    IsDecoded value := by
  simp only [ofPlain] at read
  split at read
  · cases read
    exact .null
  · split at read
    · cases read
    · split at read
      · cases read
        exact .bool
      · cases read
        exact .float
      · obtain ⟨_, _, rfl⟩ := map_eq_ok_iff.mp (mapError_eq_ok_iff.mp read)
        exact .int
      · obtain ⟨_, _, rfl⟩ := map_eq_ok_iff.mp (mapError_eq_ok_iff.mp read)
        exact .time
      · cases read
        exact .str

mutual

theorem isDecoded_of_ofNode {value : Yaml} :
    (node : Node) → ofNode node = .ok value → IsDecoded value
  | .scalar text plain, read => by
      simp only [ofNode, ofScalar] at read
      split at read
      · exact isDecoded_of_ofPlain read
      · cases read
        exact .str
  | .sequence items, read => by
      rw [ofNode] at read
      obtain ⟨values, readItems, returned⟩ := bind_eq_ok_iff.mp read
      cases returned
      exact .list (isDecoded_of_ofNodes items readItems)
  | .mapping entries, read => by
      rw [ofNode] at read
      obtain ⟨⟨merged, own⟩, readEntries, returned⟩ := bind_eq_ok_iff.mp read
      cases returned
      exact isDecoded_ofPairs (isDecoded_of_ofEntries entries readEntries)

theorem isDecoded_of_ofNodes {values : List Yaml} :
    (nodes : List Node) → ofNodes nodes = .ok values → ∀ value ∈ values, IsDecoded value
  | [], read => by
      cases read
      exact fun _ member => absurd member List.not_mem_nil
  | node :: rest, read => by
      rw [ofNodes] at read
      obtain ⟨value, readNode, read⟩ := bind_eq_ok_iff.mp read
      obtain ⟨values, readRest, returned⟩ := bind_eq_ok_iff.mp read
      cases returned
      exact List.forall_mem_cons.mpr
        ⟨isDecoded_of_ofNode node readNode, isDecoded_of_ofNodes rest readRest⟩

theorem isDecoded_of_ofEntries {merged own : List (Yaml × Yaml)} :
    (entries : List (Node × Node)) → ofEntries entries = .ok (merged, own) →
      ∀ entry ∈ merged ++ own, IsDecoded entry.2
  | [], read => by
      cases read
      exact fun _ member => absurd member List.not_mem_nil
  | (key, value) :: rest, read => by
      rw [ofEntries] at read
      split at read
      · obtain ⟨mapping, readValue, read⟩ := bind_eq_ok_iff.mp read
        obtain ⟨added, readAdded, read⟩ := bind_eq_ok_iff.mp read
        obtain ⟨⟨laterMerged, laterOwn⟩, readRest, returned⟩ := bind_eq_ok_iff.mp read
        cases returned
        rw [List.append_assoc]
        exact List.forall_mem_append.mpr
          ⟨isDecoded_of_mergedEntries (isDecoded_of_ofNode value readValue) readAdded,
            isDecoded_of_ofEntries rest readRest⟩
      · obtain ⟨key, -, read⟩ := bind_eq_ok_iff.mp read
        obtain ⟨decoded, readValue, read⟩ := bind_eq_ok_iff.mp read
        obtain ⟨⟨laterMerged, laterOwn⟩, readRest, returned⟩ := bind_eq_ok_iff.mp read
        cases returned
        obtain ⟨decodedMerged, decodedOwn⟩ :=
          List.forall_mem_append.mp (isDecoded_of_ofEntries rest readRest)
        exact List.forall_mem_append.mpr ⟨decodedMerged,
          List.forall_mem_cons.mpr ⟨isDecoded_of_ofNode value readValue, decodedOwn⟩⟩

end

/-- What a document is read as has no mapping with two equal keys. -/
theorem read_isDecoded {text : String} (isRead : read text = .ok value) : IsDecoded value := by
  obtain ⟨tokens, -, rest⟩ := bind_eq_ok_iff.mp isRead
  split at rest
  · next node _ => exact isDecoded_of_ofNode node rest
  · cases rest

end FilterQuery.Yaml
