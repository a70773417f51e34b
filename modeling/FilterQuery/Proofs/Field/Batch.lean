import FilterQuery.Proofs.Field.Path
import FilterQuery.Proofs.Field.Selection

/-!
# Taking in a batch of documents

Of a batch of documents only the set of the fields that it shows counts. Main statement:
`Catalog.absorb_sameFields`.
-/

set_option autoImplicit false

namespace FilterQuery.Field

/-- A batch shows the fields of its documents. -/
def Shows (documents : List Document) (field : String) : Prop :=
  ∃ document ∈ documents, HasLeaf "" (.obj document) field

theorem found_eq_iff {first second : List Document} :
    found first = found second ↔ ∀ field, Shows first field ↔ Shows second field := by
  constructor
  · intro same field
    simp only [Shows, ← mem_found_iff, same]
  · intro same
    refine Text.eq_of_mem_iff (Text.pairwise_distinct _) (Text.pairwise_distinct _) fun field => ?_
    exact mem_found_iff.trans ((same field).trans mem_found_iff.symm)

namespace Selection

variable {selection : Selection} {documents : List Document}

/-- Actions have led from a new selection to this one. -/
def IsReached (selection : Selection) : Prop :=
  ∃ cache actions, (Catalog.run ⟨cache, .empty⟩ actions).selection = selection

theorem IsReached.isConsistent (reached : selection.IsReached) : selection.IsConsistent := by
  obtain ⟨cache, actions, rfl⟩ := reached
  exact Catalog.isConsistent_run isConsistent_empty actions

/-- A batch has been taken in: its fields are the discovered ones, the selected fields among them
stand in the order that they had, and the filter text is the same. -/
structure TakesIn (documents : List Document) (before after : Selection) : Prop where
  mem_discovered_iff : ∀ field, field ∈ after.discovered ↔ Shows documents field
  mem_selected_iff : ∀ field, field ∈ after.selected ↔
    field ∈ before.selected ∧ Shows documents field
  selected_sublist : after.selected.Sublist before.selected
  filter_eq : after.filter = before.filter

theorem discovered_update (filled : documents ≠ []) :
    (selection.update documents).2.discovered = found documents := by
  by_cases same : found documents = selection.discovered
  · rw [update_of_found_eq same, same]
  · rw [update_of_found_ne filled same]
    rfl

theorem update_again (filled : documents ≠ []) {again : List Document}
    (same : found again = found documents) :
    (selection.update documents).2.update again = (false, (selection.update documents).2) :=
  update_of_found_eq (same.trans (discovered_update filled).symm)

theorem update_congr {first second : List Document} (filled : first ≠ [])
    (otherFilled : second ≠ []) (same : found first = found second) :
    selection.update first = selection.update second := by
  simp only [update, List.isEmpty_eq_false_iff.mpr filled,
    List.isEmpty_eq_false_iff.mpr otherFilled, same]

/-- A batch with the discovered fields is not taken in anew. This makes no difference, since what is
selected is discovered. -/
theorem IsConsistent.update_takesIn (consistent : selection.IsConsistent)
    (filled : documents ≠ []) : TakesIn documents selection (selection.update documents).2 := by
  have shown (field : String) :
      field ∈ (selection.update documents).2.discovered ↔ Shows documents field := by
    rw [discovered_update filled]
    exact mem_found_iff
  by_cases same : found documents = selection.discovered
  · rw [update_of_found_eq same] at shown ⊢
    refine ⟨shown, fun field => ?_, .refl _, rfl⟩
    refine (and_iff_left_of_imp fun member => (shown field).mp ?_).symm
    exact consistent.picked_subset ((consistent.mem_selected_iff field).mp member)
  · rw [update_of_found_ne filled same] at shown ⊢
    refine ⟨shown, fun field => ?_, List.filter_sublist, rfl⟩
    rw [← shown field]
    simp [refresh]

end Selection

namespace Catalog

theorem absorb_of_update_eq {catalog : Catalog} {documents : List Document}
    (same : catalog.selection.update documents = (false, catalog.selection)) :
    catalog.absorb documents = (false, catalog) := by
  simp only [absorb, same]

/-- Two batches that show the same fields have the same effect, and after one of them neither has
another. -/
theorem absorb_sameFields {catalog : Catalog} (reached : catalog.selection.IsReached)
    {first second : List Document} (filled : first ≠ []) (otherFilled : second ≠ [])
    (same : ∀ field, Shows first field ↔ Shows second field) :
    catalog.absorb first = catalog.absorb second ∧
    Selection.TakesIn first catalog.selection (catalog.absorb first).2.selection ∧
    ∀ documents ∈ [first, second],
      (catalog.absorb first).2.absorb documents = (false, (catalog.absorb first).2) := by
  have sameFound := found_eq_iff.mpr same
  obtain ⟨-, updated⟩ := catalog.absorb_eq first
  refine ⟨?_, ?_, fun documents member => absorb_of_update_eq ?_⟩
  · simp only [absorb, Selection.update_congr filled otherFilled sameFound, sameFound]
  · rw [updated]
    exact reached.isConsistent.update_takesIn filled
  · rw [updated]
    refine Selection.update_again filled ?_
    rcases List.mem_cons.mp member with rfl | member
    · rfl
    · rw [List.mem_singleton.mp member, sameFound]

def together : List Document := [[("a", .int 1), ("c", .obj [("d", .null)])]]

/-- The same two fields in three documents. -/
def apart : List Document := [[("c", .obj [("d", .int 2)])], [("a", .arr [])], [("a", .null)]]

/-- Three fields were found, and selected from the last to the first. -/
def chosenFields : Catalog :=
  run ⟨.empty, .empty⟩ [.update [[("a", .null), ("b", .null), ("c", .obj [("d", .null)])]],
    .select "c.d", .select "b", .select "a", .applyFilter "x"]

theorem absorb_sameFields_apart :
    chosenFields.selection.IsReached ∧ (∀ field, Shows together field ↔ Shows apart field) ∧
      chosenFields.absorb together = chosenFields.absorb apart ∧
      Selection.TakesIn together chosenFields.selection
        (chosenFields.absorb together).2.selection ∧
      (chosenFields.absorb together).2.selection.selected = ["c.d", "a"] ∧
      (chosenFields.absorb together).2.absorb apart =
        (false, (chosenFields.absorb together).2) := by
  have reached : chosenFields.selection.IsReached := ⟨.empty, _, rfl⟩
  have same : ∀ field, Shows together field ↔ Shows apart field :=
    found_eq_iff.mp (by decide +kernel)
  have filled : together ≠ [] := List.cons_ne_nil _ _
  have otherFilled : apart ≠ [] := List.cons_ne_nil _ _
  obtain ⟨equal, takesIn, again⟩ := absorb_sameFields reached filled otherFilled same
  exact ⟨reached, same, equal, takesIn, by decide +kernel,
    again apart (List.mem_cons_of_mem _ List.mem_cons_self)⟩

end Catalog

end FilterQuery.Field
