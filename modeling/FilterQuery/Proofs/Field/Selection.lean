import FilterQuery.Field.Action
import FilterQuery.Proofs.Text.Order

/-!
# Consistent selections

The parts of a selection that can be worked out from others stay in step with them, whatever is done
to it, and the replies say truly whether something changed. Main statement:
`Catalog.run_isConsistent`.
-/

set_option autoImplicit false

namespace FilterQuery.Field

namespace Selection

/-- The discovered and selected fields fit together, whichever fields are said to match. -/
structure IsArranged (selection : Selection) : Prop where
  sorted_discovered : selection.discovered.Pairwise (· < ·)
  sorted_picked : selection.picked.Pairwise (· < ·)
  picked_subset : selection.picked ⊆ selection.discovered
  nodup_selected : selection.selected.Nodup
  mem_selected_iff : ∀ field, field ∈ selection.selected ↔ field ∈ selection.picked

/-- The selected fields are discovered ones, the display order holds each of them once and no other
field, and the matches are the discovered unselected fields whose names hold the filter text in any
case, sorted: what the filter text would find now. -/
structure IsConsistent (selection : Selection) : Prop extends selection.IsArranged where
  sorted_filtered : selection.filtered.Pairwise (· < ·)
  mem_filtered_iff : ∀ field, field ∈ selection.filtered ↔
    field ∈ selection.discovered ∧ field ∉ selection.picked ∧
      (Text.lowered selection.filter).toList <:+: (Text.lowered field).toList
  filtered_eq : selection.filtered = (selection.applyFilter selection.filter).1

variable {selection : Selection} {field : String}

theorem isSelected_iff : selection.isSelected field = true ↔ field ∈ selection.picked := by
  simp [isSelected]

theorem isMatch_iff {filter : String} : isMatch filter field = true ↔
    (Text.lowered filter).toList <:+: (Text.lowered field).toList :=
  Text.contains_iff

theorem mem_refresh_filtered_iff : field ∈ selection.refresh.filtered ↔
    field ∈ selection.discovered ∧ field ∉ selection.picked ∧
      (Text.lowered selection.filter).toList <:+: (Text.lowered field).toList := by
  simp only [refresh, List.mem_filter, Bool.and_eq_true, Bool.not_eq_true', isMatch_iff,
    ← isSelected_iff, Bool.not_eq_true]

theorem update_of_found_eq {documents : List Document}
    (same : found documents = selection.discovered) :
    selection.update documents = (false, selection) := by
  simp [update, same]

theorem update_of_found_ne {documents : List Document} (filled : documents ≠ [])
    (changed : found documents ≠ selection.discovered) :
    selection.update documents =
      (true, refresh { selection with
        discovered := found documents
        picked := selection.picked.filter (found documents).contains
        selected := selection.selected.filter (found documents).contains }) := by
  simp [update, filled, changed]

/-- Every operation that ends by finding the matches anew leaves a consistent selection. -/
theorem IsArranged.refresh (arranged : selection.IsArranged) : selection.refresh.IsConsistent where
  sorted_discovered := arranged.sorted_discovered
  sorted_picked := arranged.sorted_picked
  picked_subset := arranged.picked_subset
  nodup_selected := arranged.nodup_selected
  mem_selected_iff := arranged.mem_selected_iff
  sorted_filtered := arranged.sorted_discovered.filter _
  mem_filtered_iff _ := mem_refresh_filtered_iff
  filtered_eq := rfl

theorem isConsistent_empty : empty.IsConsistent := by
  have arranged : empty.IsArranged :=
    ⟨.nil, .nil, List.Subset.refl _, .nil, fun _ => Iff.rfl⟩
  exact arranged.refresh

theorem IsConsistent.update (consistent : selection.IsConsistent) (documents : List Document) :
    (selection.update documents).2.IsConsistent := by
  simp only [Selection.update]
  split
  · exact consistent
  · refine IsArranged.refresh
      { sorted_discovered := Text.pairwise_distinct _
        sorted_picked := consistent.sorted_picked.filter _
        picked_subset := ?_
        nodup_selected := consistent.nodup_selected.filter _
        mem_selected_iff := ?_ }
    · intro other member
      exact List.contains_iff_mem.mp (List.mem_filter.mp member).2
    · intro other
      simp only [List.mem_filter, consistent.mem_selected_iff]

theorem IsConsistent.select (consistent : selection.IsConsistent) (field : String) :
    (selection.select field).2.IsConsistent := by
  simp only [Selection.select]
  split
  · next allowed =>
      obtain ⟨isDiscovered, isNew⟩ := Bool.and_eq_true_iff.mp allowed
      have discovered : field ∈ selection.discovered := List.contains_iff_mem.mp isDiscovered
      have new : field ∉ selection.picked := by
        rw [← isSelected_iff]
        simpa using isNew
      refine IsArranged.refresh
        { sorted_discovered := consistent.sorted_discovered
          sorted_picked := Text.pairwise_insertDistinct field consistent.sorted_picked
          picked_subset := ?_
          nodup_selected := ?_
          mem_selected_iff := ?_ }
      · intro other member
        rcases Text.mem_insertDistinct.mp member with rfl | member
        · exact discovered
        · exact consistent.picked_subset member
      · have absent : field ∉ selection.selected := fun member =>
          new ((consistent.mem_selected_iff field).mp member)
        refine List.nodup_append.mpr ⟨consistent.nodup_selected, List.pairwise_singleton _ _, ?_⟩
        intro other member added isAdded same
        rw [same, List.mem_singleton.mp isAdded] at member
        exact absent member
      · intro other
        simp only [List.mem_append, List.mem_singleton, Text.mem_insertDistinct,
          consistent.mem_selected_iff]
        exact or_comm
  · exact consistent

theorem IsConsistent.unselect (consistent : selection.IsConsistent) (field : String) :
    (selection.unselect field).2.IsConsistent := by
  simp only [Selection.unselect]
  split
  · refine IsArranged.refresh
      { sorted_discovered := consistent.sorted_discovered
        sorted_picked := consistent.sorted_picked.erase field
        picked_subset := ?_
        nodup_selected := consistent.nodup_selected.erase field
        mem_selected_iff := ?_ }
    · intro other member
      exact consistent.picked_subset (List.mem_of_mem_erase member)
    · intro other
      have once := Text.nodup_of_pairwise consistent.sorted_picked
      simp only [once.mem_erase_iff, consistent.nodup_selected.mem_erase_iff,
        consistent.mem_selected_iff]
  · exact consistent

theorem IsConsistent.toggle (consistent : selection.IsConsistent) (field : String) :
    (selection.toggle field).2.IsConsistent := by
  simp only [Selection.toggle]
  split
  · exact consistent.unselect field
  · exact consistent.select field

/-- Two neighbours have changed places. -/
def IsSwap (before after : List String) : Prop :=
  ∃ front first second rest,
    before = front ++ first :: second :: rest ∧ after = front ++ second :: first :: rest

theorem IsSwap.cons {before after : List String} (swap : IsSwap before after) (head : String) :
    IsSwap (head :: before) (head :: after) := by
  obtain ⟨front, first, second, rest, rfl, rfl⟩ := swap
  exact ⟨head :: front, first, second, rest, rfl, rfl⟩

theorem IsSwap.perm {before after : List String} (swap : IsSwap before after) :
    after.Perm before := by
  obtain ⟨front, first, second, rest, rfl, rfl⟩ := swap
  exact (List.Perm.swap first second rest).append_left front

theorem IsSwap.ne {before after : List String} (swap : IsSwap before after)
    (nodup : before.Nodup) : before ≠ after := by
  obtain ⟨front, first, second, rest, rfl, rfl⟩ := swap
  intro same
  obtain ⟨rfl, -⟩ := List.cons.inj (List.append_cancel_left same)
  have repeated := (List.nodup_append.mp nodup).2.1
  simp at repeated

theorem isSwap_of_moveUp {order moved : List String} (done : moveUp field order = some moved) :
    IsSwap order moved := by
  induction order generalizing moved with
  | nil => simp [moveUp] at done
  | cons first rest ih =>
      cases rest with
      | nil => simp [moveUp] at done
      | cons second rest =>
          simp only [moveUp] at done
          split at done
          · cases done
            exact ⟨[], first, second, rest, rfl, rfl⟩
          · split at done
            · cases done
            · obtain ⟨tail, movedTail, rfl⟩ := Option.map_eq_some_iff.mp done
              exact (ih movedTail).cons first

theorem isSwap_of_moveDown {order moved : List String} (done : moveDown field order = some moved) :
    IsSwap order moved := by
  induction order generalizing moved with
  | nil => simp [moveDown] at done
  | cons first rest ih =>
      cases rest with
      | nil => simp [moveDown] at done
      | cons second rest =>
          simp only [moveDown] at done
          split at done
          · cases done
            exact ⟨[], first, second, rest, rfl, rfl⟩
          · obtain ⟨tail, movedTail, rfl⟩ := Option.map_eq_some_iff.mp done
            exact (ih movedTail).cons first

/-- A field that is moved changes places with a neighbour; else nothing changes. -/
theorem move_cases (selection : Selection) (field : String) (up : Bool) :
    (∃ moved, selection.move field up = (true, { selection with selected := moved }) ∧
      IsSwap selection.selected moved) ∨
    selection.move field up = (false, selection) := by
  simp only [Selection.move]
  split
  · split
    · next moved done =>
        refine .inl ⟨moved, rfl, ?_⟩
        cases up with
        | true => exact isSwap_of_moveUp done
        | false => exact isSwap_of_moveDown done
    · exact .inr rfl
  · exact .inr rfl

theorem IsConsistent.move (consistent : selection.IsConsistent) (field : String) (up : Bool) :
    (selection.move field up).2.IsConsistent := by
  rcases selection.move_cases field up with ⟨moved, done, swap⟩ | done
  · rw [done]
    exact
      { sorted_discovered := consistent.sorted_discovered
        sorted_picked := consistent.sorted_picked
        picked_subset := consistent.picked_subset
        nodup_selected := swap.perm.nodup_iff.mpr consistent.nodup_selected
        mem_selected_iff := fun other =>
          swap.perm.mem_iff.trans (consistent.mem_selected_iff other)
        sorted_filtered := consistent.sorted_filtered
        mem_filtered_iff := consistent.mem_filtered_iff
        filtered_eq := consistent.filtered_eq }
  · rw [done]
    exact consistent

theorem IsConsistent.applyFilter (consistent : selection.IsConsistent) (filter : String) :
    (selection.applyFilter filter).2.IsConsistent :=
  IsArranged.refresh
    ⟨consistent.sorted_discovered, consistent.sorted_picked, consistent.picked_subset,
      consistent.nodup_selected, consistent.mem_selected_iff⟩

/-- Discovered fields are compared as the sets that they stand for. -/
theorem IsArranged.update_changed_iff (arranged : selection.IsArranged)
    (documents : List Document) : (selection.update documents).1 = true ↔
      ¬∀ field, field ∈ selection.discovered ↔
        field ∈ (selection.update documents).2.discovered := by
  simp only [Selection.update]
  split
  · simp
  · next changed =>
      have different : found documents ≠ selection.discovered := by
        intro same
        simp [same] at changed
      refine iff_of_true rfl fun same => different ?_
      refine Text.eq_of_mem_iff (Text.pairwise_distinct _) arranged.sorted_discovered ?_
      exact fun field => (same field).symm

theorem select_changed_iff (field : String) : (selection.select field).1 = true ↔
    selection.selected ≠ (selection.select field).2.selected := by
  simp only [Selection.select]
  split <;> simp [refresh]

theorem IsArranged.unselect_changed_iff (arranged : selection.IsArranged) (field : String) :
    (selection.unselect field).1 = true ↔
      selection.selected ≠ (selection.unselect field).2.selected := by
  simp only [Selection.unselect]
  split
  · next isSelected =>
      have member : field ∈ selection.selected :=
        (arranged.mem_selected_iff field).mpr (isSelected_iff.mp isSelected)
      refine iff_of_true rfl fun same => ?_
      have unchanged : selection.selected = selection.selected.erase field := same
      rw [unchanged] at member
      exact (arranged.nodup_selected.mem_erase_iff.mp member).1 rfl
  · simp

theorem IsArranged.move_changed_iff (arranged : selection.IsArranged) (field : String) (up : Bool) :
    (selection.move field up).1 = true ↔
      selection.selected ≠ (selection.move field up).2.selected := by
  rcases selection.move_cases field up with ⟨moved, done, swap⟩ | done
  · rw [done]
    exact iff_of_true rfl (swap.ne arranged.nodup_selected)
  · simp [done]

end Selection

/-- What the reply to an action has to say of the selection before and after it: whether the display
order changed, or the set of the discovered fields. -/
def Action.Reports (action : Action) (before : Selection) (reply : Reply) (after : Selection) :
    Prop :=
  match action with
  | .select _ | .unselect _ | .move _ _ =>
      ∃ changed, reply = .truth changed ∧ (changed = true ↔ before.selected ≠ after.selected)
  | .update _ =>
      ∃ changed, reply = .truth changed ∧
        (changed = true ↔ ¬∀ field, field ∈ before.discovered ↔ field ∈ after.discovered)
  | .toggle _ | .applyFilter _ | .reset | .isSelected _ => True

namespace Catalog

def run (catalog : Catalog) (actions : List Action) : Catalog :=
  actions.foldl (fun catalog action => (catalog.perform action).2) catalog

variable {catalog : Catalog}

theorem absorb_eq (catalog : Catalog) (documents : List Document) :
    (catalog.absorb documents).1 = (catalog.selection.update documents).1 ∧
      (catalog.absorb documents).2.selection = (catalog.selection.update documents).2 := by
  simp only [absorb]
  split
  · next updated => simp [updated]
  · next updated => simp [updated]

theorem isConsistent_perform (consistent : catalog.selection.IsConsistent) (action : Action) :
    (catalog.perform action).2.selection.IsConsistent := by
  cases action with
  | update documents =>
      rw [perform, (catalog.absorb_eq documents).2]
      exact consistent.update documents
  | select field => exact consistent.select field
  | unselect field => exact consistent.unselect field
  | toggle field => exact consistent.toggle field
  | move field up => exact consistent.move field up
  | applyFilter text => exact consistent.applyFilter text
  | reset => exact Selection.isConsistent_empty
  | isSelected field => exact consistent

theorem reports_perform (arranged : catalog.selection.IsArranged) (action : Action) :
    action.Reports catalog.selection (catalog.perform action).1
      (catalog.perform action).2.selection := by
  cases action with
  | update documents =>
      obtain ⟨changed, updated⟩ := catalog.absorb_eq documents
      refine ⟨(catalog.absorb documents).1, rfl, ?_⟩
      rw [perform, changed, updated]
      exact arranged.update_changed_iff documents
  | select field => exact ⟨_, rfl, Selection.select_changed_iff field⟩
  | unselect field => exact ⟨_, rfl, arranged.unselect_changed_iff field⟩
  | move field up => exact ⟨_, rfl, arranged.move_changed_iff field up⟩
  | toggle field => trivial
  | applyFilter text => trivial
  | reset => trivial
  | isSelected field => trivial

theorem isConsistent_run (consistent : catalog.selection.IsConsistent) (actions : List Action) :
    (catalog.run actions).selection.IsConsistent := by
  induction actions generalizing catalog with
  | nil => exact consistent
  | cons action actions ih => exact ih (isConsistent_perform consistent action)

/-- After any actions on a new selection, beside any cache, the selection is consistent, and the
reply to whatever is done next reports truly what that changes. -/
theorem run_isConsistent (cache : Cache) (actions : List Action) :
    (run ⟨cache, .empty⟩ actions).selection.IsConsistent ∧
      ∀ action : Action, action.Reports (run ⟨cache, .empty⟩ actions).selection
        ((run ⟨cache, .empty⟩ actions).perform action).1
        ((run ⟨cache, .empty⟩ actions).perform action).2.selection := by
  have consistent : (run ⟨cache, .empty⟩ actions).selection.IsConsistent :=
    isConsistent_run Selection.isConsistent_empty actions
  exact ⟨consistent, reports_perform consistent.toIsArranged⟩

end Catalog

end FilterQuery.Field
