import FilterQuery.Text.Order
import Mathlib.Data.List.Perm.Basic

/-!
# Sorted lists of texts

A list in strictly increasing order is the one canonical form of the set of its texts, and `distinct`
brings every list into it. What `sorted` gives is the canonical form of a list in which texts may be
repeated.
-/

set_option autoImplicit false

namespace FilterQuery.Text

variable {texts others : List String}

theorem pairwise_insertDistinct (text : String) (sorted : texts.Pairwise (· < ·)) :
    (insertDistinct text texts).Pairwise (· < ·) := by
  induction texts with
  | nil => exact List.pairwise_singleton _ _
  | cons head rest ih =>
      obtain ⟨least, sortedRest⟩ := List.pairwise_cons.mp sorted
      simp only [insertDistinct]
      split
      · next before =>
          refine List.pairwise_cons.mpr ⟨fun other member => ?_, ih sortedRest⟩
          rcases mem_insertDistinct.mp member with rfl | member
          · exact before
          · exact least other member
      · next notBefore =>
          split
          · exact sorted
          · next different =>
              have after : text < head := Std.lt_of_le_of_ne notBefore (Ne.symm different)
              refine List.pairwise_cons.mpr ⟨fun other member => ?_, sorted⟩
              rcases List.mem_cons.mp member with rfl | member
              · exact after
              · exact String.lt_trans after (least other member)

theorem pairwise_distinct (texts : List String) : (distinct texts).Pairwise (· < ·) := by
  induction texts with
  | nil => exact List.Pairwise.nil
  | cons text rest ih => exact pairwise_insertDistinct text ih

theorem nodup_of_pairwise (sorted : texts.Pairwise (· < ·)) : texts.Nodup := by
  refine sorted.imp fun {first second} less same => ?_
  rw [same] at less
  exact String.lt_irrefl second less

theorem eq_of_mem_iff (sorted : texts.Pairwise (· < ·)) (otherSorted : others.Pairwise (· < ·))
    (same : ∀ text, text ∈ texts ↔ text ∈ others) : texts = others := by
  have perm : texts.Perm others :=
    (List.perm_ext_iff_of_nodup (nodup_of_pairwise sorted) (nodup_of_pairwise otherSorted)).mpr same
  refine perm.eq_of_pairwise (fun first second _ _ less greater => ?_) sorted otherSorted
  exact absurd greater (String.lt_asymm less)

theorem perm_insertSorted (text : String) (texts : List String) :
    (insertSorted text texts).Perm (text :: texts) := by
  induction texts with
  | nil => exact .refl _
  | cons head rest ih =>
      simp only [insertSorted]
      split
      · exact (ih.cons head).trans (.swap text head rest)
      · exact .refl _

theorem perm_sorted (texts : List String) : (sorted texts).Perm texts := by
  induction texts with
  | nil => exact .nil
  | cons text rest ih => exact (perm_insertSorted text (sorted rest)).trans (ih.cons text)

theorem pairwise_insertSorted (text : String) (sorted : texts.Pairwise (· ≤ ·)) :
    (insertSorted text texts).Pairwise (· ≤ ·) := by
  induction texts with
  | nil => exact List.pairwise_singleton _ _
  | cons head rest ih =>
      obtain ⟨least, sortedRest⟩ := List.pairwise_cons.mp sorted
      simp only [insertSorted]
      split
      · next before =>
          refine List.pairwise_cons.mpr ⟨fun other member => ?_, ih sortedRest⟩
          rcases mem_insertSorted.mp member with rfl | member
          · exact String.lt_asymm before
          · exact least other member
      · next notBefore =>
          refine List.pairwise_cons.mpr ⟨fun other member => ?_, sorted⟩
          rcases List.mem_cons.mp member with rfl | member
          · exact notBefore
          · exact String.le_trans notBefore (least other member)

theorem pairwise_sorted (texts : List String) : (sorted texts).Pairwise (· ≤ ·) := by
  induction texts with
  | nil => exact .nil
  | cons text rest ih => exact pairwise_insertSorted text ih

theorem sorted_eq_of_perm (perm : texts.Perm others) : sorted texts = sorted others := by
  have same : (sorted texts).Perm (sorted others) :=
    (perm_sorted texts).trans (perm.trans (perm_sorted others).symm)
  refine same.eq_of_pairwise (fun first second _ _ atMost atLeast => ?_) (pairwise_sorted texts)
    (pairwise_sorted others)
  exact String.le_antisymm atMost atLeast

theorem isPart_iff {part text : List Char} : isPart part text = true ↔ part <:+: text := by
  induction text with
  | nil => simp [isPart]
  | cons c rest ih => simp [isPart, ih, List.infix_cons_iff]

theorem contains_iff {text part : String} :
    contains text part = true ↔ part.toList <:+: text.toList :=
  isPart_iff

end FilterQuery.Text
