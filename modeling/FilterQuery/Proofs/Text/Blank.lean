import FilterQuery.Proofs.Text.Run
import FilterQuery.Text.Blank
import Mathlib.Data.List.TakeWhile

/-!
# Stripped texts

What is left at the ends of a text when the characters of a kind are taken off.
-/

set_option autoImplicit false

namespace FilterQuery.Text

/-- A stripped text does not end in a character of the kind that was taken off. -/
theorem getLast?_stripBy {kind : Char → Bool} {text : List Char} {c : Char}
    (last : (stripBy kind text).getLast? = some c) : kind c = false := by
  rw [stripBy, List.getLast?_reverse] at last
  have outside := List.head?_dropWhile_not kind (text.dropWhile kind).reverse
  rw [last] at outside
  simpa using outside

theorem getLast?_strip_ne {c : Char} (blank : isBlank c = true) (text : List Char) :
    (strip text).getLast? ≠ some c := by
  intro last
  have outside := getLast?_stripBy last
  rw [blank] at outside
  cases outside

theorem stripBy_sublist (kind : Char → Bool) (text : List Char) :
    (stripBy kind text).Sublist text := by
  have ends := ((text.dropWhile kind).reverse.dropWhile_sublist kind).reverse
  rw [List.reverse_reverse] at ends
  exact ends.trans (text.dropWhile_sublist kind)

theorem stripBy_of_ends {kind : Char → Bool} {text : List Char}
    (first : ∀ c ∈ text.head?, kind c = false) (last : ∀ c ∈ text.getLast?, kind c = false) :
    stripBy kind text = text := by
  have kept {others : List Char} (first : ∀ c ∈ others.head?, kind c = false) :
      others.dropWhile kind = others := by
    cases others with
    | nil => rfl
    | cons c rest => exact List.dropWhile_cons_of_neg (by simp [first c rfl])
  rw [stripBy, kept first, kept (by simpa using last), List.reverse_reverse]

theorem stripBy_of_forall {kind : Char → Bool} {text : List Char}
    (outside : ∀ c ∈ text, kind c = false) : stripBy kind text = text :=
  stripBy_of_ends (fun c member => outside c (List.mem_of_mem_head? member))
    fun c member => outside c (List.mem_of_getLast? member)

section Ends

variable {kind : Char → Bool} {start text rest : List Char} {c : Char}

/-- What is taken off is of the kind. -/
theorem exists_ends (kind : Char → Bool) (text : List Char) :
    ∃ first last, text = first ++ (stripBy kind text ++ last) ∧ (∀ c ∈ first, kind c = true) ∧
      ∀ c ∈ last, kind c = true := by
  have cut (text : List Char) : (text.reverse.dropWhile kind).reverse ++
      (text.reverse.takeWhile kind).reverse = text := by
    rw [← List.reverse_append, List.takeWhile_append_dropWhile, List.reverse_reverse]
  refine ⟨text.takeWhile kind, ((text.dropWhile kind).reverse.takeWhile kind).reverse, ?_, ?_, ?_⟩
  · rw [stripBy, cut, List.takeWhile_append_dropWhile]
  · intro c member
    exact List.mem_takeWhile_imp member
  · intro c member
    exact List.mem_takeWhile_imp (List.mem_reverse.mp member)

theorem mem_stripBy (member : c ∈ text) (other : kind c = false) : c ∈ stripBy kind text := by
  obtain ⟨first, last, split, blank, blankToo⟩ := exists_ends kind text
  rw [split] at member
  rcases List.mem_append.mp member with member | member
  · rw [blank c member] at other
    cases other
  · rcases List.mem_append.mp member with member | member
    · exact member
    · rw [blankToo c member] at other
      cases other

theorem stripBy_append_left (blank : ∀ c ∈ start, kind c = true) :
    stripBy kind (start ++ text) = stripBy kind text := by
  rw [stripBy, List.dropWhile_append_of_pos blank, stripBy]

theorem stripBy_append_right (blank : ∀ c ∈ rest, kind c = true) :
    stripBy kind (text ++ rest) = stripBy kind text := by
  have reversed : ∀ c ∈ rest.reverse, kind c = true :=
    fun c member => blank c (List.mem_reverse.mp member)
  rw [stripBy, stripBy, List.dropWhile_append]
  split
  · next empty =>
      rw [List.isEmpty_iff.mp empty, List.dropWhile_eq_nil_iff.mpr blank]
  · rw [List.reverse_append, List.dropWhile_append_of_pos reversed]

/-- Only what follows a character of another kind is stripped there. -/
theorem exists_stripBy_append_cons (first : ∀ d ∈ start.head?, kind d = false)
    (other : kind c = false) (text : List Char) :
    ∃ kept last, text = kept ++ last ∧ (∀ d ∈ last, kind d = true) ∧
      stripBy kind (start ++ c :: text) = start ++ c :: kept := by
  obtain ⟨before, last, split, blank, blankToo⟩ := exists_ends kind (start ++ c :: text)
  have none : before = [] := by
    cases before with
    | nil => rfl
    | cons d before =>
        have blankHead := blank d List.mem_cons_self
        have plainHead : kind d = false := by
          cases start with
          | nil =>
              obtain ⟨rfl, -⟩ := List.cons.inj split
              exact other
          | cons e start =>
              obtain ⟨rfl, -⟩ := List.cons.inj split
              exact first e rfl
        rw [blankHead] at plainHead
        cases plainHead
  rw [none, List.nil_append] at split
  obtain ⟨later, -, same⟩ | ⟨kept, same, rfl⟩ := append_eq_append_cons split.symm
  · have blankInside : kind c = true := blankToo c (by simp [same])
    rw [other] at blankInside
    cases blankInside
  · exact ⟨kept, last, rfl, blankToo, same⟩

end Ends

end FilterQuery.Text
