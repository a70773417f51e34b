import FilterQuery.Filter.FieldName
import FilterQuery.Proofs.Text.Blank

/-!
# The grammar of field names

Field names as a grammar of segments and dots. The check of a name reads a text once, from left to
right, and accepts exactly the texts of the grammar.
-/

set_option autoImplicit false

namespace FilterQuery.Filter

/-- A letter followed by letters, digits, underscores and hyphens. -/
def IsSegment (text : List Char) : Prop :=
  ∃ first rest, text = first :: rest ∧ isLetter first = true ∧ ∀ c ∈ rest, isNameChar c = true

/-- Segments joined by dots. -/
inductive IsDotted : List Char → Prop where
  | segment {text : List Char} : IsSegment text → IsDotted text
  | join {text rest : List Char} :
      IsSegment text → IsDotted rest → IsDotted (text ++ '.' :: rest)

private theorem nameChar_ne_dot {c : Char} (named : isNameChar c = true) : (c == '.') = false := by
  cases same : c == '.' with
  | false => rfl
  | true =>
      rw [eq_of_beq same] at named
      exact absurd named (by decide)

/-- Inside a segment the check goes on behind the characters of the segment. -/
private theorem isNameRest_append {part tail : List Char}
    (named : ∀ c ∈ part, isNameChar c = true) :
    isNameRest false (part ++ tail) = isNameRest false tail := by
  induction part with
  | nil => rfl
  | cons c part ih =>
      have head : isNameChar c = true := named c List.mem_cons_self
      simp only [List.cons_append, isNameRest, nameChar_ne_dot head, head, Bool.true_and,
        Bool.false_eq_true, ↓reduceIte]
      exact ih fun c member => named c (List.mem_cons_of_mem _ member)

private theorem isName_segment_append {text tail : List Char} (segment : IsSegment text) :
    isName (text ++ tail) = isNameRest false tail := by
  obtain ⟨first, rest, rfl, letter, named⟩ := segment
  rw [isName, List.cons_append, isNameRest, letter, Bool.true_and, isNameRest_append named]

theorem IsDotted.isName {text : List Char} (dotted : IsDotted text) : isName text = true := by
  induction dotted with
  | @segment text segment =>
      rw [← List.append_nil text, isName_segment_append segment]
      rfl
  | @join text rest segment _ ih =>
      rw [isName_segment_append segment]
      exact ih

/-- What the check accepts inside a segment: the rest of it, and then nothing or a dot and a name. -/
private theorem isNameRest_split {text : List Char} (accepted : isNameRest false text = true) :
    ∃ part tail, text = part ++ tail ∧ (∀ c ∈ part, isNameChar c = true) ∧
      (tail = [] ∨ ∃ rest, tail = '.' :: rest ∧ isName rest = true) := by
  induction text with
  | nil => exact ⟨[], [], rfl, by simp, .inl rfl⟩
  | cons c text ih =>
      by_cases dot : c = '.'
      · subst dot
        exact ⟨[], '.' :: text, rfl, by simp, .inr ⟨text, rfl, accepted⟩⟩
      · simp only [isNameRest, beq_iff_eq, dot, ↓reduceIte, Bool.and_eq_true] at accepted
        obtain ⟨named, accepted⟩ := accepted
        obtain ⟨part, tail, rfl, others, shape⟩ := ih accepted
        refine ⟨c :: part, tail, rfl, ?_, shape⟩
        intro d member
        rcases List.mem_cons.mp member with rfl | member
        · exact named
        · exact others d member

theorem isDotted_of_isName {text : List Char} (accepted : isName text = true) :
    IsDotted text := by
  match text with
  | [] => cases accepted
  | first :: text =>
      simp only [isName, isNameRest, Bool.and_eq_true] at accepted
      obtain ⟨letter, accepted⟩ := accepted
      obtain ⟨part, tail, rfl, named, shape⟩ := isNameRest_split accepted
      have segment : IsSegment (first :: part) := ⟨first, part, rfl, letter, named⟩
      rcases shape with rfl | ⟨rest, rfl, following⟩
      · rw [List.append_nil]
        exact .segment segment
      · exact .join segment (isDotted_of_isName following)
termination_by text.length

theorem isName_iff_isDotted {text : List Char} : isName text = true ↔ IsDotted text :=
  ⟨isDotted_of_isName, IsDotted.isName⟩

/-! ## The characters of a name -/

theorem IsDotted.exists_letter {text : List Char} (dotted : IsDotted text) :
    ∃ first rest, text = first :: rest ∧ isLetter first = true := by
  cases dotted with
  | segment segment =>
      obtain ⟨first, rest, rfl, letter, -⟩ := segment
      exact ⟨first, rest, rfl, letter⟩
  | @join text following segment _ =>
      obtain ⟨first, rest, rfl, letter, -⟩ := segment
      exact ⟨first, rest ++ '.' :: following, rfl, letter⟩

theorem IsSegment.isNameChar {text : List Char} (segment : IsSegment text) :
    ∀ c ∈ text, isNameChar c = true := by
  obtain ⟨first, rest, rfl, letter, named⟩ := segment
  intro c member
  rcases List.mem_cons.mp member with rfl | member
  · simp [Filter.isNameChar, letter]
  · exact named c member

theorem IsDotted.isNameChar {text : List Char} (dotted : IsDotted text) :
    ∀ c ∈ text, isNameChar c = true ∨ c = '.' := by
  induction dotted with
  | segment segment => exact fun c member => .inl (segment.isNameChar c member)
  | join segment _ ih =>
      intro c member
      rcases List.mem_append.mp member with member | member
      · exact .inl (segment.isNameChar c member)
      · rcases List.mem_cons.mp member with rfl | member
        · exact .inr rfl
        · exact ih c member

theorem isBlank_of_isNameChar {c : Char} (named : isNameChar c = true ∨ c = '.') :
    Text.isBlank c = false := by
  have bounds : 45 ≤ c.toNat ∧ c.toNat ≤ 122 := by
    rcases named with named | rfl
    · simp only [isNameChar, isLetter, Bool.or_eq_true, Bool.and_eq_true, decide_eq_true_eq,
        beq_iff_eq, Char.le_def, UInt32.le_iff_toNat_le] at named
      rcases named with (((named | named) | named) | rfl) | rfl
      · exact ⟨Nat.le_trans (by decide) named.1, named.2⟩
      · exact ⟨Nat.le_trans (by decide) named.1, Nat.le_trans named.2 (by decide)⟩
      · exact ⟨Nat.le_trans (by decide) named.1, Nat.le_trans named.2 (by decide)⟩
      · decide
      · decide
    · decide
  simp only [Text.isBlank, Text.isWhiteSpace, Bool.or_eq_false_iff, Bool.and_eq_false_iff,
    decide_eq_false_iff_not, beq_eq_false_iff_ne]
  omega

theorem not_mem_of_isDotted {c : Char} {text : List Char} (dotted : IsDotted text)
    (strange : isNameChar c = false) (noDot : c ≠ '.') : c ∉ text := by
  intro member
  rcases dotted.isNameChar c member with named | dot
  · rw [strange] at named
    cases named
  · exact noDot dot

theorem strip_of_isDotted {text : List Char} (named : IsDotted text) : Text.strip text = text :=
  Text.stripBy_of_forall fun c member => isBlank_of_isNameChar (named.isNameChar c member)

/-! ## Stripped names -/

/-- A stripped text has no line feed at its end, so it is a field name as it stands or not at all. -/
theorem isFieldName_strip_iff {text : List Char} :
    isFieldName (String.ofList (Text.strip text)) = true ↔ IsDotted (Text.strip text) := by
  have last := Text.getLast?_strip_ne (c := '\n') (by decide) text
  have whole : withoutFinalLineFeed (Text.strip text) = Text.strip text := by
    simp only [withoutFinalLineFeed, beq_iff_eq, last, ↓reduceIte]
  rw [isFieldName, String.toList_ofList, whole, isName_iff_isDotted]

theorem isFieldName_strip_eq_false_iff {text : List Char} :
    isFieldName (String.ofList (Text.strip text)) = false ↔ ¬IsDotted (Text.strip text) := by
  rw [← isFieldName_strip_iff, Bool.not_eq_true]

end FilterQuery.Filter
