import FilterQuery.Proofs.Filter.Escape
import FilterQuery.Proofs.Filter.Grammar
import FilterQuery.Proofs.Text.Run

/-!
# Tokens for texts

The token that asks for a text in a keyword field, whatever the text holds. Main statement:
`compile_spelled`.
-/

set_option autoImplicit false

namespace FilterQuery.Filter

open Text FilterQuery.Field

/-- A text that can be the value of a token: it has no angle bracket and no blank at its ends, and
it is no word for a missing value. -/
structure IsLiteral (text : List Char) : Prop where
  flat : ∀ c ∈ text, ¬IsAngle c
  first : ∀ c ∈ text.head?, isBlank c = false
  last : ∀ c ∈ text.getLast?, isBlank c = false
  noNull : ¬IsNullWord text

/-- The token that asks for a text in a field. -/
def spelled (field text : String) : String :=
  field ++ "=" ++ String.ofList (escape text.toList)

theorem toList_spelled (field text : String) :
    (spelled field text).toList = field.toList ++ '=' :: escape text.toList := by
  simp [spelled]

theorem spelled_injective {field text other : String}
    (same : spelled field text = spelled field other) : text = other := by
  have same := congrArg String.toList same
  rw [toList_spelled, toList_spelled, List.append_cancel_left_eq, List.cons.injEq] at same
  exact String.toList_injective (escape_injective same.2)

theorem not_isFixed_append {name after : List Char} (named : IsDotted name)
    (other : name ≠ "detection_id_dedup".toList) : ¬IsFixed (name ++ '=' :: after) := by
  rintro (⟨rest, same⟩ | ⟨rest, same⟩)
  · have head := congrArg List.head? same
    obtain ⟨first, others, rfl, letter⟩ := named.exists_letter
    have same : '_' = first := by simpa using head
    subst same
    exact absurd letter (by decide)
  · have spelt : "detection_id_dedup=".toList = "detection_id_dedup".toList ++ ['='] := by decide
    rw [spelt, List.append_assoc, List.singleton_append] at same
    have free : '=' ∉ name := not_mem_of_isDotted named (by decide) (by decide)
    exact other (before_eq (by decide) free same).symm

/-- The token for a text is an equality: the name and the escaped text stand on both sides of its
first equals sign. -/
theorem isEquality_spelled {field text : String} (named : IsDotted field.toList)
    (other : field ≠ "detection_id_dedup") (literal : IsLiteral text.toList) :
    IsEquality (spelled field text).toList field.toList (escape text.toList) where
  free := by
    rw [toList_spelled]
    exact not_isFixed_append named fun same => other (String.toList_injective same)
  flat := by
    rw [toList_spelled]
    intro c member isAngle
    rcases List.mem_append.mp member with member | member
    · rcases isAngle with rfl | rfl
      · exact not_mem_of_isDotted named (by decide) (by decide) member
      · exact not_mem_of_isDotted named (by decide) (by decide) member
    · rcases List.mem_cons.mp member with rfl | member
      · exact absurd isAngle (by simp [IsAngle])
      · rcases mem_escape member with rfl | member
        · exact absurd isAngle (by simp [IsAngle])
        · exact literal.flat c member isAngle
  split := toList_spelled field text
  first := not_mem_of_isDotted named (by decide) (by decide)

theorem strip_escape {text : List Char} (literal : IsLiteral text) :
    strip (escape text) = escape text := by
  refine stripBy_of_ends (fun c member => ?_) fun c member => ?_
  · rcases head?_escape member with rfl | ⟨member, -⟩
    · decide
    · exact literal.first c member
  · rw [getLast?_escape] at member
    exact literal.last c member

theorem strip_spelled {field text : String} (named : IsDotted field.toList)
    (literal : IsLiteral text.toList) :
    strip (spelled field text).toList = (spelled field text).toList := by
  rw [toList_spelled]
  refine stripBy_of_ends (fun c member => ?_) fun c member => ?_
  · obtain ⟨first, rest, split, -⟩ := named.exists_letter
    have same : first = c := by simpa [split] using member
    exact isBlank_of_isNameChar (named.isNameChar c (by simp [split, same]))
  · rw [List.getLast?_append, List.getLast?_cons, getLast?_escape] at member
    cases last : text.toList.getLast? with
    | none =>
        have same : '=' = c := by simpa [last] using member
        rw [← same]
        decide
    | some d =>
        have same : d = c := by simpa [last] using member
        exact literal.last c (same ▸ last)

theorem isKeyword_keyword : IsKeyword .keyword :=
  ⟨by decide, by decide, by decide, by decide⟩

theorem means_escape {field : String} {metadata : Metadata} {text : String}
    (keyword : IsKeyword metadata) (literal : IsLiteral text.toList) :
    Means field metadata (escape text.toList) (.textMatch field text) := by
  have start : ∀ c ∈ (escape text.toList).head?, isWildcard c = false := by
    intro c member
    rcases head?_escape member with rfl | ⟨-, plain⟩
    · decide
    · rw [← Bool.not_eq_true, isWildcard_iff]
      rintro (rfl | rfl) <;> exact plain (by decide)
  have meant : Means field metadata (escape text.toList)
      (.textMatch field (String.ofList (unescape (escape text.toList)))) :=
    .textMatch keyword (fun null => literal.noNull (isNullWord_escape null)) start
      (hasWildcard_escape text.toList)
  rwa [unescape_escape, String.ofList_toList] at meant

/-- Every text without angle brackets and outer blanks that is no word for a missing value has a
token that asks for exactly this text in a keyword field. -/
theorem compile_spelled {cache : Cache} {field : String} (named : IsDotted field.toList)
    (other : field ≠ "detection_id_dedup")
    (known : ∀ metadata, cache.get? field = some metadata →
      metadata.searchable = true ∧ IsKeyword metadata)
    {text : String} (literal : IsLiteral text.toList) :
    compile cache (spelled field text) = .ok (.textMatch field text) ∧
      ∀ another, IsLiteral another.toList → another ≠ text →
        spelled field another ≠ spelled field text ∧
          compile cache (spelled field another) ≠ compile cache (spelled field text) := by
  have keyword : (metadataOf cache field).searchable = true ∧
      IsKeyword (metadataOf cache field) := by
    rw [metadataOf]
    cases stored : cache.get? field with
    | none => exact ⟨rfl, isKeyword_keyword⟩
    | some metadata => exact known metadata stored
  have compiled {text : String} (literal : IsLiteral text.toList) :
      compile cache (spelled field text) = .ok (.textMatch field text) := by
    have stripped := strip_of_isDotted named
    rw [compile_eq_ok_iff, strip_spelled named literal]
    refine .equality (isEquality_spelled named other literal) (by rwa [stripped]) ?_ keyword.1 ?_
    · rw [stripped, String.ofList_toList]
    · rw [strip_escape literal]
      exact means_escape keyword.2 literal
  refine ⟨compiled literal, fun another isLiteral different => ⟨?_, ?_⟩⟩
  · exact fun same => different (spelled_injective same)
  · rw [compiled isLiteral, compiled literal]
    simpa using different

theorem compile_spelled_backslashAtEnd :
    spelled "note.tag" "*a=b\\" = "note.tag=\\*a\\=b\\\\" ∧
      compile .empty "note.tag=\\*a\\=b\\\\" = .ok (.textMatch "note.tag" "*a=b\\") ∧
      compile .empty "note.tag=" ≠ compile .empty "note.tag=\\*a\\=b\\\\" := by
  have named : IsDotted "note.tag".toList := isDotted_of_isName (by decide)
  have literal : IsLiteral "*a=b\\".toList :=
    ⟨forall_not_isAngle (by decide), by rintro _ ⟨⟩; rfl, by rintro _ ⟨⟩; rfl,
      isNull_eq_false_iff.mp (by decide)⟩
  have empty : IsLiteral "".toList :=
    ⟨forall_not_isAngle (by decide), nofun, nofun, isNull_eq_false_iff.mp (by decide)⟩
  have token : spelled "note.tag" "*a=b\\" = "note.tag=\\*a\\=b\\\\" := by decide
  have short : spelled "note.tag" "" = "note.tag=" := by decide
  have unknown : Cache.empty.get? "note.tag" = none := by decide
  have known : ∀ metadata, Cache.empty.get? "note.tag" = some metadata →
      metadata.searchable = true ∧ IsKeyword metadata := by
    simp [unknown]
  obtain ⟨compiled, others⟩ := compile_spelled named (by decide) known literal
  rw [token] at compiled others
  refine ⟨token, compiled, ?_⟩
  rw [← short]
  exact (others "" empty (by decide)).2

end FilterQuery.Filter
