import FilterQuery.Proofs.Filter.Escape
import FilterQuery.Proofs.Text.Run

/-!
# Cutting values into pieces

There is one way to cut a value into pieces, whatever runs of backslashes it has. Both scanners read
the value by these pieces, so that a character which one of them takes for escaped is escaped for
the other one too. Main statement: `scanners_readAlike`.
-/

set_option autoImplicit false

namespace FilterQuery.Filter

/-- The characters of a value that a piece is made of. -/
def Piece.text : Piece → List Char
  | .escaped c => ['\\', c]
  | .single c => [c]
  | .last => ['\\']

/-- Pieces make up a value. A backslash belongs to the character after it, so it is no piece on its
own but at the end. -/
structure IsCut (value : List Char) (parts : List Piece) : Prop where
  joined : parts.flatMap Piece.text = value
  plain : ∀ c, .single c ∈ parts → c ≠ '\\'
  final : .last ∉ parts.dropLast

variable {value before after : List Char} {parts : List Piece} {part : Piece} {c : Char}

/-! ## One way to cut -/

theorem isCut_nil : IsCut [] [] :=
  ⟨rfl, nofun, nofun⟩

theorem isCut_last : IsCut ['\\'] [.last] :=
  ⟨rfl, by simp, by simp⟩

theorem IsCut.cons (cut : IsCut value parts) (plain : ∀ c, part = .single c → c ≠ '\\')
    (inner : part ≠ .last) : IsCut (part.text ++ value) (part :: parts) where
  joined := by rw [List.flatMap_cons, cut.joined]
  plain := by
    intro c member
    rcases List.mem_cons.mp member with same | member
    · exact plain c same.symm
    · exact cut.plain c member
  final := by
    intro member
    cases parts with
    | nil => cases member
    | cons other parts =>
        rcases List.mem_cons.mp member with same | member
        · exact inner same.symm
        · exact cut.final member

theorem IsCut.tail (cut : IsCut value (part :: parts)) :
    IsCut (parts.flatMap Piece.text) parts where
  joined := rfl
  plain := fun c member => cut.plain c (List.mem_cons_of_mem _ member)
  final := by
    intro member
    cases parts with
    | nil => cases member
    | cons other parts => exact cut.final (List.mem_cons_of_mem _ member)

/-- Nothing follows a backslash that is a piece on its own. -/
theorem IsCut.tail_eq_nil (cut : IsCut value (.last :: parts)) : parts = [] := by
  cases parts with
  | nil => rfl
  | cons other parts => exact absurd List.mem_cons_self cut.final

theorem isCut_pieces (value : List Char) : IsCut value (pieces value) := by
  induction value using pieces_induction with
  | nil => exact isCut_nil
  | last => exact isCut_last
  | escaped c rest ih =>
      change IsCut ((Piece.escaped c).text ++ rest) (.escaped c :: pieces rest)
      exact ih.cons nofun nofun
  | single c rest plain ih =>
      rw [pieces_cons plain]
      change IsCut ((Piece.single c).text ++ rest) (.single c :: pieces rest)
      refine ih.cons ?_ nofun
      intro d same
      cases same
      exact plain

theorem IsCut.eq_pieces (cut : IsCut value parts) : parts = pieces value := by
  induction parts generalizing value with
  | nil =>
      rw [← cut.joined]
      rfl
  | cons part parts ih =>
      have others := ih cut.tail
      rw [← cut.joined, List.flatMap_cons]
      cases part with
      | escaped c => exact congrArg (List.cons (.escaped c)) others
      | single c =>
          have plain : c ≠ '\\' := cut.plain c List.mem_cons_self
          rw [Piece.text, List.singleton_append, pieces_cons plain, ← others]
      | last =>
          rw [cut.tail_eq_nil]
          rfl

theorem isCut_iff : IsCut value parts ↔ parts = pieces value :=
  ⟨IsCut.eq_pieces, fun same => same ▸ isCut_pieces value⟩

/-! ## Where wildcards come from -/

/-- A piece that stands for a wildcard stands for nothing else. -/
theorem Piece.eq_of_resolved (wild : isWildcard c = true)
    (shown : part.resolved = before ++ c :: after) :
    before = [] ∧ after = [] ∧ (part = .escaped c ∨ part = .single c) := by
  have alone {d : Char} (shown : [d] = before ++ c :: after) :
      before = [] ∧ after = [] ∧ d = c := by
    rcases List.cons_eq_append_iff.mp shown with ⟨rfl, same⟩ | ⟨rest, rfl, same⟩
    · cases same
      exact ⟨rfl, rfl, rfl⟩
    · cases List.append_eq_nil_iff.mp same.symm |>.2
  cases part with
  | single d =>
      obtain ⟨none, nothing, rfl⟩ := alone shown
      exact ⟨none, nothing, .inr rfl⟩
  | last =>
      obtain ⟨-, -, rfl⟩ := alone shown
      exact absurd wild (by decide)
  | escaped d =>
      rw [Piece.resolved] at shown
      split at shown
      · obtain ⟨none, nothing, rfl⟩ := alone shown
        exact ⟨none, nothing, .inl rfl⟩
      · next bare =>
          have member : c ∈ ['\\', d] := shown ▸ List.mem_append_right before List.mem_cons_self
          rcases List.mem_cons.mp member with rfl | member
          · exact absurd wild (by decide)
          · rw [List.mem_singleton.mp member] at wild
            refine absurd ?_ bare
            rcases isWildcard_iff.mp wild with rfl | rfl <;> decide

/-- A wildcard in the text that pieces stand for is what one of them stands for. -/
theorem exists_piece_of_wildcard (wild : isWildcard c = true)
    (shown : parts.flatMap Piece.resolved = before ++ c :: after) :
    ∃ leading part trailing, parts = leading ++ part :: trailing ∧
      (part = .escaped c ∨ part = .single c) ∧
      before = leading.flatMap Piece.resolved ∧ after = trailing.flatMap Piece.resolved := by
  induction parts generalizing before with
  | nil => simp at shown
  | cons part parts ih =>
      rw [List.flatMap_cons] at shown
      obtain ⟨later, rfl, behind⟩ | ⟨rest, inside, rfl⟩ := append_eq_append_cons shown
      · obtain ⟨leading, other, trailing, rfl, origin, rfl, rfl⟩ := ih behind
        exact ⟨part :: leading, other, trailing, rfl, origin, rfl, rfl⟩
      · obtain ⟨rfl, rfl, origin⟩ := Piece.eq_of_resolved wild inside
        exact ⟨[], part, parts, rfl, origin, rfl, rfl⟩

theorem hasWildcard_iff_single :
    hasWildcard value = true ↔ .single '*' ∈ pieces value ∨ .single '?' ∈ pieces value := by
  rw [hasWildcard_iff]
  constructor
  · intro found
    obtain ⟨part, member, wild⟩ := found
    cases part with
    | single c => rcases wild with rfl | rfl <;> simp [member]
    | escaped c => exact wild.elim
    | last => exact wild.elim
  · intro found
    rcases found with member | member
    · exact ⟨_, member, .inl rfl⟩
    · exact ⟨_, member, .inr rfl⟩

/-- A value is cut into pieces in one way. Its text is what they stand for, also where the scanner
of escapes is passed by. It has a wildcard exactly when one of them is a wildcard on its own, and if
none is, every wildcard of its text stands there for an escaped one. -/
theorem scanners_readAlike (value : List Char) :
    ∃ parts, (∀ others, IsCut value others ↔ others = parts) ∧
      unescape value = parts.flatMap Piece.resolved ∧
      unescape value = resolveEscapes value ∧
      (hasWildcard value = true ↔ .single '*' ∈ parts ∨ .single '?' ∈ parts) ∧
      (hasWildcard value = false → ∀ before c after, c = '*' ∨ c = '?' →
        unescape value = before ++ c :: after →
        ∃ leading trailing, parts = leading ++ .escaped c :: trailing ∧
          before = leading.flatMap Piece.resolved ∧
          after = trailing.flatMap Piece.resolved) := by
  refine ⟨pieces value, fun others => isCut_iff, unescape_eq_flatMap value, unescape_eq value,
    hasWildcard_iff_single, ?_⟩
  intro tame before c after wild shown
  rw [unescape_eq_flatMap] at shown
  obtain ⟨leading, part, trailing, split, origin, start, rest⟩ :=
    exists_piece_of_wildcard (isWildcard_iff.mpr wild) shown
  rcases origin with rfl | rfl
  · exact ⟨leading, trailing, split, start, rest⟩
  · -- A wildcard on its own would have been found.
    have member : .single c ∈ pieces value := by
      rw [split]
      exact List.mem_append_right leading List.mem_cons_self
    have found : hasWildcard value = true := by
      rw [hasWildcard_iff_single]
      rcases wild with rfl | rfl
      · exact .inl member
      · exact .inr member
    rw [tame] at found
    cases found

/-- Three backslashes before a question mark and one at the end. -/
theorem scanners_readAlike_backslashes :
    hasWildcard "\\\\\\?a\\*\\".toList = false ∧
      unescape "\\\\\\?a\\*\\".toList = "\\?a*\\".toList ∧
      (∀ others, IsCut "\\\\\\?a\\*\\".toList others ↔
        others = [.escaped '\\', .escaped '?', .single 'a', .escaped '*', .last]) ∧
      ∃ leading trailing,
        [.escaped '\\', .escaped '?', .single 'a', .escaped '*', .last] =
          leading ++ .escaped '*' :: trailing ∧
        "\\?a".toList = leading.flatMap Piece.resolved ∧
        "\\".toList = trailing.flatMap Piece.resolved := by
  have tame : hasWildcard "\\\\\\?a\\*\\".toList = false := by decide
  have text : unescape "\\\\\\?a\\*\\".toList = "\\?a".toList ++ '*' :: "\\".toList := by decide
  obtain ⟨parts, cut, -, -, -, origin⟩ := scanners_readAlike "\\\\\\?a\\*\\".toList
  have same : [.escaped '\\', .escaped '?', .single 'a', .escaped '*', .last] = parts :=
    (cut _).mp ⟨by decide, by simp, by decide⟩
  rw [← same] at cut origin
  exact ⟨tame, text, cut, origin tame _ '*' _ (.inl rfl) text⟩

end FilterQuery.Filter
