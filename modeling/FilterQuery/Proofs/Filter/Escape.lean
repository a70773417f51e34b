import FilterQuery.Proofs.Filter.Value
import FilterQuery.Proofs.Text.LowerCase
import Mathlib.Data.List.Basic

/-!
# Escapes

A value is cut into pieces: a backslash belongs to the character after it. What a value stands for
and whether it has a wildcard is said piece by piece, and every text has a value that stands for it.
-/

set_option autoImplicit false

namespace FilterQuery.Filter

open Text

/-- A part of a value: a backslash with the character after it, a character on its own, or a
backslash at the end. -/
inductive Piece where
  | escaped (c : Char)
  | single (c : Char)
  | last
  deriving DecidableEq

def pieces : List Char → List Piece
  | '\\' :: c :: rest => .escaped c :: pieces rest
  | ['\\'] => [.last]
  | c :: rest => .single c :: pieces rest
  | [] => []

/-- The characters that stand for themselves behind a backslash. -/
def escapables : List Char := ['\\', '*', '?', '=']

/-- The characters that a piece stands for. -/
def Piece.resolved : Piece → List Char
  | .escaped c => if c ∈ escapables then [c] else ['\\', c]
  | .single c => [c]
  | .last => ['\\']

def Piece.IsWild : Piece → Prop
  | .single c => c = '*' ∨ c = '?'
  | .escaped _ | .last => False

/-- The value with a backslash before each character that can be escaped. -/
def escape (text : List Char) : List Char :=
  text.flatMap fun c => if c ∈ escapables then ['\\', c] else [c]

theorem isEscapable_iff {c : Char} : isEscapable c = true ↔ c ∈ escapables := by
  simp [isEscapable, escapables, or_assoc]

theorem isWildcard_iff {c : Char} : isWildcard c = true ↔ c = '*' ∨ c = '?' := by
  simp [isWildcard]

section Pieces

variable {c : Char}

/-- Values are read from the left, a backslash together with the character after it. -/
@[elab_as_elim]
theorem pieces_induction {motive : List Char → Prop} (value : List Char) (nil : motive [])
    (last : motive ['\\'])
    (escaped : ∀ c rest, motive rest → motive ('\\' :: c :: rest))
    (single : ∀ c rest, c ≠ '\\' → motive rest → motive (c :: rest)) : motive value := by
  fun_induction pieces value with
  | case1 c rest ih => exact escaped c rest ih
  | case2 => exact last
  | case3 c rest noPair noLast ih =>
      refine single c rest ?_ ih
      rintro rfl
      cases rest with
      | nil => exact noLast rfl rfl
      | cons d others => exact noPair d others rfl rfl
  | case4 => exact nil

theorem pieces_cons (plain : c ≠ '\\') (rest : List Char) :
    pieces (c :: rest) = .single c :: pieces rest := by
  rw [pieces]
  · intro d others same
    exact absurd same plain
  · intro same
    exact absurd same plain

theorem resolveEscapes_escaped (c : Char) (rest : List Char) :
    resolveEscapes ('\\' :: c :: rest) =
      if isEscapable c then c :: resolveEscapes rest else '\\' :: c :: resolveEscapes rest :=
  rfl

theorem resolveEscapes_cons (plain : c ≠ '\\') (rest : List Char) :
    resolveEscapes (c :: rest) = c :: resolveEscapes rest := by
  simp only [resolveEscapes, resolveFrom, beq_iff_eq, if_neg plain]

theorem hasWildcard_escaped (c : Char) (rest : List Char) :
    hasWildcard ('\\' :: c :: rest) = hasWildcard rest :=
  rfl

theorem hasWildcard_cons (plain : c ≠ '\\') (rest : List Char) :
    hasWildcard (c :: rest) = (isWildcard c || hasWildcard rest) := by
  simp only [hasWildcard, hasWildcardFrom, beq_iff_eq, if_neg plain]

/-- A value without a backslash stands for itself, so the shortcut for it changes nothing. -/
theorem unescape_eq (value : List Char) : unescape value = resolveEscapes value := by
  rw [unescape]
  split
  · rfl
  · next free =>
      induction value with
      | nil => rfl
      | cons c rest ih =>
          simp only [List.contains_cons, Bool.or_eq_true, not_or, beq_iff_eq] at free
          rw [resolveEscapes_cons (Ne.symm free.1), ← ih free.2]

theorem unescape_eq_flatMap (value : List Char) :
    unescape value = (pieces value).flatMap Piece.resolved := by
  rw [unescape_eq]
  induction value using pieces_induction with
  | nil => rfl
  | last => rfl
  | escaped c rest ih =>
      rw [resolveEscapes_escaped, ih, pieces, List.flatMap_cons, Piece.resolved]
      simp only [isEscapable_iff]
      split <;> rfl
  | single c rest plain ih => rw [resolveEscapes_cons plain, ih, pieces_cons plain]; rfl

theorem hasWildcard_iff (value : List Char) :
    hasWildcard value = true ↔ ∃ piece ∈ pieces value, piece.IsWild := by
  induction value using pieces_induction with
  | nil => simp [hasWildcard, hasWildcardFrom, pieces]
  | last => simp [hasWildcard, hasWildcardFrom, pieces, Piece.IsWild]
  | escaped c rest ih => simp [hasWildcard_escaped, pieces, Piece.IsWild, ih]
  | single c rest plain ih =>
      simp [hasWildcard_cons plain, pieces_cons plain, Piece.IsWild, isWildcard_iff, ih]

theorem mem_of_single_mem {c : Char} {value : List Char} (member : .single c ∈ pieces value) :
    c ∈ value := by
  induction value using pieces_induction with
  | nil => cases member
  | last => simp [pieces] at member
  | escaped d rest ih =>
      have member : .single c ∈ pieces rest := by simpa [pieces] using member
      exact List.mem_cons_of_mem _ (List.mem_cons_of_mem _ (ih member))
  | single d rest plain ih =>
      rw [pieces_cons plain, List.mem_cons] at member
      rcases member with same | member
      · rw [Piece.single.inj same]
        exact List.mem_cons_self
      · exact List.mem_cons_of_mem _ (ih member)

theorem not_isNullWord_of_wild {piece : Piece} {value : List Char} (member : piece ∈ pieces value)
    (wild : piece.IsWild) : ¬IsNullWord value := by
  cases piece with
  | escaped c => exact wild.elim
  | last => exact wild.elim
  | single c =>
      intro null
      have inside := mem_of_single_mem member
      rcases wild with rfl | rfl
      all_goals
        have shown := mem_lower (by decide) (by decide) inside
        rcases null with null | null
        all_goals
          rw [null] at shown
          exact absurd shown (by decide)

end Pieces

section Escape

variable {c : Char} {text : List Char}

theorem escape_cons (c : Char) (rest : List Char) :
    escape (c :: rest) = (if c ∈ escapables then ['\\', c] else [c]) ++ escape rest := by
  rw [escape, List.flatMap_cons]
  rfl

theorem ne_backslash (plain : c ∉ escapables) : c ≠ '\\' := by
  rintro rfl
  exact plain (by decide)

/-- An escaped character is one piece, and so is any other character. -/
theorem pieces_escape (text : List Char) :
    pieces (escape text) = text.map fun c => if c ∈ escapables then .escaped c else .single c := by
  induction text with
  | nil => rfl
  | cons c rest ih =>
      rw [escape_cons]
      by_cases known : c ∈ escapables
      · simp [pieces, ih, known]
      · simp [pieces_cons (ne_backslash known), ih, known]

theorem unescape_escape (text : List Char) : unescape (escape text) = text := by
  have resolved (c : Char) :
      (if c ∈ escapables then Piece.escaped c else .single c).resolved = [c] := by
    by_cases known : c ∈ escapables
    · simp [Piece.resolved, known]
    · simp [Piece.resolved, known]
  rw [unescape_eq_flatMap, pieces_escape, List.flatMap_map]
  simp only [resolved, List.flatMap_singleton']

theorem escape_injective {text other : List Char} (same : escape text = escape other) :
    text = other := by
  rw [← unescape_escape text, same, unescape_escape]

theorem hasWildcard_escape (text : List Char) : hasWildcard (escape text) = false := by
  rw [← Bool.not_eq_true, hasWildcard_iff, pieces_escape]
  rintro ⟨piece, member, wild⟩
  obtain ⟨c, -, rfl⟩ := List.mem_map.mp member
  split at wild
  · exact wild
  · next plain => rcases wild with rfl | rfl <;> exact plain (by decide)

theorem mem_escape (member : c ∈ escape text) : c = '\\' ∨ c ∈ text := by
  obtain ⟨d, among, shown⟩ := List.mem_flatMap.mp member
  split at shown
  · rcases List.mem_cons.mp shown with rfl | shown
    · exact .inl rfl
    · exact .inr (List.mem_singleton.mp shown ▸ among)
  · exact .inr (List.mem_singleton.mp shown ▸ among)

theorem head?_escape (member : c ∈ (escape text).head?) :
    c = '\\' ∨ c ∈ text.head? ∧ c ∉ escapables := by
  cases text with
  | nil => cases member
  | cons d rest =>
      rw [escape_cons] at member
      by_cases known : d ∈ escapables
      · left
        simpa [known, eq_comm] using member
      · right
        have same : d = c := by simpa [known] using member
        exact ⟨by simp [same], same ▸ known⟩

theorem getLast?_escape (text : List Char) : (escape text).getLast? = text.getLast? := by
  rcases List.eq_nil_or_concat' text with rfl | ⟨before, c, rfl⟩
  · rfl
  · have last : escape (before ++ [c]) =
        escape before ++ if c ∈ escapables then ['\\', c] else [c] := by
      simp [escape]
    rw [last, List.getLast?_concat, List.getLast?_append]
    split <;> rfl

theorem isNullWord_escape {text : List Char} (null : IsNullWord (escape text)) :
    IsNullWord text := by
  by_cases plain : ∀ c ∈ text, c ∉ escapables
  · have same : escape text = text := by
      rw [escape, List.flatMap_congr fun c member => if_neg (plain c member),
        List.flatMap_singleton']
    rwa [same] at null
  · simp only [not_forall, not_not] at plain
    obtain ⟨c, member, escapable⟩ := plain
    have inside : '\\' ∈ escape text :=
      List.mem_flatMap.mpr ⟨c, member, by simp [escapable]⟩
    have shown : '\\' ∈ lower (escape text) := mem_lower (by decide) (by decide) inside
    rcases null with null | null
    all_goals
      rw [null] at shown
      exact absurd shown (by decide)

end Escape

end FilterQuery.Filter
