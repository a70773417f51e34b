/-!
# Order of texts

Lists of strings sorted by code point, with and without repetitions, and the search for a part of
a text.
-/

set_option autoImplicit false

namespace FilterQuery.Text

/-- Puts a string before the first one that is not smaller. -/
def insertSorted (text : String) : List String → List String
  | [] => [text]
  | head :: rest =>
      if head < text then head :: insertSorted text rest else text :: head :: rest

/-- The strings sorted by code point; repetitions stay. -/
def sorted (texts : List String) : List String :=
  texts.foldr insertSorted []

/-- Puts a string in its place in a sorted list that may hold it already. -/
def insertDistinct (text : String) : List String → List String
  | [] => [text]
  | head :: rest =>
      if head < text then head :: insertDistinct text rest
      else if head = text then head :: rest
      else text :: head :: rest

/-- The different strings of a list, sorted by code point: the canonical form of a finite set. -/
def distinct (texts : List String) : List String :=
  texts.foldr insertDistinct []

def isPart (part : List Char) : List Char → Bool
  | [] => part.isEmpty
  | c :: rest => part.isPrefixOf (c :: rest) || isPart part rest

def contains (text part : String) : Bool :=
  isPart part.toList text.toList

theorem mem_insertSorted {text other : String} {texts : List String} :
    other ∈ insertSorted text texts ↔ other = text ∨ other ∈ texts := by
  induction texts with
  | nil => simp [insertSorted]
  | cons head rest ih =>
      simp only [insertSorted]
      split <;> simp [ih]
      exact or_left_comm

theorem mem_insertDistinct {text other : String} {texts : List String} :
    other ∈ insertDistinct text texts ↔ other = text ∨ other ∈ texts := by
  induction texts with
  | nil => simp [insertDistinct]
  | cons head rest ih =>
      simp only [insertDistinct]
      split
      · simp [ih, or_left_comm]
      · split
        · next same => simp [same]
        · simp

theorem mem_distinct {text : String} {texts : List String} :
    text ∈ distinct texts ↔ text ∈ texts := by
  induction texts with
  | nil => simp [distinct]
  | cons head rest ih =>
      rw [distinct, List.foldr_cons, mem_insertDistinct, List.mem_cons]
      exact or_congr_right ih

end FilterQuery.Text
