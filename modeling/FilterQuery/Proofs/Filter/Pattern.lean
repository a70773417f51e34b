import FilterQuery.Proofs.Filter.Escape
import FilterQuery.Proofs.Filter.Grammar

/-!
# Patterns

What a keyword value with wildcards stands for, and what the pattern that it is compiled into stands
for where it is searched for. Main statement: `wildcard_matches_iff`.
-/

set_option autoImplicit false

namespace FilterQuery.Filter

open Text FilterQuery.Field

/-- A part of what a pattern stands for: a character, any one character, or any run of them. -/
inductive Symbol where
  | char (c : Char)
  | one
  | run
  deriving DecidableEq

/-- The texts that symbols stand for. -/
inductive Matches : List Symbol → List Char → Prop where
  | nil : Matches [] []
  | char {c : Char} {symbols : List Symbol} {text : List Char} :
      Matches symbols text → Matches (.char c :: symbols) (c :: text)
  | one {c : Char} {symbols : List Symbol} {text : List Char} :
      Matches symbols text → Matches (.one :: symbols) (c :: text)
  | run {skipped : List Char} {symbols : List Symbol} {text : List Char} :
      Matches symbols text → Matches (.run :: symbols) (skipped ++ text)

/-- What a character stands for without a backslash. -/
def Symbol.ofChar (c : Char) : Symbol :=
  if c = '*' then .run else if c = '?' then .one else .char c

/-- What a piece of a value stands for. -/
def Piece.symbols : Piece → List Symbol
  | .escaped c => if c ∈ escapables then [.char c] else [.char '\\', .char c]
  | .single c => [.ofChar c]
  | .last => [.char '\\']

/-- What a value stands for. -/
def meaning (value : List Char) : List Symbol :=
  (pieces value).flatMap Piece.symbols

/-- What a pattern stands for where it is searched for: a backslash makes the next character stand
for itself, whatever it is. At the end it stands for itself. -/
def readPattern : List Char → List Symbol
  | '\\' :: c :: rest => .char c :: readPattern rest
  | c :: rest => .ofChar c :: readPattern rest
  | [] => []

/-- The value stands for no asterisk and no question mark, and for no backslash but at its end. -/
structure IsFaithful (symbols : List Symbol) : Prop where
  noAsterisk : .char '*' ∉ symbols
  noQuestionMark : .char '?' ∉ symbols
  noBackslash : .char '\\' ∉ symbols.dropLast

def Symbol.spelling : Symbol → Char
  | .char c => c
  | .one => '?'
  | .run => '*'

/-- The symbols of a pattern as which symbols are spelt. -/
def reread (symbols : List Symbol) : List Symbol :=
  readPattern (symbols.map Symbol.spelling)

theorem unescape_eq_map (value : List Char) :
    unescape value = (meaning value).map Symbol.spelling := by
  have spelt : Piece.resolved = fun piece => piece.symbols.map Symbol.spelling := by
    funext piece
    cases piece with
    | escaped c =>
        simp only [Piece.resolved, Piece.symbols]
        split <;> rfl
    | single c =>
        simp only [Piece.resolved, Piece.symbols, Symbol.ofChar]
        split
        · next same => subst same; rfl
        · split
          · next same => subst same; rfl
          · rfl
    | last => rfl
  rw [unescape_eq_flatMap, meaning, List.map_flatMap, spelt]

/-- The shortest text that a symbol stands for, with an exclamation mark for any one character. -/
def Symbol.least : Symbol → List Char
  | .char c => [c]
  | .one => ['!']
  | .run => []

def shortest (symbols : List Symbol) : List Char :=
  symbols.flatMap Symbol.least

theorem shortest_cons (symbol : Symbol) (symbols : List Symbol) :
    shortest (symbol :: symbols) = symbol.least ++ shortest symbols :=
  List.flatMap_cons

theorem matches_char_cons {c : Char} {symbols : List Symbol} {text : List Char} :
    Matches (.char c :: symbols) text ↔ ∃ rest, text = c :: rest ∧ Matches symbols rest := by
  constructor
  · intro stands
    cases stands with
    | char stands => exact ⟨_, rfl, stands⟩
  · rintro ⟨rest, rfl, stands⟩
    exact .char stands

theorem matches_shortest (symbols : List Symbol) : Matches symbols (shortest symbols) := by
  induction symbols with
  | nil => exact .nil
  | cons symbol symbols ih =>
      cases symbol with
      | char c => exact .char ih
      | one => exact .one ih
      | run =>
          rw [shortest_cons, Symbol.least]
          exact .run ih

theorem Matches.length_le {symbols : List Symbol} {text : List Char}
    (stands : Matches symbols text) : (shortest symbols).length ≤ text.length := by
  induction stands with
  | nil => exact Nat.le_refl 0
  | char _ ih => exact Nat.succ_le_succ ih
  | one _ ih => exact Nat.succ_le_succ ih
  | @run skipped symbols text _ ih =>
      rw [List.length_append]
      exact Nat.le_trans ih (Nat.le_add_left _ _)

theorem Matches.of_run {symbols : List Symbol} {text : List Char}
    (stands : Matches (.run :: symbols) text) (short : text.length ≤ (shortest symbols).length) :
    Matches symbols text := by
  cases stands with
  | @run skipped _ text stands =>
      have least := stands.length_le
      rw [List.length_append] at short
      have none : skipped = [] := List.eq_nil_of_length_eq_zero (by omega)
      rwa [none]

theorem reread_backslash (symbol : Symbol) (symbols : List Symbol) :
    reread (.char '\\' :: symbol :: symbols) = .char symbol.spelling :: reread symbols := rfl

theorem reread_cons {symbol : Symbol} (plain : symbol ≠ .char '\\') (symbols : List Symbol) :
    reread (symbol :: symbols) = .ofChar symbol.spelling :: reread symbols := by
  have other : symbol.spelling ≠ '\\' := by
    cases symbol with
    | char c => exact fun same => plain (congrArg Symbol.char same)
    | one => decide
    | run => decide
  rw [reread, List.map_cons, readPattern]
  · rfl
  · intro c rest same
    exact absurd same other

theorem reread_induction {motive : List Symbol → Prop} (nil : motive [])
    (last : motive [.char '\\'])
    (pair : ∀ symbol rest, motive rest → motive (.char '\\' :: symbol :: rest))
    (plain : ∀ symbol rest, symbol ≠ .char '\\' → motive rest → motive (symbol :: rest)) :
    ∀ symbols, motive symbols
  | [] => nil
  | [symbol] =>
      if same : symbol = .char '\\' then same ▸ last else plain symbol [] same nil
  | first :: second :: rest =>
      if same : first = .char '\\' then
        same ▸ pair second rest (reread_induction nil last pair plain rest)
      else
        plain first (second :: rest) same (reread_induction nil last pair plain (second :: rest))

theorem length_least_ofChar (c : Char) : (Symbol.ofChar c).least.length ≤ 1 := by
  rw [Symbol.ofChar]
  split
  · exact Nat.zero_le 1
  · split <;> exact Nat.le_refl 1

/-- A backslash that takes the next symbol to it, and an asterisk that becomes a run, make the
shortest text shorter; nothing makes it longer. -/
theorem length_shortest_reread (symbols : List Symbol) :
    (shortest (reread symbols)).length ≤ (shortest symbols).length := by
  induction symbols using reread_induction with
  | nil => exact Nat.le_refl 0
  | last => exact Nat.le_refl 1
  | pair symbol rest ih =>
      simp only [reread_backslash, shortest_cons, Symbol.least, List.length_append,
        List.length_singleton]
      omega
  | plain symbol rest plain ih =>
      rw [reread_cons plain, shortest_cons, shortest_cons, List.length_append, List.length_append]
      refine Nat.add_le_add ?_ ih
      cases symbol with
      | char c => exact length_least_ofChar c
      | one => exact Nat.le_refl 1
      | run => exact Nat.le_refl 0

theorem mem_dropLast_cons {symbol other : Symbol} {symbols : List Symbol} :
    other ∈ (symbol :: symbols).dropLast ↔
      symbols ≠ [] ∧ (other = symbol ∨ other ∈ symbols.dropLast) := by
  cases symbols with
  | nil => simp
  | cons next rest => simp

theorem isFaithful_cons {symbol : Symbol} {symbols : List Symbol}
    (plain : symbol ≠ .char '\\') :
    IsFaithful (symbol :: symbols) ↔
      symbol ≠ .char '*' ∧ symbol ≠ .char '?' ∧ IsFaithful symbols := by
  constructor
  · intro faithful
    obtain ⟨noAsterisk, noQuestionMark, noBackslash⟩ := faithful
    rw [List.mem_cons, not_or] at noAsterisk noQuestionMark
    refine ⟨Ne.symm noAsterisk.1, Ne.symm noQuestionMark.1, noAsterisk.2, noQuestionMark.2, ?_⟩
    intro member
    refine noBackslash (mem_dropLast_cons.mpr ⟨?_, .inr member⟩)
    rintro rfl
    cases member
  · intro parts
    obtain ⟨isNotAsterisk, isNotQuestionMark, faithful⟩ := parts
    refine ⟨?_, ?_, ?_⟩
    · rw [List.mem_cons, not_or]
      exact ⟨Ne.symm isNotAsterisk, faithful.noAsterisk⟩
    · rw [List.mem_cons, not_or]
      exact ⟨Ne.symm isNotQuestionMark, faithful.noQuestionMark⟩
    · rw [mem_dropLast_cons]
      rintro ⟨-, same | member⟩
      · exact plain same.symm
      · exact faithful.noBackslash member

theorem not_isFaithful_backslash (symbol : Symbol) (symbols : List Symbol) :
    ¬IsFaithful (.char '\\' :: symbol :: symbols) := fun faithful =>
  faithful.noBackslash (by simp)

theorem not_matches_char_cons {c : Char} {symbols : List Symbol} {text : List Char}
    (short : text.length ≤ (shortest symbols).length) : ¬Matches (.char c :: symbols) text := by
  intro stands
  obtain ⟨rest, rfl, remaining⟩ := matches_char_cons.mp stands
  have long := remaining.length_le
  rw [List.length_cons] at short
  omega

theorem ofChar_eq_char {c : Char} (noAsterisk : c ≠ '*') (noQuestionMark : c ≠ '?') :
    Symbol.ofChar c = .char c := by
  rw [Symbol.ofChar, if_neg noAsterisk, if_neg noQuestionMark]

/-- Symbols that stand for the shortest text of their pattern are faithful: no text that they stand
for is shorter than that one, so nothing in the pattern is shorter than it is in the symbols. -/
theorem isFaithful_of_matches {symbols : List Symbol}
    (stands : Matches symbols (shortest (reread symbols))) : IsFaithful symbols := by
  induction symbols using reread_induction with
  | nil => exact ⟨by simp, by simp, by simp⟩
  | last => exact ⟨by decide, by decide, by simp⟩
  | pair symbol rest =>
      rw [reread_backslash, shortest_cons, matches_char_cons] at stands
      obtain ⟨text, same, stands⟩ := stands
      obtain ⟨spelt, rfl⟩ := List.cons.inj same
      have backslash : symbol = .char '\\' := by
        cases symbol with
        | char c => exact congrArg Symbol.char spelt
        | one => cases spelt
        | run => cases spelt
      subst backslash
      exact absurd stands (not_matches_char_cons (length_shortest_reread rest))
  | plain symbol rest plain ih =>
      have short := length_shortest_reread rest
      rw [reread_cons plain, shortest_cons] at stands
      rw [isFaithful_cons plain]
      cases symbol with
      | char c =>
          by_cases asterisk : c = '*'
          · subst asterisk
            exact absurd stands (not_matches_char_cons short)
          by_cases questionMark : c = '?'
          · subst questionMark
            obtain ⟨_, same, -⟩ := matches_char_cons.mp stands
            cases same
          rw [Symbol.spelling, ofChar_eq_char asterisk questionMark] at stands
          obtain ⟨_, same, stands⟩ := matches_char_cons.mp stands
          obtain ⟨-, rfl⟩ := List.cons.inj same
          exact ⟨fun same => asterisk (Symbol.char.inj same),
            fun same => questionMark (Symbol.char.inj same), ih stands⟩
      | one =>
          cases stands with
          | one stands => exact ⟨nofun, nofun, ih stands⟩
      | run => exact ⟨nofun, nofun, ih (stands.of_run short)⟩

theorem IsFaithful.reread_eq {symbols : List Symbol} (faithful : IsFaithful symbols) :
    reread symbols = symbols := by
  induction symbols using reread_induction with
  | nil => rfl
  | last => rfl
  | pair symbol rest => exact absurd faithful (not_isFaithful_backslash symbol rest)
  | plain symbol rest plain ih =>
      obtain ⟨noAsterisk, noQuestionMark, faithful⟩ := (isFaithful_cons plain).mp faithful
      rw [reread_cons plain, ih faithful]
      cases symbol with
      | char c =>
          rw [Symbol.spelling, ofChar_eq_char (fun same => noAsterisk (congrArg Symbol.char same))
            fun same => noQuestionMark (congrArg Symbol.char same)]
      | one => rfl
      | run => rfl

/-- Spelt out and read again, symbols stand for the same texts exactly when they are faithful. -/
theorem reread_matches_iff {symbols : List Symbol} :
    (∀ text, Matches (reread symbols) text ↔ Matches symbols text) ↔ IsFaithful symbols := by
  constructor
  · exact fun alike => isFaithful_of_matches ((alike _).mp (matches_shortest _))
  · intro faithful text
    rw [faithful.reread_eq]

/-- A keyword value with a wildcard is compiled into a pattern. The pattern stands for the same texts
as the value exactly when the value stands for no asterisk and no question mark, and for no
backslash but at its end. -/
theorem wildcard_matches_iff {cache : Cache} {filter : String} {before after : List Char}
    {clause : Clause} (form : IsEquality (strip filter.toList) before after)
    (keyword : IsKeyword (metadataOf cache (String.ofList (strip before))))
    (wild : ∃ piece ∈ pieces (strip after), piece.IsWild)
    (compiled : compile cache filter = .ok clause) :
    ∃ pattern, clause = .wildcard (String.ofList (strip before)) pattern ∧
      ((∀ text, Matches (readPattern pattern.toList) text ↔ Matches (meaning (strip after)) text) ↔
        IsFaithful (meaning (strip after))) := by
  rw [compile, compileStripped_of_isEquality form, equality_eq_ok_iff] at compiled
  obtain ⟨field, rfl, -, -, meant⟩ := compiled
  have found := (hasWildcard_iff _).mpr wild
  cases meant with
  | number numeric _ => simp [keyword.notNumeric] at numeric
  | date date _ => simp [keyword.notDate] at date
  | truth boolean _ => simp [keyword.notBoolean] at boolean
  | missing _ null =>
      obtain ⟨piece, member, wild⟩ := wild
      exact absurd null (not_isNullWord_of_wild member wild)
  | textMatch _ _ _ plain => simp [found] at plain
  | wildcard _ _ _ _ =>
      refine ⟨_, rfl, ?_⟩
      rw [String.toList_ofList, unescape_eq_map]
      exact reread_matches_iff

theorem wildcard_matches_escapedEquals :
    compile .empty " sum=a\\=b*\\ " = .ok (.wildcard "sum" "a=b*\\") ∧
      ∀ text, Matches (readPattern "a=b*\\".toList) text ↔
        Matches (meaning "a\\=b*\\".toList) text := by
  have form : IsEquality (strip " sum=a\\=b*\\ ".toList) "sum".toList "a\\=b*\\".toList :=
    { free := by
        unfold IsFixed
        decide
      flat := forall_not_isAngle (by decide)
      split := rfl
      first := by decide }
  have wild : ∃ piece ∈ pieces (strip "a\\=b*\\".toList), piece.IsWild :=
    ⟨.single '*', by decide, .inl rfl⟩
  have compiled : compile .empty " sum=a\\=b*\\ " = .ok (.wildcard "sum" "a=b*\\") := by decide
  have keyword : IsKeyword (metadataOf .empty (String.ofList (strip "sum".toList))) :=
    ⟨by decide, by decide, by decide, by decide⟩
  obtain ⟨pattern, same, alike⟩ := wildcard_matches_iff form keyword wild compiled
  obtain ⟨-, rfl⟩ := Clause.wildcard.inj same
  exact ⟨compiled, alike.mpr ⟨by decide, by decide, by decide⟩⟩

/-- An asterisk that is escaped beside a wildcard is a wildcard in the pattern. -/
theorem compile_escapedAsterisk_widens :
    compile .empty "description=test\\**product" =
        .ok (.wildcard "description" "test**product") ∧
      Matches (readPattern "test**product".toList) "testproduct".toList ∧
      ¬Matches (meaning "test\\**product".toList) "testproduct".toList := by
  refine ⟨by decide, ?_, ?_⟩
  · have least : shortest (readPattern "test**product".toList) = "testproduct".toList := by decide
    rw [← least]
    exact matches_shortest _
  · intro stands
    have spelt : meaning "test\\**product".toList =
        .char 't' :: .char 'e' :: .char 's' :: .char 't' :: .char '*' ::
          meaning "*product".toList := by decide
    rw [spelt] at stands
    simp [matches_char_cons] at stands

end FilterQuery.Filter
