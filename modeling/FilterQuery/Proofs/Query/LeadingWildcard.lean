import FilterQuery.Proofs.Filter.Escape
import FilterQuery.Proofs.Filter.Grammar
import FilterQuery.Proofs.Query.Building

/-!
# Wildcards in front

Which tokens put a pattern with a wildcard in front into a query. A value may not begin with a
wildcard, but its pattern is written without the backslashes, so that an escaped wildcard in front
is one in the pattern. Main statement: `leadingWildcard_iff`.
-/

set_option autoImplicit false

namespace FilterQuery.Filter

open Text FilterQuery.Field

/-- The text begins with a wildcard. -/
def LeadsWild (text : List Char) : Prop :=
  ∃ c ∈ text.head?, isWildcard c = true

/-- The value begins with a backslash and a character that would be a wildcard without it. -/
def LeadsEscaped (value : List Char) : Prop :=
  ['\\', '*'] <+: value ∨ ['\\', '?'] <+: value

/-- The token asks a keyword field for a value with a wildcard that begins with an escaped one. -/
structure HidesWildcard (cache : Cache) (filter : String) (before after : List Char) : Prop where
  form : IsEquality (strip filter.toList) before after
  named : IsDotted (strip before)
  allowed : (metadataOf cache (String.ofList (strip before))).searchable = true
  keyword : IsKeyword (metadataOf cache (String.ofList (strip before)))
  escaped : LeadsEscaped (strip after)
  wild : ∃ piece ∈ pieces (strip after), piece.IsWild

variable {c : Char} {rest value : List Char}

theorem leadsWild_cons_iff : LeadsWild (c :: rest) ↔ isWildcard c = true := by
  simp [LeadsWild]

theorem leadsEscaped_cons_iff : LeadsEscaped ('\\' :: c :: rest) ↔ isWildcard c = true := by
  rw [isWildcard_iff, eq_comm, eq_comm (a := c)]
  simp [LeadsEscaped]

theorem not_leadsEscaped_cons (plain : c ≠ '\\') : ¬LeadsEscaped (c :: rest) := by
  simp [LeadsEscaped, Ne.symm plain]

theorem isEscapable_of_isWildcard (wild : isWildcard c = true) : isEscapable c = true := by
  rcases isWildcard_iff.mp wild with rfl | rfl <;> rfl

/-- Without a wildcard in front of the value, one in front of its text was escaped. -/
theorem leadsWild_unescape_iff (start : ∀ c ∈ value.head?, isWildcard c = false) :
    LeadsWild (unescape value) ↔ LeadsEscaped value := by
  rw [unescape_eq]
  cases value using pieces_induction with
  | nil => simp [resolveEscapes, resolveFrom, LeadsWild, LeadsEscaped]
  | last => simp [resolveEscapes, resolveFrom, LeadsWild, LeadsEscaped, isWildcard]
  | escaped c rest =>
      rw [leadsEscaped_cons_iff, resolveEscapes_escaped]
      split
      · exact leadsWild_cons_iff
      · next bare =>
          rw [leadsWild_cons_iff]
          exact ⟨fun wild => absurd wild (by decide),
            fun wild => absurd (isEscapable_of_isWildcard wild) bare⟩
  | single c rest plain =>
      have tame : isWildcard c = false := start c rfl
      rw [resolveEscapes_cons plain, leadsWild_cons_iff, tame]
      simp [not_leadsEscaped_cons plain]

/-- A token is compiled into a pattern with a wildcard in front exactly when it hides one behind a
backslash. -/
theorem exists_compile_leadsWild_iff {cache : Cache} {filter : String} :
    (∃ field pattern, compile cache filter = .ok (.wildcard field pattern) ∧
        LeadsWild pattern.toList) ↔
      ∃ before after, HidesWildcard cache filter before after := by
  constructor
  · intro compiled
    obtain ⟨field, pattern, accepted, leads⟩ := compiled
    cases compile_eq_ok_iff.mp accepted with
    | equality form named same allowed meant =>
        subst same
        cases meant with
        | wildcard keyword _ start wild =>
            rw [String.toList_ofList, leadsWild_unescape_iff start] at leads
            exact ⟨_, _, form, named, allowed, keyword, leads, (hasWildcard_iff _).mp wild⟩
  · intro hidden
    obtain ⟨before, after, form, named, allowed, keyword, escaped, wild⟩ := hidden
    have start : ∀ c ∈ (strip after).head?, isWildcard c = false := by
      intro c first
      rcases escaped with ⟨rest, same⟩ | ⟨rest, same⟩
      all_goals
        rw [← same] at first
        cases first
        rfl
    have word : ¬IsNullWord (strip after) := by
      obtain ⟨piece, member, wild⟩ := wild
      exact not_isNullWord_of_wild member wild
    refine ⟨_, _, compile_eq_ok_iff.mpr (.equality form named rfl allowed
      (.wildcard keyword word start ((hasWildcard_iff _).mpr wild))), ?_⟩
    rwa [String.toList_ofList, leadsWild_unescape_iff start]

end FilterQuery.Filter

namespace FilterQuery.Query

open FilterQuery.Filter

/-- A query has a pattern with a wildcard in front exactly when one of its tokens hides one behind a
backslash: all other wildcards in front are refused. -/
theorem leadingWildcard_iff {filters : List String} {size : Int} {timeframe : String}
    {cache : Field.Cache} {now : Moment} {query : Query}
    (built : build filters size timeframe cache now = .ok query) :
    (∃ field pattern, .wildcard field pattern ∈ query.must ∧ LeadsWild pattern.toList) ↔
      ∃ filter ∈ filters, ∃ before after, HidesWildcard cache filter before after := by
  obtain ⟨_, time, clauses, isTime, compiled, rfl⟩ := build_eq_ok_iff.mp built
  have noTime (field pattern : String) : .wildcard field pattern ∉ time := by
    cases isTime <;> simp
  simp only [List.mem_append, noTime, false_or, compiled.mem_iff, ← exists_compile_leadsWild_iff]
  constructor
  · intro found
    obtain ⟨field, pattern, ⟨filter, member, accepted⟩, leads⟩ := found
    exact ⟨filter, member, field, pattern, accepted, leads⟩
  · intro found
    obtain ⟨filter, member, field, pattern, accepted, leads⟩ := found
    exact ⟨field, pattern, ⟨filter, member, accepted⟩, leads⟩

theorem leadingWildcard_iff_twoTokens :
    build ["path=a\\*b*", "name=\\?ohn*"] 10 "" .empty ⟨0, 0⟩ =
        .ok ⟨[.wildcard "path" "a*b*", .wildcard "name" "?ohn*"], 10⟩ ∧
      ∃ filter ∈ ["path=a\\*b*", "name=\\?ohn*"], ∃ before after,
        HidesWildcard .empty filter before after := by
  have built : build ["path=a\\*b*", "name=\\?ohn*"] 10 "" .empty ⟨0, 0⟩ =
      .ok ⟨[.wildcard "path" "a*b*", .wildcard "name" "?ohn*"], 10⟩ := by decide
  exact ⟨built, (leadingWildcard_iff built).mp ⟨"name", "?ohn*", by decide, '?', rfl, rfl⟩⟩

/-- A wildcard is refused in front of a value, and an escaped one is not, although the pattern
begins with it. -/
theorem build_escapedWildcard_leads :
    build ["name=*john"] 10 "" .empty ⟨0, 0⟩ =
        .error (.query (.filters [(0, ⟨"name", .leadingWildcard "*"⟩)])) ∧
      build ["name=\\*john*"] 10 "" .empty ⟨0, 0⟩ = .ok ⟨[.wildcard "name" "*john*"], 10⟩ ∧
      LeadsWild "*john*".toList :=
  ⟨by decide, by decide, '*', rfl, rfl⟩

end FilterQuery.Query
