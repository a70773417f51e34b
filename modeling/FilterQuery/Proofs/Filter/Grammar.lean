import FilterQuery.Proofs.Filter.FieldName
import FilterQuery.Proofs.Filter.Value
import Mathlib.Data.List.TakeDrop
import Mathlib.Data.List.TakeWhile

/-!
# The grammar of filter tokens

The forms of a token, said without the order in which they are tried: two names with a form of
their own, a range around the first angle bracket, and an equality around the first equals sign.
Main statement: `compile_eq_ok_iff` says that a token is compiled into a clause exactly when the
token without surrounding blanks is written in a form of that clause.
-/

set_option autoImplicit false

namespace FilterQuery.Filter

open Text FilterQuery.Field

/-- The spelling of a comparison in a token. -/
def Comparison.symbol : Comparison → List Char
  | .less => ['<']
  | .atMost => ['<', '=']
  | .greater => ['>']
  | .atLeast => ['>', '=']

/-- A character that begins a comparison. -/
def IsAngle (c : Char) : Prop :=
  c = '<' ∨ c = '>'

/-- The text begins with one of the two names that have a form of their own. -/
def IsFixed (text : List Char) : Prop :=
  "_id=".toList <+: text ∨ "detection_id_dedup=".toList <+: text

/-- The text is a range: its first angle bracket begins the comparison, which is the longest that is
spelt there. -/
structure IsRange (text before : List Char) (comparison : Comparison) (after : List Char) :
    Prop where
  free : ¬IsFixed text
  split : text = before ++ (comparison.symbol ++ after)
  first : ∀ c ∈ before, ¬IsAngle c
  longest : ∀ other : Comparison, other.symbol <+: comparison.symbol ++ after →
    other.symbol.length ≤ comparison.symbol.length

/-- The text is an equality: it has no angle bracket, and it is split at its first equals sign. -/
structure IsEquality (text before after : List Char) : Prop where
  free : ¬IsFixed text
  flat : ∀ c ∈ text, ¬IsAngle c
  split : text = before ++ '=' :: after
  first : '=' ∉ before

/-- The text has none of the forms. -/
structure IsFormless (text : List Char) : Prop where
  free : ¬IsFixed text
  flat : ∀ c ∈ text, ¬IsAngle c
  noEquals : '=' ∉ text

/-- The clauses that a text without surrounding blanks is written for. -/
inductive Written (cache : Cache) (text : List Char) : Clause → Prop where
  | ids {value : List Char} :
      text = "_id=".toList ++ value → Written cache text (.ids (String.ofList (strip value)))
  | dedup {value : List Char} :
      text = "detection_id_dedup=".toList ++ value →
      Written cache text
        (.term "detection_id_dedup" (.text (String.ofList (strip value))))
  | range {before after : List Char} {comparison : Comparison} {field : String}
      {bound : Numeral} :
      IsRange text before comparison after → IsDotted (strip before) →
      field = String.ofList (strip before) → strip after ≠ [] →
      (metadataOf cache field).searchable = true →
      IsBound (metadataOf cache field) (strip after) bound →
      Written cache text (.range field comparison bound)
  | equality {before after : List Char} {field : String} {clause : Clause} :
      IsEquality text before after → IsDotted (strip before) →
      field = String.ofList (strip before) →
      (metadataOf cache field).searchable = true →
      Means field (metadataOf cache field) (strip after) clause →
      Written cache text clause

/-! ## Comparisons -/

theorem symbol_comparisonAt {angle : Char} (isAngle : IsAngle angle) (after : List Char) :
    (comparisonAt angle after).1.symbol ++ (comparisonAt angle after).2 = angle :: after := by
  rcases isAngle with rfl | rfl
  all_goals
    simp only [comparisonAt]
    split <;> rfl

private theorem prefix_pair {a b c : Char} {rest : List Char} (spelt : [a, b] <+: c :: rest) :
    ∃ following, rest = b :: following := by
  obtain ⟨following, same⟩ := spelt
  cases same
  exact ⟨following, rfl⟩

/-- An equals sign is read with its angle bracket, so no longer comparison is spelt there. -/
theorem length_symbol_le_comparisonAt {angle : Char} (isAngle : IsAngle angle) {after : List Char}
    {other : Comparison} (spelt : other.symbol <+: angle :: after) :
    other.symbol.length ≤ (comparisonAt angle after).1.symbol.length := by
  have single (alone : ∀ rest, after ≠ '=' :: rest) : other.symbol.length ≤ 1 := by
    cases other with
    | less => exact Nat.le_refl 1
    | greater => exact Nat.le_refl 1
    | atMost =>
        obtain ⟨rest, same⟩ := prefix_pair spelt
        exact absurd same (alone rest)
    | atLeast =>
        obtain ⟨rest, same⟩ := prefix_pair spelt
        exact absurd same (alone rest)
  rcases isAngle with rfl | rfl
  all_goals
    simp only [comparisonAt]
    split
    · cases other <;> simp [Comparison.symbol]
    · next alone => exact single alone

/-- A spelling and the text after it are read back when no longer comparison is spelt there. -/
theorem comparisonAt_of_longest {comparison : Comparison} {angle : Char} {tail after : List Char}
    (split : comparison.symbol ++ after = angle :: tail)
    (longest : ∀ other : Comparison, other.symbol <+: comparison.symbol ++ after →
      other.symbol.length ≤ comparison.symbol.length) :
    comparisonAt angle tail = (comparison, after) := by
  cases comparison with
  | atMost => cases split; rfl
  | atLeast => cases split; rfl
  | less =>
      obtain ⟨rfl, rfl⟩ : '<' = angle ∧ after = tail := by
        simpa [Comparison.symbol] using split
      simp only [comparisonAt]
      split
      · next rest => exact absurd (longest .atMost ⟨rest, rfl⟩) (by decide)
      · rfl
  | greater =>
      obtain ⟨rfl, rfl⟩ : '>' = angle ∧ after = tail := by
        simpa [Comparison.symbol] using split
      simp only [comparisonAt]
      split
      · next rest => exact absurd (longest .atLeast ⟨rest, rfl⟩) (by decide)
      · rfl

/-! ## Forms -/

theorem after?_eq_some_iff {start : String} {text rest : List Char} :
    after? start text = some rest ↔ text = start.toList ++ rest := by
  simp only [after?]
  split
  · next begins =>
      obtain ⟨others, rfl⟩ := List.isPrefixOf_iff_prefix.mp begins
      simp
  · next differs =>
      simp only [reduceCtorEq, false_iff]
      intro same
      subst same
      exact differs (List.isPrefixOf_iff_prefix.mpr ⟨rest, rfl⟩)

theorem after?_eq_none_iff {start : String} {text : List Char} :
    after? start text = none ↔ ¬start.toList <+: text := by
  simp only [after?]
  split
  · next begins => simpa using List.isPrefixOf_iff_prefix.mp begins
  · next differs => simpa using fun begins => differs (List.isPrefixOf_iff_prefix.mpr begins)

/-- A text is split at the first character that is not of a kind. -/
private theorem span_append_cons {kind : Char → Bool} {before : List Char} {c : Char}
    (rest : List Char) (inside : ∀ d ∈ before, kind d = true) (outside : kind c = false) :
    (before ++ c :: rest).span kind = (before, c :: rest) := by
  rw [List.span_eq_takeWhile_dropWhile, List.takeWhile_append_of_pos inside,
    List.dropWhile_append_of_pos inside]
  simp [outside]

private theorem span_of_forall {kind : Char → Bool} {text : List Char}
    (inside : ∀ c ∈ text, kind c = true) : text.span kind = (text, []) := by
  rw [List.span_eq_takeWhile_dropWhile, List.takeWhile_eq_self_iff.mpr inside,
    List.dropWhile_eq_nil_iff.mpr inside]

/-- A text has a first character that is not of a kind, or none. -/
private theorem exists_first (kind : Char → Bool) (text : List Char) :
    (∀ c ∈ text, kind c = true) ∨ ∃ before c rest, text = before ++ c :: rest ∧
      (∀ d ∈ before, kind d = true) ∧ kind c = false := by
  induction text with
  | nil => exact .inl (by simp)
  | cons head text ih =>
      cases known : kind head with
      | false => exact .inr ⟨[], head, text, rfl, by simp, known⟩
      | true =>
          rcases ih with inside | ⟨before, c, rest, rfl, inside, outside⟩
          · exact .inl (by simpa [known] using inside)
          · exact .inr ⟨head :: before, c, rest, rfl, by simpa [known] using inside, outside⟩

theorem not_isAngle_iff {c : Char} : ¬IsAngle c ↔ (c != '<' && c != '>') = true := by
  simp [IsAngle, not_or]

theorem forall_not_isAngle {text : List Char}
    (flat : text.all (fun c => c != '<' && c != '>') = true) : ∀ c ∈ text, ¬IsAngle c :=
  fun c member => not_isAngle_iff.mpr (List.all_eq_true.mp flat c member)

/-- Every text has one of the forms. -/
theorem exists_form (text : List Char) :
    (∃ value, text = "_id=".toList ++ value) ∨
      (∃ value, text = "detection_id_dedup=".toList ++ value) ∨
      (∃ before comparison after, IsRange text before comparison after) ∨
      (∃ before after, IsEquality text before after) ∨ IsFormless text := by
  by_cases fixed : IsFixed text
  · rcases fixed with ⟨value, split⟩ | ⟨value, split⟩
    · exact .inl ⟨value, split.symm⟩
    · exact .inr (.inl ⟨value, split.symm⟩)
  refine .inr (.inr ?_)
  rcases exists_first (fun c => c != '<' && c != '>') text with flat | ⟨before, angle, tail, rfl,
      inside, outside⟩
  · refine .inr ?_
    have flat : ∀ c ∈ text, ¬IsAngle c := fun c member => not_isAngle_iff.mpr (flat c member)
    rcases exists_first (· != '=') text with noEquals | ⟨before, c, after, split, first, equals⟩
    · exact .inr ⟨fixed, flat, fun member => by simpa using noEquals '=' member⟩
    · have same : c = '=' := by simpa using equals
      exact .inl ⟨before, after, fixed, flat, same ▸ split,
        fun member => by simpa using first '=' member⟩
  · have isAngle : IsAngle angle := by
      by_contra other
      rw [not_isAngle_iff.mp other] at outside
      cases outside
    have spelling := symbol_comparisonAt isAngle tail
    refine .inl ⟨before, (comparisonAt angle tail).1, (comparisonAt angle tail).2, fixed, ?_,
      fun c member => not_isAngle_iff.mpr (inside c member), ?_⟩
    · rw [spelling]
    · intro other spelt
      rw [spelling] at spelt
      exact length_symbol_le_comparisonAt isAngle spelt

/-! ## Compiling by form -/

variable {cache : Cache} {text before after : List Char} {comparison : Comparison} {clause : Clause}

theorem compileStripped_of_ids {value : List Char} (split : text = "_id=".toList ++ value) :
    compileStripped cache text = .ok (.ids (String.ofList (strip value))) := by
  have read := after?_eq_some_iff.mpr split
  have filled : text.isEmpty = false := by simp [split]
  simp only [compileStripped, filled, read, Bool.false_eq_true, ↓reduceIte]

theorem compileStripped_of_dedup {value : List Char}
    (split : text = "detection_id_dedup=".toList ++ value) :
    compileStripped cache text =
      .ok (.term "detection_id_dedup" (.text (String.ofList (strip value)))) := by
  have read := after?_eq_some_iff.mpr split
  have other : after? "_id=" text = none := by
    rw [after?_eq_none_iff, split]
    intro begins
    obtain ⟨rest, same⟩ := begins
    cases same
  have filled : text.isEmpty = false := by simp [split]
  simp only [compileStripped, filled, read, other, Bool.false_eq_true, ↓reduceIte]

private theorem after?_of_free (free : ¬IsFixed text) :
    after? "_id=" text = none ∧ after? "detection_id_dedup=" text = none :=
  ⟨after?_eq_none_iff.mpr fun begins => free (.inl begins),
    after?_eq_none_iff.mpr fun begins => free (.inr begins)⟩

private theorem exists_symbol (comparison : Comparison) :
    ∃ angle rest, comparison.symbol = angle :: rest ∧ IsAngle angle := by
  cases comparison
  · exact ⟨'<', [], rfl, .inl rfl⟩
  · exact ⟨'<', ['='], rfl, .inl rfl⟩
  · exact ⟨'>', [], rfl, .inr rfl⟩
  · exact ⟨'>', ['='], rfl, .inr rfl⟩

/-- A range is compiled from the text on both sides of its first angle bracket. -/
theorem compileStripped_of_isRange (cache : Cache)
    (form : IsRange text before comparison after) :
    ∃ angle tail, comparisonAt angle tail = (comparison, after) ∧
      compileStripped cache text = range cache before angle tail := by
  obtain ⟨angle, rest, symbol, isAngle⟩ := exists_symbol comparison
  have spelling : comparison.symbol ++ after = angle :: (rest ++ after) := by
    rw [symbol, List.cons_append]
  have split : text = before ++ angle :: (rest ++ after) := by rw [form.split, spelling]
  have outside : (angle != '<' && angle != '>') = false := by
    rcases isAngle with rfl | rfl <;> rfl
  have cut := span_append_cons (rest ++ after)
    (fun c member => not_isAngle_iff.mp (form.first c member)) outside
  rw [← split] at cut
  obtain ⟨noId, noDedup⟩ := after?_of_free form.free
  have filled : text.isEmpty = false := by simp [split]
  refine ⟨angle, rest ++ after, comparisonAt_of_longest spelling form.longest, ?_⟩
  simp only [compileStripped, filled, noId, noDedup, cut, Bool.false_eq_true, ↓reduceIte]

/-- An equality is compiled from the text on both sides of its first equals sign. -/
theorem compileStripped_of_isEquality (form : IsEquality text before after) :
    compileStripped cache text = equality cache before after := by
  have noAngle := span_of_forall fun c member => not_isAngle_iff.mp (form.flat c member)
  have cut : text.span (· != '=') = (before, '=' :: after) := by
    rw [form.split]
    refine span_append_cons after ?_ rfl
    intro c member
    exact bne_iff_ne.mpr fun same => form.first (same ▸ member)
  obtain ⟨noId, noDedup⟩ := after?_of_free form.free
  have filled : text.isEmpty = false := by simp [form.split]
  simp only [compileStripped, filled, noId, noDedup, noAngle, cut, Bool.false_eq_true, ↓reduceIte]

/-- A text without a form is rejected: it is empty or has no operator. -/
theorem compileStripped_of_isFormless (form : IsFormless text) :
    compileStripped cache text =
      if text = [] then reject "" .empty else reject (String.ofList text) .noOperator := by
  have noAngle := span_of_forall fun c member => not_isAngle_iff.mp (form.flat c member)
  have noEquals : text.span (· != '=') = (text, []) :=
    span_of_forall fun c member => bne_iff_ne.mpr fun same => form.noEquals (same ▸ member)
  obtain ⟨noId, noDedup⟩ := after?_of_free form.free
  simp only [compileStripped, noId, noDedup, noAngle, noEquals, List.isEmpty_iff]

theorem range_eq_ok_iff {angle : Char} {tail : List Char}
    (read : comparisonAt angle tail = (comparison, after)) :
    range cache before angle tail = .ok clause ↔
      ∃ field bound, field = String.ofList (strip before) ∧ IsDotted (strip before) ∧
        strip after ≠ [] ∧ (metadataOf cache field).searchable = true ∧
        IsBound (metadataOf cache field) (strip after) bound ∧
        clause = .range field comparison bound := by
  simp only [range, read]
  by_cases named : IsDotted (strip before)
  · by_cases missing : strip after = []
    · simp [isFieldName_strip_iff.mpr named, missing, reject]
    · simp only [isFieldName_strip_iff.mpr named, List.isEmpty_eq_false_iff.mpr missing, named,
        missing, Bool.not_true, Bool.false_eq_true, ↓reduceIte, bind_eq_ok_iff,
        searchable_eq_ok_iff, bound_eq_ok_iff, ne_eq, not_false_eq_true, true_and]
      constructor
      · intro accepted
        obtain ⟨_, ⟨rfl, allowed⟩, bound, isBound, made⟩ := accepted
        cases made
        exact ⟨_, bound, rfl, allowed, isBound, rfl⟩
      · intro allowed
        obtain ⟨_, bound, rfl, allowed, isBound, rfl⟩ := allowed
        exact ⟨_, ⟨rfl, allowed⟩, bound, isBound, rfl⟩
  · simp [isFieldName_strip_eq_false_iff.mpr named, named, reject]

theorem equality_eq_ok_iff :
    equality cache before after = .ok clause ↔
      ∃ field, field = String.ofList (strip before) ∧ IsDotted (strip before) ∧
        (metadataOf cache field).searchable = true ∧
        Means field (metadataOf cache field) (strip after) clause := by
  simp only [equality]
  by_cases named : IsDotted (strip before)
  · simp only [isFieldName_strip_iff.mpr named, named, Bool.not_true, Bool.false_eq_true,
      ↓reduceIte, bind_eq_ok_iff, searchable_eq_ok_iff, exact_eq_ok_iff, true_and]
    constructor
    · intro accepted
      obtain ⟨_, ⟨rfl, allowed⟩, meant⟩ := accepted
      exact ⟨_, rfl, allowed, meant⟩
    · intro allowed
      obtain ⟨_, rfl, allowed, meant⟩ := allowed
      exact ⟨_, ⟨rfl, allowed⟩, meant⟩
  · simp [isFieldName_strip_eq_false_iff.mpr named, named, reject]

theorem written_of_compileStripped (accepted : compileStripped cache text = .ok clause) :
    Written cache text clause := by
  rcases exists_form text with ⟨value, split⟩ | ⟨value, split⟩ |
    ⟨before, comparison, after, form⟩ | ⟨before, after, form⟩ | form
  · rw [compileStripped_of_ids split] at accepted
    cases accepted
    exact .ids split
  · rw [compileStripped_of_dedup split] at accepted
    cases accepted
    exact .dedup split
  · obtain ⟨angle, tail, read, compiled⟩ := compileStripped_of_isRange cache form
    obtain ⟨field, bound, same, named, filled, allowed, isBound, rfl⟩ :=
      (range_eq_ok_iff read).mp (compiled ▸ accepted)
    exact .range form named same filled allowed isBound
  · rw [compileStripped_of_isEquality form] at accepted
    obtain ⟨field, same, named, allowed, meant⟩ := equality_eq_ok_iff.mp accepted
    exact .equality form named same allowed meant
  · rw [compileStripped_of_isFormless form] at accepted
    split at accepted <;> cases accepted

theorem Written.compileStripped (written : Written cache text clause) :
    compileStripped cache text = .ok clause := by
  cases written with
  | ids split => exact compileStripped_of_ids split
  | dedup split => exact compileStripped_of_dedup split
  | range form named same filled allowed isBound =>
      obtain ⟨angle, tail, read, compiled⟩ := compileStripped_of_isRange cache form
      rw [compiled, range_eq_ok_iff read]
      exact ⟨_, _, same, named, filled, allowed, isBound, rfl⟩
  | equality form named same allowed meant =>
      rw [compileStripped_of_isEquality form, equality_eq_ok_iff]
      exact ⟨_, same, named, allowed, meant⟩

/-- A token is compiled into a clause exactly when it is written for that clause. -/
theorem compile_eq_ok_iff {cache : Cache} {filter : String} {clause : Clause} :
    compile cache filter = .ok clause ↔ Written cache (strip filter.toList) clause :=
  ⟨written_of_compileStripped, Written.compileStripped⟩

end FilterQuery.Filter
