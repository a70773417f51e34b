import FilterQuery.Proofs.Filter.Grammar

/-!
# What a token is compiled with

Of all that is known about fields, a token is compiled with the type of the one field that it names
and with whether that field can be searched. Main statement: `compile_congr`.
-/

set_option autoImplicit false

namespace FilterQuery.Filter

open Text FilterQuery.Field

/-- Two caches give a field the same type and let it be searched or not alike. -/
structure AgreeOn (cache other : Cache) (field : String) : Prop where
  type_eq : (metadataOf cache field).type = (metadataOf other field).type
  searchable_eq : (metadataOf cache field).searchable = (metadataOf other field).searchable

/-- The field that a text names: what stands before its first angle bracket, or before its first
equals sign when it has no angle bracket. A text that begins in one of the fixed ways names none. -/
inductive Names (text : List Char) : String → Prop where
  | range {before after : List Char} {comparison : Comparison} :
      IsRange text before comparison after → Names text (String.ofList (strip before))
  | equality {before after : List Char} :
      IsEquality text before after → Names text (String.ofList (strip before))

variable {cache other : Cache} {field : String} {text before after : List Char}
  {comparison : Comparison}

theorem AgreeOn.refl (cache : Cache) (field : String) : AgreeOn cache cache field :=
  ⟨rfl, rfl⟩

theorem AgreeOn.trans {last : Cache} (first : AgreeOn cache other field)
    (later : AgreeOn other last field) : AgreeOn cache last field :=
  ⟨first.type_eq.trans later.type_eq, first.searchable_eq.trans later.searchable_eq⟩

/-! ## The one field -/

theorem IsRange.before_eq (form : IsRange text before comparison after) :
    before = text.takeWhile fun c => c != '<' && c != '>' := by
  have inside : ∀ c ∈ before, (c != '<' && c != '>') = true := fun c member =>
    not_isAngle_iff.mp (form.first c member)
  rw [form.split, List.takeWhile_append_of_pos inside]
  cases comparison <;> simp [Comparison.symbol]

theorem IsRange.exists_isAngle (form : IsRange text before comparison after) :
    ∃ c ∈ text, IsAngle c := by
  rw [form.split]
  cases comparison
  · exact ⟨'<', by simp [Comparison.symbol], .inl rfl⟩
  · exact ⟨'<', by simp [Comparison.symbol], .inl rfl⟩
  · exact ⟨'>', by simp [Comparison.symbol], .inr rfl⟩
  · exact ⟨'>', by simp [Comparison.symbol], .inr rfl⟩

theorem IsEquality.before_eq (form : IsEquality text before after) :
    before = text.takeWhile (· != '=') := by
  have inside : ∀ c ∈ before, (c != '=') = true := fun c member =>
    bne_iff_ne.mpr fun same => form.first (same ▸ member)
  rw [form.split, List.takeWhile_append_of_pos inside]
  simp

theorem Names.unique {second : String} (names : Names text field)
    (namesSecond : Names text second) : field = second := by
  cases names with
  | range form =>
      cases namesSecond with
      | range otherForm => rw [form.before_eq, otherForm.before_eq]
      | equality flat =>
          obtain ⟨c, member, isAngle⟩ := form.exists_isAngle
          exact absurd isAngle (flat.flat c member)
  | equality form =>
      cases namesSecond with
      | range angled =>
          obtain ⟨c, member, isAngle⟩ := angled.exists_isAngle
          exact absurd isAngle (form.flat c member)
      | equality otherForm => rw [form.before_eq, otherForm.before_eq]

/-! ## Compiling with two caches -/

theorem bound_congr {metadata second : Metadata} (same : metadata.type = second.type)
    (field : String) (value : List Char) :
    bound field metadata value = bound field second value := by
  obtain ⟨type, _, _, _⟩ := metadata
  obtain ⟨_, _, _, _⟩ := second
  obtain rfl : type = _ := same
  rfl

theorem exact_congr {metadata second : Metadata} (same : metadata.type = second.type)
    (field : String) (value : List Char) :
    exact field metadata value = exact field second value := by
  obtain ⟨type, _, _, _⟩ := metadata
  obtain ⟨_, _, _, _⟩ := second
  obtain rfl : type = _ := same
  rfl

theorem searchable_eq (cache : Cache) (field : String) :
    searchable cache field =
      if (metadataOf cache field).searchable then .ok (metadataOf cache field)
      else reject field .notSearchable := rfl

/-- A field that agrees is searched alike, with metadata that may differ in what is not asked. -/
theorem searchable_bind_congr {α : Type} (agree : AgreeOn cache other field)
    {next : Metadata → Except Fault α}
    (same : next (metadataOf cache field) = next (metadataOf other field)) :
    searchable cache field >>= next = searchable other field >>= next := by
  rw [searchable_eq, searchable_eq, agree.searchable_eq]
  split
  · exact same
  · rfl

/-- The comparison and the text after it may have been read from two places. -/
theorem range_congr (agree : AgreeOn cache other (String.ofList (strip before)))
    {angle otherAngle : Char} {tail otherTail : List Char}
    (read : comparisonAt angle tail = (comparison, after))
    (otherRead : comparisonAt otherAngle otherTail = (comparison, after)) :
    range cache before angle tail = range other before otherAngle otherTail := by
  simp only [range, read, otherRead]
  split
  · rfl
  · split
    · rfl
    · refine searchable_bind_congr agree ?_
      rw [bound_congr agree.type_eq]

theorem equality_congr (agree : AgreeOn cache other (String.ofList (strip before)))
    (after : List Char) : equality cache before after = equality other before after := by
  simp only [equality]
  split
  · rfl
  · exact searchable_bind_congr agree (exact_congr agree.type_eq _ _)

theorem compileStripped_of_isFixed (fixed : IsFixed text) (cache other : Cache) :
    compileStripped cache text = compileStripped other text := by
  rcases fixed with ⟨value, split⟩ | ⟨value, split⟩
  · rw [compileStripped_of_ids split.symm, compileStripped_of_ids split.symm]
  · rw [compileStripped_of_dedup split.symm, compileStripped_of_dedup split.symm]

theorem compileStripped_congr (agree : ∀ field, Names text field → AgreeOn cache other field) :
    compileStripped cache text = compileStripped other text := by
  rcases exists_form text with ⟨value, split⟩ | ⟨value, split⟩ |
    ⟨before, comparison, after, form⟩ | ⟨before, after, form⟩ | form
  · exact compileStripped_of_isFixed (.inl ⟨value, split.symm⟩) cache other
  · exact compileStripped_of_isFixed (.inr ⟨value, split.symm⟩) cache other
  · obtain ⟨angle, tail, read, compiled⟩ := compileStripped_of_isRange cache form
    obtain ⟨otherAngle, otherTail, otherRead, otherCompiled⟩ :=
      compileStripped_of_isRange other form
    rw [compiled, otherCompiled]
    exact range_congr (agree _ (.range form)) read otherRead
  · rw [compileStripped_of_isEquality form, compileStripped_of_isEquality form]
    exact equality_congr (agree _ (.equality form)) after
  · rw [compileStripped_of_isFormless form, compileStripped_of_isFormless form]

/-- Two caches compile a token alike when they agree on the field that it names. -/
theorem compile_congr {filter : String}
    (agree : ∀ field, Names (strip filter.toList) field → AgreeOn cache other field) :
    compile cache filter = compile other filter :=
  compileStripped_congr agree

theorem compileFrom_congr {filters : List String}
    (same : ∀ filter ∈ filters, compile cache filter = compile other filter) (start : Nat) :
    compileFrom cache start filters = compileFrom other start filters := by
  induction filters generalizing start with
  | nil => rfl
  | cons filter rest ih =>
      obtain ⟨first, others⟩ := List.forall_mem_cons.mp same
      simp only [compileFrom, first, ih others]

end FilterQuery.Filter
