import FilterQuery.Proofs.Filter.Grammar
import FilterQuery.Proofs.Text.Blank
import Mathlib.Data.List.Basic

/-!
# Blanks behind a fixed name

Blanks around a name do not count, but a name has a form of its own only where the equals sign
stands right behind it. With a blank between the two, a token for `detection_id_dedup` is compiled
as one for any other field: by the type of the field, or as a range. Main statement:
`compile_dedup_iff`.
-/

set_option autoImplicit false

namespace FilterQuery.Filter

open Text FilterQuery.Field

/-- The text before the first angle bracket. -/
def beforeAngle (text : List Char) : List Char :=
  text.takeWhile fun c => c != '<' && c != '>'

section Token

variable {name before after token : List Char}

theorem IsDotted.head_not_blank (named : IsDotted name) (rest : List Char) :
    ∀ c ∈ (name ++ rest).head?, isBlank c = false := by
  obtain ⟨first, others, rfl, -⟩ := named.exists_letter
  intro c member
  obtain rfl : first = c := by simpa using member
  exact isBlank_of_isNameChar (named.isNameChar first List.mem_cons_self)

/-- Without the blanks around it, a token is its name, a gap, an equals sign and the value. -/
theorem exists_strip_token (named : IsDotted name) (split : token = before ++ '=' :: after)
    (same : strip before = name) :
    ∃ first gap kept, before = first ++ (name ++ gap) ∧ (∀ c ∈ gap, isBlank c = true) ∧
      strip token = name ++ gap ++ '=' :: kept ∧ strip kept = strip after ∧
      ∀ c, isBlank c = false → (c ∈ kept ↔ c ∈ after) := by
  obtain ⟨first, gap, parts, blankFirst, blankGap⟩ := exists_ends isBlank before
  rw [← strip, same] at parts
  obtain ⟨kept, last, rfl, blankLast, stripped⟩ :=
    exists_stripBy_append_cons (named.head_not_blank gap) (c := '=') (by decide) after
  refine ⟨first, gap, kept, parts, blankGap, ?_, ?_, ?_⟩
  · rw [split, parts, List.append_assoc, strip, stripBy_append_left blankFirst, stripped]
  · rw [strip, strip, stripBy_append_right blankLast]
  · intro c visible
    have absent : c ∉ last := by
      intro member
      rw [blankLast c member] at visible
      cases visible
    simp [absent]

/-- The name stands at the end exactly when no gap follows it. -/
theorem suffix_iff_gap_eq_nil (named : IsDotted name) {gap : List Char}
    (blank : ∀ c ∈ gap, isBlank c = true) (first : List Char) :
    name <:+ first ++ (name ++ gap) ↔ gap = [] := by
  constructor
  · intro ends
    obtain ⟨others, same⟩ := ends
    rcases List.eq_nil_or_concat' gap with rfl | ⟨gap, c, rfl⟩
    · rfl
    · obtain ⟨start, d, split⟩ : ∃ start d, name = start ++ [d] := by
        rcases List.eq_nil_or_concat' name with rfl | found
        · obtain ⟨_, _, empty, -⟩ := named.exists_letter
          cases empty
        · exact found
      have last := congrArg List.getLast? same
      rw [split, ← List.append_assoc, List.getLast?_concat, ← List.append_assoc,
        ← List.append_assoc, List.getLast?_concat] at last
      obtain rfl := Option.some.inj last
      have plain := isBlank_of_isNameChar (named.isNameChar d (by simp [split]))
      rw [blank d (by simp)] at plain
      cases plain
  · rintro rfl
    exact ⟨first, by rw [List.append_nil]⟩

theorem dedupPrefix_append (rest : List Char) :
    "detection_id_dedup=".toList ++ rest = "detection_id_dedup".toList ++ '=' :: rest := by
  have spelt : "detection_id_dedup=".toList = "detection_id_dedup".toList ++ ['='] := by decide
  rw [spelt, List.append_assoc, List.singleton_append]

theorem not_isFixed_blank {c : Char} (blank : isBlank c = true) (rest : List Char) :
    ¬IsFixed ("detection_id_dedup".toList ++ c :: rest) := by
  rintro (⟨others, same⟩ | ⟨others, same⟩)
  · cases same
  · rw [dedupPrefix_append, List.append_cancel_left_eq] at same
    obtain ⟨rfl, -⟩ := List.cons.inj same
    exact absurd blank (by decide)

end Token

section Range

variable {text before after : List Char} {comparison : Comparison}

theorem exists_isRange (free : ¬IsFixed text) {c : Char} (member : c ∈ text) (angle : IsAngle c) :
    ∃ before comparison after, IsRange text before comparison after := by
  rcases exists_form text with ⟨value, split⟩ | ⟨value, split⟩ | ranged | ⟨_, _, form⟩ | form
  · exact absurd (.inl ⟨value, split.symm⟩) free
  · exact absurd (.inr ⟨value, split.symm⟩) free
  · exact ranged
  · exact absurd angle (form.flat c member)
  · exact absurd angle (form.flat c member)

theorem IsRange.eq_beforeAngle (form : IsRange text before comparison after) :
    before = beforeAngle text := by
  have stops : Stops (fun c => c != '<' && c != '>') (comparison.symbol ++ after) := by
    cases comparison <;> exact stops_cons.mpr (by decide)
  rw [beforeAngle, form.split,
    takeWhile_append_stops (fun c member => not_isAngle_iff.mp (form.first c member)) stops]

/-- An equals sign before the comparison is no part of a name. -/
theorem compileStripped_of_equals_first (cache : Cache)
    (form : IsRange text before comparison after) (inside : '=' ∈ before) :
    compileStripped cache text = reject (String.ofList (strip before)) .rangeName := by
  obtain ⟨angle, tail, read, compiled⟩ := compileStripped_of_isRange cache form
  have unnamed : ¬IsDotted (strip before) := by
    intro dotted
    exact not_mem_of_isDotted dotted (by decide) (by decide) (mem_stripBy inside (by decide))
  simp [compiled, range, isFieldName_strip_eq_false_iff.mpr unnamed]

end Range

section Gap

variable {cache : Cache} {gap kept : List Char} {clause : Clause}

theorem isDotted_dedup : IsDotted "detection_id_dedup".toList :=
  isDotted_of_isName (by decide)

theorem not_isFixed_gap (blank : ∀ c ∈ gap, isBlank c = true) (filled : gap ≠ [])
    (rest : List Char) : ¬IsFixed ("detection_id_dedup".toList ++ gap ++ rest) := by
  cases gap with
  | nil => exact absurd rfl filled
  | cons c gap =>
      rw [List.append_assoc]
      exact not_isFixed_blank (blank c List.mem_cons_self) (gap ++ rest)

/-- Neither the name nor the gap has a character with a meaning of its own in a token. -/
theorem not_mem_name_gap (blank : ∀ c ∈ gap, isBlank c = true) {c : Char}
    (visible : isBlank c = false) (strange : isNameChar c = false) (noDot : c ≠ '.') :
    c ∉ "detection_id_dedup".toList ++ gap := by
  intro member
  rcases List.mem_append.mp member with member | member
  · exact not_mem_of_isDotted isDotted_dedup strange noDot member
  · rw [blank c member] at visible
    cases visible

theorem not_isAngle_name_gap (blank : ∀ c ∈ gap, isBlank c = true) :
    ∀ c ∈ "detection_id_dedup".toList ++ gap, ¬IsAngle c := by
  rintro c member (rfl | rfl)
  · exact not_mem_name_gap blank (by decide) (by decide) (by decide) member
  · exact not_mem_name_gap blank (by decide) (by decide) (by decide) member

theorem compileStripped_gap_angle (cache : Cache) (blank : ∀ c ∈ gap, isBlank c = true)
    (filled : gap ≠ []) {c : Char} (member : c ∈ kept) (angle : IsAngle c) :
    compileStripped cache ("detection_id_dedup".toList ++ gap ++ '=' :: kept) =
      reject (String.ofList (strip
        (beforeAngle ("detection_id_dedup".toList ++ gap ++ '=' :: kept)))) .rangeName := by
  obtain ⟨before, comparison, after, form⟩ :=
    exists_isRange (not_isFixed_gap blank filled ('=' :: kept)) (c := c) (by simp [member]) angle
  have plain : ∀ d ∈ "detection_id_dedup".toList ++ gap ++ ['='],
      (d != '<' && d != '>') = true := by
    intro d inside
    rcases List.mem_append.mp inside with inside | inside
    · exact not_isAngle_iff.mp (not_isAngle_name_gap blank d inside)
    · rw [List.mem_singleton.mp inside]
      decide
  have inside : '=' ∈ before := by
    rw [form.eq_beforeAngle, beforeAngle, List.append_cons, List.takeWhile_append_of_pos plain]
    simp
  rw [compileStripped_of_equals_first cache form inside, form.eq_beforeAngle]

theorem compileStripped_gap_flat (blank : ∀ c ∈ gap, isBlank c = true) (filled : gap ≠ [])
    (flat : ∀ c ∈ kept, ¬IsAngle c) :
    compileStripped cache ("detection_id_dedup".toList ++ gap ++ '=' :: kept) = .ok clause ↔
      (metadataOf cache "detection_id_dedup").searchable = true ∧
        Means "detection_id_dedup" (metadataOf cache "detection_id_dedup") (strip kept) clause := by
  have form : IsEquality ("detection_id_dedup".toList ++ gap ++ '=' :: kept)
      ("detection_id_dedup".toList ++ gap) kept := by
    refine ⟨not_isFixed_gap blank filled _, ?_, rfl,
      not_mem_name_gap blank (by decide) (by decide) (by decide)⟩
    intro c member
    rcases List.mem_append.mp member with member | member
    · exact not_isAngle_name_gap blank c member
    · rcases List.mem_cons.mp member with rfl | member
      · simp [IsAngle]
      · exact flat c member
  have name : strip ("detection_id_dedup".toList ++ gap) = "detection_id_dedup".toList := by
    rw [strip, stripBy_append_right blank]
    exact strip_of_isDotted isDotted_dedup
  rw [compileStripped_of_isEquality form, equality_eq_ok_iff]
  simp only [name, isDotted_dedup, true_and, String.ofList_toList, exists_eq_left]

end Gap

/-- No field that is read by its type is compared as a text. -/
theorem Means.ne_text {field other text : String} {metadata : Metadata} {value : List Char}
    {clause : Clause} (means : Means field metadata value clause) :
    clause ≠ .term other (.text text) := by
  cases means <;> simp

section Token

variable {filter : String} {before after kept : List Char} {cache : Cache}

theorem compile_of_strip_dedup
    (stripped : strip filter.toList = "detection_id_dedup=".toList ++ kept)
    (value : strip kept = strip after) (cache : Cache) :
    compile cache filter =
      .ok (.term "detection_id_dedup" (.text (String.ofList (strip after)))) := by
  rw [compile, compileStripped_of_dedup stripped, value]

theorem compile_dedup (cache : Cache) (after : List Char) :
    compile cache (String.ofList ("detection_id_dedup=".toList ++ after)) =
      .ok (.term "detection_id_dedup" (.text (String.ofList (strip after)))) := by
  have name : strip "detection_id_dedup".toList = "detection_id_dedup".toList :=
    strip_of_isDotted isDotted_dedup
  obtain ⟨first, gap, kept, parts, blank, stripped, value, -⟩ :=
    exists_strip_token isDotted_dedup (dedupPrefix_append after) name
  have ends : "detection_id_dedup".toList <:+ first ++ ("detection_id_dedup".toList ++ gap) :=
    parts ▸ List.suffix_rfl
  rw [(suffix_iff_gap_eq_nil isDotted_dedup blank first).mp ends] at stripped
  refine compile_of_strip_dedup ?_ value cache
  rw [String.toList_ofList, stripped, List.append_nil, dedupPrefix_append]

/-- A token for the fixed name asks for its value as it stands, whatever is known of the field, when
the equals sign stands right behind the name, and only then. Behind a gap it is compiled as one for
any other field, by the type of the field, and it is no range, since an equals sign stands before
the angle bracket. -/
theorem compile_dedup_iff (split : filter.toList = before ++ '=' :: after)
    (named : strip before = "detection_id_dedup".toList) (cache : Cache) :
    (compile cache filter =
        .ok (.term "detection_id_dedup" (.text (String.ofList (strip after)))) ↔
      "detection_id_dedup".toList <:+ before) ∧
    compile cache (String.ofList ("detection_id_dedup=".toList ++ after)) =
      .ok (.term "detection_id_dedup" (.text (String.ofList (strip after)))) ∧
    (¬"detection_id_dedup".toList <:+ before → ∀ c ∈ after, IsAngle c →
      compile cache filter =
        reject (String.ofList (strip (beforeAngle (strip filter.toList)))) .rangeName) ∧
    (¬"detection_id_dedup".toList <:+ before → (∀ c ∈ after, ¬IsAngle c) → ∀ clause,
      (compile cache filter = .ok clause ↔
        (metadataOf cache "detection_id_dedup").searchable = true ∧
          Means "detection_id_dedup" (metadataOf cache "detection_id_dedup") (strip after)
            clause)) := by
  obtain ⟨first, gap, kept, rfl, blank, stripped, value, shared⟩ :=
    exists_strip_token isDotted_dedup split named
  simp only [suffix_iff_gap_eq_nil isDotted_dedup blank first]
  have angled (filled : gap ≠ []) (c : Char) (member : c ∈ after) (angle : IsAngle c) :
      compile cache filter =
        reject (String.ofList (strip (beforeAngle (strip filter.toList)))) .rangeName := by
    have visible : isBlank c = false := by rcases angle with rfl | rfl <;> decide
    rw [compile, stripped]
    exact compileStripped_gap_angle cache blank filled ((shared c visible).mpr member) angle
  have plain (filled : gap ≠ []) (flat : ∀ c ∈ after, ¬IsAngle c) (clause : Clause) :
      compile cache filter = .ok clause ↔
        (metadataOf cache "detection_id_dedup").searchable = true ∧
          Means "detection_id_dedup" (metadataOf cache "detection_id_dedup") (strip after)
            clause := by
    have flatKept : ∀ c ∈ kept, ¬IsAngle c := by
      intro c member angle
      have visible : isBlank c = false := by rcases angle with rfl | rfl <;> decide
      exact flat c ((shared c visible).mp member) angle
    rw [compile, stripped, compileStripped_gap_flat blank filled flatKept, value]
  refine ⟨?_, compile_dedup cache after, angled, plain⟩
  constructor
  · intro accepted
    refine by_contra fun filled => ?_
    by_cases ranged : ∃ c ∈ after, IsAngle c
    · obtain ⟨c, member, angle⟩ := ranged
      rw [angled filled c member angle] at accepted
      cases accepted
    · have flat : ∀ c ∈ after, ¬IsAngle c := fun c member angle => ranged ⟨c, member, angle⟩
      exact ((plain filled flat _).mp accepted).2.ne_text rfl
  · rintro rfl
    rw [List.append_nil, ← dedupPrefix_append] at stripped
    exact compile_of_strip_dedup stripped value cache

/-- A cache in which the field is one for truth values. -/
def truthCache : Cache :=
  Cache.empty.set "detection_id_dedup" ⟨.str "boolean", true, true, false⟩

theorem compile_dedup_iff_truthField :
    "\tdetection_id_dedup = TRUE ".toList =
        "\tdetection_id_dedup ".toList ++ '=' :: " TRUE ".toList ∧
      strip "\tdetection_id_dedup ".toList = "detection_id_dedup".toList ∧
      ¬"detection_id_dedup".toList <:+ "\tdetection_id_dedup ".toList ∧
      compile truthCache "\tdetection_id_dedup = TRUE " =
        .ok (.term "detection_id_dedup" (.bool true)) ∧
      compile truthCache "detection_id_dedup= TRUE " =
        .ok (.term "detection_id_dedup" (.text "TRUE")) := by
  have split : "\tdetection_id_dedup = TRUE ".toList =
      "\tdetection_id_dedup ".toList ++ '=' :: " TRUE ".toList := by decide
  have named : strip "\tdetection_id_dedup ".toList = "detection_id_dedup".toList := by decide
  have apart : ¬"detection_id_dedup".toList <:+ "\tdetection_id_dedup ".toList := by decide
  have flat : ∀ c ∈ " TRUE ".toList, ¬IsAngle c := forall_not_isAngle (by decide)
  have means : Means "detection_id_dedup" (metadataOf truthCache "detection_id_dedup")
      (strip " TRUE ".toList) (.term "detection_id_dedup" (.bool true)) :=
    .truth (by decide) (by decide)
  obtain ⟨-, tight, -, typed⟩ := compile_dedup_iff split named truthCache
  exact ⟨split, named, apart, (typed apart flat _).mpr ⟨by decide, means⟩, tight⟩

/-- With a blank before the equals sign the value is taken for a pattern, for a word for a missing
value or for a range. -/
theorem compile_dedup_gap :
    strip "detection_id_dedup ".toList = "detection_id_dedup".toList ∧
      compile .empty "detection_id_dedup=null" =
        .ok (.term "detection_id_dedup" (.text "null")) ∧
      compile .empty "detection_id_dedup =null" = .ok (.missing "detection_id_dedup") ∧
      compile .empty "detection_id_dedup =a*" = .ok (.wildcard "detection_id_dedup" "a*") ∧
      compile .empty "detection_id_dedup =a<b" = reject "detection_id_dedup =a" .rangeName := by
  decide

end Token

end FilterQuery.Filter
