import FilterQuery.Proofs.Json.Scalar

/-!
# Documents that are read back

What is printed of a value is one JSON document: it is read to its end, and it is the value again,
but that a name that an object has twice counts once. Main statements: `read_pageText` and
`read_lineText`.
-/

set_option autoImplicit false

namespace FilterQuery.Json

open Text Number

mutual

/-- The value that is read from the text of a value: in its objects every name counts once, with the
last of its values. -/
def reread : Json → Json
  | .null => .null
  | .bool value => .bool value
  | .int value => .int value
  | .float value => .float value
  | .str text => .str text
  | .arr items => .arr (rereadItems items)
  | .obj members => .obj (Entries.ofPairs (rereadMembers members))

def rereadItems : List Json → List Json
  | [] => []
  | item :: rest => reread item :: rereadItems rest

def rereadMembers : List (String × Json) → List (String × Json)
  | [] => []
  | (name, value) :: rest => (name, reread value) :: rereadMembers rest

end

/-- Induction over a value, its items and its members. -/
@[elab_as_elim]
theorem deepInduction {motive : Json → Prop} (null : motive .null)
    (bool : ∀ value, motive (.bool value)) (int : ∀ value, motive (.int value))
    (float : ∀ value, motive (.float value)) (str : ∀ value, motive (.str value))
    (arr : ∀ items, (∀ item ∈ items, motive item) → motive (.arr items))
    (obj : ∀ members, (∀ member ∈ members, motive member.2) → motive (.obj members)) :
    (value : Json) → motive value
  | .null => null
  | .bool value => bool value
  | .int value => int value
  | .float value => float value
  | .str value => str value
  | .arr items => arr items fun item _ =>
      deepInduction null bool int float str arr obj item
  | .obj members => obj members fun member inside =>
      have smaller : sizeOf member.2 < sizeOf members := by
        have whole := List.sizeOf_lt_of_mem inside
        obtain ⟨name, value⟩ := member
        simp only [Prod.mk.sizeOf_spec] at whole ⊢
        omega
      deepInduction null bool int float str arr obj member.2

def isSpace (c : Char) : Bool :=
  c == ' ' || c == '\t' || c == '\n' || c == '\r'

variable {text rest after : List Char} {fuel : Nat} {style : Style}

section Space

theorem skipSpace_append (space : List Char) (blank : ∀ c ∈ space, isSpace c = true)
    (stops : Stops isSpace rest) : skipSpace (space ++ rest) = rest :=
  dropWhile_append_stops blank stops

theorem skipSpace_of_stops (stops : Stops isSpace rest) : skipSpace rest = rest :=
  skipSpace_append [] (fun _ member => nomatch member) stops

theorem isSpace_of_mem_lead {c : Char} (member : c ∈ style.lead) : isSpace c = true := by
  cases style with
  | line => cases member
  | page depth =>
      rcases List.mem_cons.mp member with rfl | member
      · rfl
      · rw [List.eq_of_mem_replicate member]
        rfl

/-- What stands between two items: a comma and space. -/
theorem between_eq (style : Style) :
    ∃ space, style.between = ',' :: space ∧ ∀ c ∈ space, isSpace c = true := by
  cases style with
  | line => exact ⟨[' '], rfl, List.forall_mem_singleton.mpr rfl⟩
  | page depth => exact ⟨(Style.page depth).lead, rfl, fun c => isSpace_of_mem_lead⟩

end Space

section Steps

/-- A text of a scalar begins neither with space nor with a bracket or a quote. -/
theorem readScalar_cons_ne {c : Char} {result : Json × List Char}
    (read : readScalar (c :: text) = .ok result) :
    isSpace c = false ∧ c ≠ '"' ∧ c ≠ '[' ∧ c ≠ ']' ∧ c ≠ '\x7b' := by
  refine ⟨Bool.eq_false_iff.mpr fun space => ?_, ?_, ?_, ?_, ?_⟩
  · simp only [isSpace, Bool.or_eq_true, beq_iff_eq] at space
    rcases space with ((rfl | rfl) | rfl) | rfl <;> cases read
  all_goals
    rintro rfl
    cases read

theorem readValue_of_scalar {result : Json × List Char} (read : readScalar text = .ok result) :
    readValue (fuel + 1) text = .ok result := by
  unfold readValue
  split
  · exact absurd rfl (readScalar_cons_ne read).2.1
  · exact absurd rfl (readScalar_cons_ne read).2.2.1
  · exact absurd rfl (readScalar_cons_ne read).2.2.2.2
  · exact read

theorem readValue_array (filled : text.head? ≠ some ']') (skipped : skipSpace rest = text) :
    readValue (fuel + 1) ('[' :: rest) =
      (readItems fuel text).map fun read => (.arr read.1, read.2) := by
  unfold readValue
  simp only [skipped]
  split
  · exact absurd rfl filled
  · cases readItems fuel text <;> rfl

theorem readValue_object (filled : text.head? ≠ some '\x7d') (skipped : skipSpace rest = text) :
    readValue (fuel + 1) ('\x7b' :: rest) =
      (readMembers fuel text).map fun read => (.obj (Entries.ofPairs read.1), read.2) := by
  unfold readValue
  simp only [skipped]
  split
  · exact absurd rfl filled
  · cases readMembers fuel text <;> rfl

theorem readItems_last {item : Json} (read : readValue fuel text = .ok (item, rest))
    (closed : skipSpace rest = ']' :: after) :
    readItems (fuel + 1) text = .ok ([item], after) := by
  simp only [readItems, read, bind, Except.bind, closed]
  rfl

theorem readItems_next {item : Json} (read : readValue fuel text = .ok (item, rest))
    (more : skipSpace rest = ',' :: after) :
    readItems (fuel + 1) text =
      (readItems fuel (skipSpace after)).map fun read => (item :: read.1, read.2) := by
  simp only [readItems, read, bind, Except.bind, more]
  cases readItems fuel (skipSpace after) <;> rfl

theorem readMembers_last {name value : _} {inner shown : List Char}
    (named : readString shown.length.succ shown = .ok (name, ':' :: ' ' :: inner))
    (skipped : skipSpace inner = inner) (read : readValue fuel inner = .ok (value, rest))
    (closed : skipSpace rest = '\x7d' :: after) :
    readMembers (fuel + 1) ('"' :: shown) = .ok ([(String.ofList name, value)], after) := by
  have colon : skipSpace (':' :: ' ' :: inner) = ':' :: ' ' :: inner := rfl
  have blank : skipSpace (' ' :: inner) = skipSpace inner := rfl
  simp only [readMembers, named, bind, Except.bind, colon, blank, skipped, read, closed]
  rfl

theorem readMembers_next {name value : _} {inner shown : List Char}
    (named : readString shown.length.succ shown = .ok (name, ':' :: ' ' :: inner))
    (skipped : skipSpace inner = inner) (read : readValue fuel inner = .ok (value, rest))
    (more : skipSpace rest = ',' :: after) :
    readMembers (fuel + 1) ('"' :: shown) =
      (readMembers fuel (skipSpace after)).map fun read =>
        ((String.ofList name, value) :: read.1, read.2) := by
  have colon : skipSpace (':' :: ' ' :: inner) = ':' :: ' ' :: inner := rfl
  have blank : skipSpace (' ' :: inner) = skipSpace inner := rfl
  simp only [readMembers, named, bind, Except.bind, colon, blank, skipped, read, more]
  cases readMembers fuel (skipSpace after) <;> rfl

end Steps

section Forms

/-- A text begins like a value: not with space, and not with the end of an array. -/
def Begins (text : List Char) : Prop :=
  ∃ c tail, text = c :: tail ∧ isSpace c = false ∧ c ≠ ']'

theorem begins_of_readScalar {result : Json × List Char} (read : readScalar text = .ok result) :
    Begins text := by
  cases text with
  | nil => cases read
  | cons c tail =>
      obtain ⟨noSpace, _, _, noEnd, _⟩ := readScalar_cons_ne read
      exact ⟨c, tail, rfl, noSpace, noEnd⟩

theorem isWritable_of_unwritable? {value : Int} (writable : unwritable? (.int value) = none) :
    isWritable value = true := by
  rw [unwritable?] at writable
  split at writable
  · next short => exact short
  · cases writable

theorem Begins.stops (begins : Begins text) (rest : List Char) : Stops isSpace (text ++ rest) := by
  obtain ⟨c, tail, rfl, noSpace, _⟩ := begins
  exact stops_cons.mpr noSpace

theorem Begins.ne_end (begins : Begins text) (rest : List Char) :
    (text ++ rest).head? ≠ some ']' := by
  obtain ⟨c, tail, rfl, _, noEnd⟩ := begins
  simpa using noEnd

theorem ends_of_isSpace {space : List Char} (blank : ∀ c ∈ space, isSpace c = true)
    (ends : Ends rest) : Ends (space ++ rest) := by
  cases space with
  | nil => exact ends
  | cons c space =>
      have isBlank := blank c List.mem_cons_self
      simp only [isSpace, Bool.or_eq_true, beq_iff_eq] at isBlank
      refine stops_cons.mpr ?_
      rcases isBlank with ((rfl | rfl) | rfl) | rfl <;> rfl

theorem stops_stringText (name : String) (rest : List Char) :
    Stops isSpace (stringText name ++ rest) :=
  stops_cons.mpr rfl

theorem head?_stringText (name : String) (rest : List Char) :
    (stringText name ++ rest).head? ≠ some '\x7d' := by
  simp [stringText]

end Forms

theorem unwritableItem?_eq_none_iff {items : List Json} :
    unwritableItem? items = none ↔ ∀ item ∈ items, unwritable? item = none := by
  induction items with
  | nil => simp [unwritableItem?]
  | cons item items ih => simp [unwritableItem?, ih]

theorem unwritableMember?_eq_none_iff {members : List (String × Json)} :
    unwritableMember? members = none ↔ ∀ member ∈ members, unwritable? member.2 = none := by
  induction members with
  | nil => simp [unwritableMember?]
  | cons member members ih =>
      obtain ⟨name, value⟩ := member
      simp [unwritableMember?, ih]

/-- The text of a value is read as that value, whatever follows it that does not go on with a
number. -/
structure IsReadBack (style : Style) (value : Json) : Prop where
  begins : Begins (chars style value)
  reads (fuel : Nat) {rest : List Char} : 2 * (chars style value).length ≤ fuel → Ends rest →
    readValue fuel (chars style value ++ rest) = .ok (reread value, rest)

theorem isReadBack_of_readScalar {value : Json}
    (read : ∀ {rest}, Ends rest →
      readScalar (chars style value ++ rest) = .ok (reread value, rest)) :
    IsReadBack style value := by
  have alone := read (stops_nil continuesNumber)
  rw [List.append_nil] at alone
  have begins := begins_of_readScalar alone
  refine ⟨begins, fun fuel rest enough ends => ?_⟩
  obtain ⟨c, tail, same, _⟩ := begins
  rw [same, List.length_cons] at enough
  obtain ⟨fuel, rfl⟩ := Nat.exists_eq_succ_of_ne_zero (n := fuel) (by omega)
  exact readValue_of_scalar (read ends)

section Collections

variable {space : List Char}

theorem readItems_chars {item : Json} {items : List Json} (first : IsReadBack style item)
    (others : ∀ other ∈ items, IsReadBack style other) (blank : ∀ c ∈ space, isSpace c = true)
    (enough : 2 * ((chars style item).length + (itemChars style items).length) < fuel) :
    readItems fuel (chars style item ++ (itemChars style items ++ (space ++ ']' :: rest))) =
      .ok (reread item :: rereadItems items, rest) := by
  -- An item costs a unit of fuel beside its value. The comma before it has paid for that.
  induction items generalizing item fuel with
  | nil =>
      obtain ⟨fuel, rfl⟩ := Nat.exists_eq_succ_of_ne_zero (Nat.ne_of_gt (Nat.zero_lt_of_lt enough))
      have closing : Ends (space ++ ']' :: rest) := ends_of_isSpace blank (stops_cons.mpr rfl)
      have read := first.reads fuel (by omega) closing
      have closed : skipSpace (space ++ ']' :: rest) = ']' :: rest :=
        skipSpace_append space blank (stops_cons.mpr rfl)
      exact readItems_last read closed
  | cons next items ih =>
      obtain ⟨fuel, rfl⟩ := Nat.exists_eq_succ_of_ne_zero (Nat.ne_of_gt (Nat.zero_lt_of_lt enough))
      obtain ⟨second, others⟩ := List.forall_mem_cons.mp others
      obtain ⟨gap, comma, isGap⟩ := between_eq style
      simp only [itemChars, comma, List.length_append, List.length_cons] at enough
      have separate : Ends (',' :: (gap ++ (chars style next ++
          (itemChars style items ++ (space ++ ']' :: rest))))) := stops_cons.mpr rfl
      have read := first.reads fuel (by omega) separate
      have skipped := skipSpace_append gap isGap (second.begins.stops
        (itemChars style items ++ (space ++ ']' :: rest)))
      have step := readItems_next read (skipSpace_of_stops (stops_cons.mpr rfl))
      simp only [itemChars, comma, List.cons_append, List.append_assoc]
      rw [step, skipped, ih second others (by omega)]
      rfl

theorem readMembers_chars {name : String} {value : Json} {members : List (String × Json)}
    (first : IsReadBack style value) (others : ∀ other ∈ members, IsReadBack style other.2)
    (blank : ∀ c ∈ space, isSpace c = true)
    (enough : 2 * ((chars style value).length + (memberChars style members).length) < fuel) :
    readMembers fuel (stringText name ++ ':' :: ' ' :: (chars style value ++
      (memberChars style members ++ (space ++ '\x7d' :: rest)))) =
      .ok ((name, reread value) :: rereadMembers members, rest) := by
  induction members generalizing name value fuel with
  | nil =>
      obtain ⟨fuel, rfl⟩ := Nat.exists_eq_succ_of_ne_zero (Nat.ne_of_gt (Nat.zero_lt_of_lt enough))
      obtain ⟨shown, quoted, named⟩ := readString_stringText name
        (':' :: ' ' :: (chars style value ++ (space ++ '\x7d' :: rest)))
      have skipped := skipSpace_of_stops (first.begins.stops (space ++ '\x7d' :: rest))
      have closing : Ends (space ++ '\x7d' :: rest) := ends_of_isSpace blank (stops_cons.mpr rfl)
      have read := first.reads fuel (by omega) closing
      have closed : skipSpace (space ++ '\x7d' :: rest) = '\x7d' :: rest :=
        skipSpace_append space blank (stops_cons.mpr rfl)
      simp only [memberChars, List.nil_append]
      rw [quoted, readMembers_last named skipped read closed, String.ofList_toList]
      rfl
  | cons member members ih =>
      obtain ⟨fuel, rfl⟩ := Nat.exists_eq_succ_of_ne_zero (Nat.ne_of_gt (Nat.zero_lt_of_lt enough))
      obtain ⟨other, next⟩ := member
      obtain ⟨second, others⟩ := List.forall_mem_cons.mp others
      have second : IsReadBack style next := second
      obtain ⟨gap, comma, isGap⟩ := between_eq style
      simp only [memberChars, comma, List.length_append, List.length_cons] at enough
      obtain ⟨shown, quoted, named⟩ := readString_stringText name
        (':' :: ' ' :: (chars style value ++ (',' :: (gap ++ (stringText other ++ ':' :: ' ' ::
          (chars style next ++ (memberChars style members ++ (space ++ '\x7d' :: rest))))))))
      have skipped := skipSpace_of_stops (first.begins.stops
        (',' :: (gap ++ (stringText other ++ ':' :: ' ' ::
          (chars style next ++ (memberChars style members ++ (space ++ '\x7d' :: rest)))))))
      have separate : Ends (',' :: (gap ++ (stringText other ++ ':' :: ' ' ::
          (chars style next ++ (memberChars style members ++ (space ++ '\x7d' :: rest)))))) :=
        stops_cons.mpr rfl
      have read := first.reads fuel (by omega) separate
      have gone := skipSpace_append gap isGap (stops_stringText other (':' :: ' ' ::
        (chars style next ++ (memberChars style members ++ (space ++ '\x7d' :: rest)))))
      simp only [memberChars, comma, List.cons_append, List.append_assoc]
      rw [quoted, readMembers_next named skipped read (skipSpace_of_stops (stops_cons.mpr rfl)),
        gone, ih second others (by omega), String.ofList_toList]
      rfl

end Collections

theorem isReadBack_array {item : Json} {items : List Json}
    (each : ∀ other ∈ item :: items, IsReadBack style.deeper other) :
    IsReadBack style (.arr (item :: items)) := by
  obtain ⟨first, others⟩ := List.forall_mem_cons.mp each
  refine ⟨⟨_, _, rfl, rfl, by decide⟩, fun fuel rest enough _ => ?_⟩
  simp only [chars, List.length_cons, List.length_append] at enough
  obtain ⟨fuel, rfl⟩ := Nat.exists_eq_succ_of_ne_zero (n := fuel) (by omega)
  have skipped := skipSpace_append style.deeper.lead (fun c => isSpace_of_mem_lead)
    (first.begins.stops (itemChars style.deeper items ++ (style.lead ++ ']' :: rest)))
  simp only [chars, List.cons_append, List.append_assoc, List.nil_append]
  rw [readValue_array (first.begins.ne_end _) skipped,
    readItems_chars first others (fun c => isSpace_of_mem_lead) (by omega)]
  rfl

theorem isReadBack_object {name : String} {value : Json} {members : List (String × Json)}
    (each : ∀ other ∈ (name, value) :: members, IsReadBack style.deeper other.2) :
    IsReadBack style (.obj ((name, value) :: members)) := by
  obtain ⟨first, others⟩ := List.forall_mem_cons.mp each
  have first : IsReadBack style.deeper value := first
  refine ⟨⟨_, _, rfl, rfl, by decide⟩, fun fuel rest enough _ => ?_⟩
  simp only [chars, List.length_cons, List.length_append] at enough
  obtain ⟨fuel, rfl⟩ := Nat.exists_eq_succ_of_ne_zero (n := fuel) (by omega)
  have skipped := skipSpace_append style.deeper.lead (fun c => isSpace_of_mem_lead)
    (stops_stringText name (':' :: ' ' :: (chars style.deeper value ++
      (memberChars style.deeper members ++ (style.lead ++ '\x7d' :: rest)))))
  simp only [chars, List.cons_append, List.append_assoc, List.nil_append]
  rw [readValue_object (head?_stringText _ _) skipped,
    readMembers_chars first others (fun c => isSpace_of_mem_lead) (by omega)]
  rfl

theorem isReadBack_string (style : Style) (text : String) : IsReadBack style (.str text) := by
  refine ⟨⟨_, _, rfl, rfl, by decide⟩, fun fuel rest enough _ => ?_⟩
  obtain ⟨fuel, rfl⟩ := Nat.exists_eq_succ_of_ne_zero (n := fuel) (by
    simp only [chars, stringText, List.length_append, List.length_cons] at enough
    omega)
  obtain ⟨shown, quoted, read⟩ := readString_stringText text rest
  simp only [chars, quoted, readValue, read, bind, Except.bind, String.ofList_toList]
  rfl

theorem isReadBack_empty (style : Style) :
    IsReadBack style (.arr []) ∧ IsReadBack style (.obj []) := by
  constructor
  all_goals
    refine ⟨⟨_, _, rfl, rfl, by decide⟩, fun fuel rest enough _ => ?_⟩
    obtain ⟨fuel, rfl⟩ := Nat.exists_eq_succ_of_ne_zero (n := fuel) (by
      simp only [chars, List.length_cons, List.length_nil] at enough
      omega)
    rfl

/-- Every value is read back, unless an integer in it has too many digits. -/
theorem isReadBack_of_unwritable? (style : Style) {value : Json}
    (writable : unwritable? value = none) : IsReadBack style value := by
  induction value using Json.deepInduction generalizing style with
  | null => exact isReadBack_of_readScalar fun _ => rfl
  | bool value => cases value <;> exact isReadBack_of_readScalar fun _ => rfl
  | int value =>
      exact isReadBack_of_readScalar (readScalar_intText (isWritable_of_unwritable? writable))
  | float value => exact isReadBack_of_readScalar (readScalar_text value)
  | str text => exact isReadBack_string style text
  | arr items ih =>
      rw [unwritable?, unwritableItem?_eq_none_iff] at writable
      cases items with
      | nil => exact (isReadBack_empty style).1
      | cons item items =>
          exact isReadBack_array fun other member =>
            ih other member style.deeper (writable other member)
  | obj members ih =>
      rw [unwritable?, unwritableMember?_eq_none_iff] at writable
      cases members with
      | nil => exact (isReadBack_empty style).2
      | cons member members =>
          exact isReadBack_object fun other member =>
            ih other member style.deeper (writable other member)

theorem read_chars {value : Json} (writable : unwritable? value = none) (style : Style) :
    read (String.ofList (chars style value) ++ "\n") = .ok (reread value) := by
  have back := isReadBack_of_unwritable? style writable
  have start := skipSpace_of_stops (back.begins.stops ['\n'])
  have last : Ends ['\n'] := stops_cons.mpr rfl
  have whole :
      (String.ofList (chars style value) ++ "\n").toList = chars style value ++ ['\n'] := by
    rw [String.toList_append, String.toList_ofList]
    rfl
  have enough : 2 * (chars style value).length ≤ 2 * (chars style value ++ ['\n']).length + 2 := by
    rw [List.length_append]
    omega
  rw [read, whole, start, back.reads _ enough last]
  rfl

/-- A line with the text of a value, spread over a page, is one document. -/
theorem read_pageText {value : Json} (writable : unwritable? value = none) :
    read (value.pageText ++ "\n") = .ok (reread value) :=
  read_chars writable (.page 0)

theorem read_lineText {value : Json} (writable : unwritable? value = none) :
    read (value.lineText ++ "\n") = .ok (reread value) :=
  read_chars writable .line

end FilterQuery.Json
