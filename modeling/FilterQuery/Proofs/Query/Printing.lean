import FilterQuery.Proofs.Filter.Grammar
import FilterQuery.Proofs.Json.Reading
import FilterQuery.Proofs.Number.Product
import FilterQuery.Proofs.Query.Building
import FilterQuery.Proofs.Time.Moment
import FilterQuery.Proofs.Timeframe

/-!
# Printed queries

Numbers and times in a query are bounded, so only its size can have too many digits to be written.
Main statements: `unwritable?_toJson_eq_none_iff`, and `read_pageText` says that what is printed is
the query.
-/

set_option autoImplicit false

namespace FilterQuery

open Number

variable {n : Int}

section Bounds

/-- An integer part is short: it is below two to the 1024. -/
theorem natAbs_truncate_lt {value : Binary64} (read : value.truncate = .ok n) :
    n.natAbs < Nat.pow 2 1024 := by
  cases value with
  | nan => cases read
  | infinite negative => cases read
  | finite negative magnitude =>
      have whole : magnitude.steps / unit < Nat.pow 2 1024 := by
        have bounded := magnitude.bounded
        rw [limit_eq] at bounded
        exact (Nat.div_lt_iff_lt_mul unit_pos).mpr bounded
      have same : n.natAbs = magnitude.steps / unit := by
        rw [Binary64.truncate_finite, Except.ok.injEq] at read
        rw [← read, natAbs_withSign]
      rw [same]
      exact whole

theorem isWritable_of_lt (short : n.natAbs < Nat.pow 2 1024 * 1000) : isWritable n = true := by
  have room : Nat.pow 2 1024 * 1000 ≤ Nat.pow 10 digitLimit := by decide +kernel
  exact isWritable_iff.mpr (Nat.lt_of_lt_of_le short room)

/-- A wall clock in a zone shows the moment: its year is one of 1 to 9999, and its distance from UTC
is shorter than a day. -/
structure Moment.IsShown (moment : Moment) : Prop where
  wall : InCalendar moment.wall
  offset : moment.offset.natAbs < dayMicros

theorem Moment.IsShown.natAbs_lt {moment : Moment} (shown : moment.IsShown) :
    moment.epochMicros.natAbs < 2000000000000000000 := by
  have wall := natAbs_lt_of_inCalendar shown.wall
  have offset := shown.offset
  simp only [dayMicros, secondMicros] at offset
  rw [epochMicros]
  omega

/-- Whatever a small number is added to a short one stays short. -/
theorem isWritable_of_near {m : Int} (short : m.natAbs < Nat.pow 2 1024)
    (near : n.natAbs ≤ m.natAbs + 1000000000000000000000000000) : isWritable n = true := by
  have wide : 1000000000000000000000000000 ≤ Nat.pow 2 1024 := by decide +kernel
  refine isWritable_of_lt ?_
  generalize Nat.pow 2 1024 = bound at *
  omega

theorem isWritable_of_small (small : n.natAbs ≤ 1000000000000000000000000000) :
    isWritable n = true :=
  isWritable_of_near (m := 0) (by decide +kernel) (by simpa using small)

end Bounds

namespace Filter

theorem wholePart_lt (number : Binary64) : (wholePart number).natAbs < Nat.pow 2 1024 := by
  rw [wholePart]
  cases read : number.truncate with
  | error fault =>
      have positive : 0 < Nat.pow 2 1024 := by decide +kernel
      exact positive
  | ok whole => exact natAbs_truncate_lt read

/-- A number in a query is a floating-point number or a short integer. -/
inductive Numeral.IsShort : Numeral → Prop where
  | whole {value : Int} : value.natAbs < Nat.pow 2 1024 → IsShort (.whole value)
  | real {value : Binary64} : IsShort (.real value)

theorem isShort_of_readNumeral {text : List Char} {number : Numeral}
    (read : readNumeral text = some number) : number.IsShort := by
  obtain ⟨decimal, _, read⟩ := Option.bind_eq_some_iff.mp read
  cases cut : decimal.toBinary64.truncate with
  | error fault => simp [cut] at read
  | ok value =>
      simp only [cut, Option.some.injEq] at read
      subst read
      split
      · exact .whole (natAbs_truncate_lt cut)
      · exact .real

theorem isWritable_millis {number : Numeral} (short : number.IsShort) :
    isWritable number.millis = true := by
  cases short with
  | @whole value short =>
      simp only [Numeral.millis]
      split
      · exact isWritable_of_near short (by omega)
      · next few =>
          rw [millisThreshold] at few
          exact isWritable_of_small (by omega)
  | @real value =>
      simp only [Numeral.millis]
      split
      · exact isWritable_of_near (wholePart_lt value) (by omega)
      · exact isWritable_of_near (wholePart_lt (value * 1000)) (by omega)

theorem isWritable_readDate {text : List Char} {millis : Int}
    (read : readDate text = .millis millis) : isWritable millis = true := by
  simp only [readDate] at read
  split at read
  · next number found =>
      cases read
      exact isWritable_millis (isShort_of_readNumeral found)
  · split at read
    · cases read
    · split at read
      · next within =>
          cases read
          have small := natAbs_lt_of_inCalendar within
          exact isWritable_of_small (by omega)
      · cases read

theorem unwritable?_single (name : String) (value : Json) :
    (single name value).unwritable? = value.unwritable? := by
  simp [single, Json.unwritable?, Json.unwritableMember?]

theorem unwritable?_int {value : Int} (writable : isWritable value = true) :
    (Json.int value).unwritable? = none := by
  rw [Json.unwritable?, if_pos writable]

theorem Numeral.IsShort.unwritable? {number : Numeral} (short : number.IsShort) :
    number.toJson.unwritable? = none := by
  cases short with
  | @whole value short => exact unwritable?_int (isWritable_of_near short (by omega))
  | real => rfl

theorem unwritable?_between {field : String} {lower upper : Int}
    (first : isWritable lower = true) (second : isWritable upper = true) :
    (between field lower upper).unwritable? = none := by
  simp only [between, unwritable?_single]
  simp [Json.unwritable?, Json.unwritableMember?, first, second]

theorem unwritable?_written {cache : Field.Cache} {text : List Char} {clause : Clause}
    (written : Written cache text clause) : clause.toJson.unwritable? = none := by
  cases written with
  | ids _ => rfl
  | dedup _ => rfl
  | range _ _ _ _ _ isBound =>
      simp only [Clause.toJson, unwritable?_single]
      cases isBound with
      | number _ read => exact (isShort_of_readNumeral read).unwritable?
      | date _ read => exact unwritable?_int (isWritable_readDate read)
  | equality _ _ _ _ meant =>
      cases meant with
      | number _ read =>
          simp only [Clause.toJson, unwritable?_single]
          exact (isShort_of_readNumeral read).unwritable?
      | date _ read =>
          simp only [Clause.toJson, unwritable?_single]
          exact unwritable?_int (isWritable_readDate read)
      | truth _ _ => rfl
      | missing _ _ => rfl
      | wildcard _ _ _ _ => rfl
      | textMatch _ _ _ _ => rfl

theorem reread_single (name : String) (value : Json) :
    (single name value).reread = single name value.reread := by
  simp [single, Json.reread, Json.rereadMembers, Entries.ofPairs, Entries.put]

theorem reread_pair {first second : String} (different : first ≠ second) (value other : Json) :
    (Json.obj [(first, value), (second, other)]).reread =
      .obj [(first, value.reread), (second, other.reread)] := by
  simp [Json.reread, Json.rereadMembers, Entries.ofPairs, Entries.put, different]

theorem reread_between (field : String) (lower upper : Int) :
    (between field lower upper).reread = between field lower upper := by
  rw [between, reread_single, reread_single, reread_pair (by decide), Json.reread, Json.reread]

theorem reread_numeral (number : Numeral) : number.toJson.reread = number.toJson := by
  cases number <;> rfl

theorem reread_clause (clause : Clause) : clause.toJson.reread = clause.toJson := by
  cases clause with
  | ids id => rfl
  | term field value =>
      simp only [Clause.toJson, reread_single]
      cases value with
      | number value => rw [Term.toJson, reread_numeral]
      | bool value => rfl
      | text value => rfl
  | range field comparison bound => simp only [Clause.toJson, reread_single, reread_numeral]
  | missing field => rfl
  | wildcard field pattern => simp only [Clause.toJson, reread_single, Json.reread]
  | textMatch field text => simp only [Clause.toJson, reread_single, Json.reread]
  | within window =>
      have different : "should" ≠ "minimum_should_match" := by decide
      rw [Clause.toJson, reread_single, reread_pair different]
      simp only [Json.reread, Json.rereadItems, reread_between]

end Filter

theorem unwritable?_within {timeframe : String} {now : Moment} {window : Window}
    (shown : now.IsShown)
    (known : Timeframe.window timeframe now = .ok window) :
    (Filter.Clause.within window).toJson.unwritable? = none := by
  obtain ⟨_, known⟩ := check_bind_eq_ok_iff.mp known
  obtain ⟨micros, lasts, known⟩ := bind_eq_ok_iff.mp known
  cases known
  have near := shown.natAbs_lt
  obtain ⟨lower, upper⟩ := Timeframe.duration_bounds lasts
  have most : Timeframe.durationLimit = 86400000000000000000 := by decide +kernel
  have seconds : isWritable (now.epochSeconds - Timeframe.wholeSeconds micros) = true :=
    isWritable_of_near (Filter.wholePart_lt (Timeframe.seconds micros)) (by
      have same : Timeframe.wholeSeconds micros = Filter.wholePart (Timeframe.seconds micros) := rfl
      rw [same, Moment.epochSeconds]
      omega)
  have last : isWritable now.epochSeconds = true :=
    isWritable_of_small (by rw [Moment.epochSeconds]; omega)
  have millis : isWritable (now.epochMillis - micros / 1000) = true :=
    isWritable_of_small (by rw [Moment.epochMillis]; omega)
  have lastMillis : isWritable now.epochMillis = true :=
    isWritable_of_small (by rw [Moment.epochMillis]; omega)
  simp only [Filter.Clause.toJson, Filter.unwritable?_single]
  simp only [Json.unwritable?, Json.unwritableMember?, Json.unwritableItem?,
    Filter.unwritable?_between seconds last, Filter.unwritable?_between millis lastMillis]
  rw [if_pos (isWritable_of_small (by decide))]
  rfl

namespace Query

variable {cache : Field.Cache} {filters : List String} {clauses : List Filter.Clause} {size : Int}
  {timeframe : String} {now : Moment} {query : Query}

theorem unwritable?_of_mem (shown : now.IsShown)
    (built : build filters size timeframe cache now = .ok query) {clause : Filter.Clause}
    (member : clause ∈ query.must) : clause.toJson.unwritable? = none := by
  obtain ⟨_, time, clauses, isTime, compiled, rfl⟩ := build_eq_ok_iff.mp built
  rcases List.mem_append.mp member with member | member
  · cases isTime with
    | unlimited _ => cases member
    | within _ known =>
        rw [List.mem_singleton.mp member]
        exact unwritable?_within shown known
  · obtain ⟨filter, -, accepted⟩ := compiled.mem_iff.mp member
    exact Filter.unwritable?_written (Filter.written_of_compileStripped accepted)

theorem size_of_build (built : build filters size timeframe cache now = .ok query) :
    query.size = size := by
  obtain ⟨_, _, _, _, _, rfl⟩ := build_eq_ok_iff.mp built
  rfl

/-- Only the size of a query can have too many digits to be written. -/
theorem unwritable?_toJson_eq_none_iff (shown : now.IsShown)
    (built : build filters size timeframe cache now = .ok query) :
    query.toJson.unwritable? = none ↔ isWritable query.size = true := by
  have condition : (if query.must = [] then Filter.single "match_all" (.obj [])
      else Filter.single "bool" (Filter.single "must"
        (.arr (query.must.map Filter.Clause.toJson)))).unwritable? = none := by
    split
    · rfl
    · simp only [Filter.unwritable?_single]
      rw [Json.unwritable?, Json.unwritableItem?_eq_none_iff]
      intro item member
      obtain ⟨clause, inQuery, rfl⟩ := List.mem_map.mp member
      exact unwritable?_of_mem shown built inQuery
  rw [toJson_eq, Json.unwritable?, Json.unwritableMember?, condition, Json.unwritableMember?,
    Json.unwritable?]
  by_cases short : isWritable query.size = true
  · rw [if_pos short]
    exact iff_of_true rfl short
  · rw [if_neg short]
    exact iff_of_false (Option.some_ne_none _) short

/-- No object in a query has a name twice. -/
theorem reread_toJson (query : Query) : query.toJson.reread = query.toJson := by
  have clauses (must : List Filter.Clause) :
      Json.rereadItems (must.map Filter.Clause.toJson) = must.map Filter.Clause.toJson := by
    induction must with
    | nil => rfl
    | cons clause rest ih => simp only [List.map_cons, Json.rereadItems, Filter.reread_clause, ih]
  rw [toJson_eq, Filter.reread_pair (by decide)]
  split
  · rfl
  · rw [Filter.reread_single, Filter.reread_single, Json.reread, Json.reread, clauses]

/-- The text of a query is this query, when its size has not too many digits to be printed. -/
theorem read_pageText (shown : now.IsShown)
    (built : build filters size timeframe cache now = .ok query)
    (short : isWritable query.size = true) :
    Json.read (query.toJson.pageText ++ "\n") = .ok query.toJson := by
  rw [Json.read_pageText ((unwritable?_toJson_eq_none_iff shown built).mpr short), reread_toJson]

end Query

end FilterQuery
