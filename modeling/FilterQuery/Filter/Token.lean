import FilterQuery.Field.Cache
import FilterQuery.Filter.Clause
import FilterQuery.Filter.Escape
import FilterQuery.Json.Printer
import FilterQuery.Text.Blank

/-!
# Filter tokens

A filter token names a field, an operator and a value: `status=active`, `age>=21`. It is compiled
into a clause. What the value may be depends on the type of the field. Two names have a form of
their own: `_id=` asks for a document and `detection_id_dedup=` for an exact value, of whatever type
the field is. Blanks around the token, the name and the value do not count.
-/

set_option autoImplicit false

namespace FilterQuery.Filter

open Text FilterQuery.Field

inductive Cause where
  | empty
  | noOperator
  | name
  | rangeName
  | noBound
  | notSearchable
  | number (type value : String)
  | date (value : String)
  | bool (value : String)
  | rangeNumber (value : String)
  | rangeDate (value : String)
  | rangeType (type : String)
  | leadingWildcard (wildcard : String)
  deriving DecidableEq, Repr

def Cause.message : Cause → String
  | .empty => "empty filter"
  | .noOperator => "invalid filter format, expected 'field=value' or range query"
  | .name => "invalid field name"
  | .rangeName => "invalid field name in range query"
  | .noBound => "missing value in range query"
  | .notSearchable => "field is not searchable"
  | .number type value => s!"invalid numeric value for {type} field: {value}"
  | .date value => s!"invalid date value: {value} (expected unix timestamp or RFC3339)"
  | .bool value => s!"invalid boolean value: {value} (expected true or false)"
  | .rangeNumber value => s!"invalid numeric value in range query: {value}"
  | .rangeDate value =>
      s!"invalid date value in range query: {value} (expected unix timestamp or RFC3339)"
  | .rangeType type => s!"range query not supported for field of type '{type}'"
  | .leadingWildcard wildcard => s!"wildcard query cannot start with {wildcard}"

/-- A filter token that is not accepted: the text that stands for its field, and what is wrong. -/
structure Error where
  field : String
  cause : Cause
  deriving DecidableEq, Repr

def Error.message (error : Error) : String :=
  let detail := error.cause.message
  let field := error.field
  s!"parse error on field '{field}': {detail}"

/-- Why a token is neither accepted nor rejected. -/
inductive Breakdown where
  /-- A time is not in the calendar when it is moved to UTC. -/
  | outsideCalendar
  /-- The type of the field is a list or an object. -/
  | compoundType
  /-- An integer has more digits than integers are read or written with. -/
  | tooManyDigits (digits : Nat)
  deriving DecidableEq, Repr

/-- What keeps a token from being compiled. -/
inductive Fault where
  | rejected (error : Error)
  | broken (breakdown : Breakdown)
  deriving DecidableEq, Repr

def reject {α : Type} (field : String) (cause : Cause) : Except Fault α :=
  .error (.rejected ⟨field, cause⟩)

def after? (start : String) (text : List Char) : Option (List Char) :=
  if start.toList.isPrefixOf text then some (text.drop start.toList.length) else none

/-- The metadata of a field that is known or taken for a keyword, if it can be searched. -/
def searchable (cache : Cache) (field : String) : Except Fault Metadata :=
  let metadata := (cache.get? field).getD .keyword
  if metadata.searchable then .ok metadata else reject field .notSearchable

def dateOr (field : String) (cause : Cause) (value : List Char) : Except Fault Numeral :=
  match readDate value with
  | .millis millis => .ok (.whole millis)
  | .notADate => reject field cause
  | .outsideCalendar => .error (.broken .outsideCalendar)

/-- The comparison that an angle bracket begins, and the text after it. -/
def comparisonAt (angle : Char) : List Char → Comparison × List Char
  | '=' :: rest => (if angle == '<' then .atMost else .atLeast, rest)
  | rest => (if angle == '<' then .less else .greater, rest)

/-- A field of some type has no ranges. That cannot be said when the type cannot be written. -/
def rejectRange {α : Type} (field : String) (type : Json) (shown : String) : Except Fault α :=
  match type.unwritable? with
  | none => reject field (.rangeType shown)
  | some integer =>
      .error (.broken (.tooManyDigits (Nat.toDigits 10 integer.natAbs).length))

/-- The bound that a value is for a field with some metadata. -/
def bound (field : String) (metadata : Metadata) (value : List Char) : Except Fault Numeral :=
  let shown := String.ofList value
  match metadata.typeText? with
  | none => .error (.broken .compoundType)
  | some type =>
      if metadata.isNumeric then
        match readNumeral value with
        | some number => .ok number
        | none => reject field (.rangeNumber shown)
      else if metadata.isDate then dateOr field (.rangeDate shown) value
      else rejectRange field metadata.type type

/-- The clause for a range, given the text on both sides of its first angle bracket. -/
def range (cache : Cache) (before : List Char) (angle : Char) (after : List Char) :
    Except Fault Clause :=
  let field := String.ofList (strip before)
  let (comparison, after) := comparisonAt angle after
  let value := strip after
  if !isFieldName field then reject field .rangeName
  else if value.isEmpty then reject field .noBound
  else do
    let metadata ← searchable cache field
    let bound ← bound field metadata value
    return .range field comparison bound

def keyword (field : String) (value : List Char) : Except Fault Clause :=
  if isNull value then .ok (.missing field)
  else if value.head?.any isWildcard then
    reject field (.leadingWildcard (String.ofList (value.take 1)))
  else
    let text := String.ofList (unescape value)
    .ok (if hasWildcard value then .wildcard field text else .textMatch field text)

/-- The clause for a value that a field with some metadata is to have. -/
def exact (field : String) (metadata : Metadata) (value : List Char) : Except Fault Clause :=
  let shown := String.ofList value
  match metadata.typeText? with
  | none => .error (.broken .compoundType)
  | some type =>
      if metadata.isNumeric then
        match readNumeral value with
        | some number => .ok (.term field (.number number))
        | none => reject field (.number type shown)
      else if metadata.isDate then do
        let millis ← dateOr field (.date shown) value
        return .term field (.number millis)
      else if metadata.isBoolean then
        match readBool value with
        | some truth => .ok (.term field (.bool truth))
        | none => reject field (.bool shown)
      else keyword field value

/-- The clause for an equality, given the text on both sides of its first equals sign. -/
def equality (cache : Cache) (before after : List Char) : Except Fault Clause :=
  let field := String.ofList (strip before)
  if !isFieldName field then reject field .name
  else do
    let metadata ← searchable cache field
    exact field metadata (strip after)

def compileStripped (cache : Cache) (text : List Char) : Except Fault Clause :=
  if text.isEmpty then reject "" .empty
  else
    match after? "_id=" text, after? "detection_id_dedup=" text with
    | some value, _ => .ok (.ids (String.ofList (strip value)))
    | none, some value =>
        .ok (.term "detection_id_dedup" (.text (String.ofList (strip value))))
    | none, none =>
        match text.span fun c => c != '<' && c != '>' with
        | (before, angle :: after) => range cache before angle after
        | (_, []) =>
            match text.span (· != '=') with
            | (before, _ :: after) => equality cache before after
            | (_, []) => reject (String.ofList text) .noOperator

def compile (cache : Cache) (filter : String) : Except Fault Clause :=
  compileStripped cache (strip filter.toList)

/-- Compiles tokens at consecutive positions. Clauses and errors are collected, both in order, up to
the first token that is neither accepted nor rejected. -/
def compileFrom (cache : Cache) : (position : Nat) → List String →
    Except Breakdown (List Clause × List (Nat × Error))
  | _, [] => .ok ([], [])
  | position, filter :: rest =>
      match compile cache filter with
      | .ok clause => do
          let (clauses, errors) ← compileFrom cache (position + 1) rest
          return (clause :: clauses, errors)
      | .error (.rejected error) => do
          let (clauses, errors) ← compileFrom cache (position + 1) rest
          return (clauses, (position, error) :: errors)
      | .error (.broken breakdown) => .error breakdown

/-- Compiles tokens; positions are counted from zero. -/
def compileAll (cache : Cache) (filters : List String) :
    Except Breakdown (List Clause × List (Nat × Error)) :=
  compileFrom cache 0 filters

end FilterQuery.Filter
