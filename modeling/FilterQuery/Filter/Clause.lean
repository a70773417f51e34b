import FilterQuery.Filter.Literal
import FilterQuery.Json.Value
import FilterQuery.Timeframe

/-!
# Query clauses

The conditions that a query puts on documents, and their form in a search request.
-/

set_option autoImplicit false

namespace FilterQuery.Filter

inductive Comparison where
  | less
  | atMost
  | greater
  | atLeast
  deriving DecidableEq, Repr

def Comparison.name : Comparison → String
  | .less => "lt"
  | .atMost => "lte"
  | .greater => "gt"
  | .atLeast => "gte"

inductive Term where
  | number (value : Numeral)
  | bool (value : Bool)
  | text (value : String)
  deriving DecidableEq

inductive Clause where
  | ids (id : String)
  | term (field : String) (value : Term)
  | range (field : String) (comparison : Comparison) (bound : Numeral)
  | missing (field : String)
  /-- A field has a value that a pattern with wildcards stands for. -/
  | wildcard (field pattern : String)
  | textMatch (field text : String)
  /-- The time of the document, in seconds or in milliseconds, lies in a window. -/
  | within (window : Window)
  deriving DecidableEq

def Numeral.toJson : Numeral → Json
  | .whole value => .int value
  | .real value => .float value

def Term.toJson : Term → Json
  | .number value => value.toJson
  | .bool value => .bool value
  | .text value => .str value

def single (name : String) (value : Json) : Json :=
  .obj [(name, value)]

def between (field : String) (lower upper : Int) : Json :=
  single "range" (single field (.obj [("gte", .int lower), ("lte", .int upper)]))

def Clause.toJson : Clause → Json
  | .ids id => single "ids" (single "values" (.arr [.str id]))
  | .term field value => single "term" (single field value.toJson)
  | .range field comparison bound =>
      single "range" (single field (single comparison.name bound.toJson))
  | .missing field =>
      single "bool" (single "must_not" (single "exists" (single "field" (.str field))))
  | .wildcard field pattern => single "wildcard" (single field (.str pattern))
  | .textMatch field text => single "match" (single field (.str text))
  | .within window =>
      single "bool" (.obj [
        ("should", .arr [
          between "unixTime" window.secondsFrom window.secondsTo,
          between "detectionGeneratedTime" window.millisFrom window.millisTo]),
        ("minimum_should_match", .int 1)])

end FilterQuery.Filter
