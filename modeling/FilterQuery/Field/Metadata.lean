import FilterQuery.Json.Value
import FilterQuery.Number.Integer
import FilterQuery.Number.Shortest

/-!
# Field metadata

What is known about a field of an index: its type, and whether it can be searched, aggregated and
was seen in documents. A type is a name, but whatever else a server gives for one is kept. A field
about which nothing is known is taken for a searchable keyword.
-/

set_option autoImplicit false

namespace FilterQuery.Field

structure Metadata where
  type : Json
  searchable : Bool
  aggregatable : Bool
  active : Bool

namespace Metadata

/-- A searchable and aggregatable keyword: a built-in field, and any field without metadata. -/
def keyword : Metadata := ⟨.str "keyword", true, true, false⟩

def isNumeric (metadata : Metadata) : Bool :=
  metadata.type.str?.any ["long", "integer", "float", "double"].contains

def isDate (metadata : Metadata) : Bool :=
  metadata.type.str?.any (· == "date")

def isBoolean (metadata : Metadata) : Bool :=
  metadata.type.str?.any (· == "boolean")

/-- How messages show the type. A list or an object is not shown: it cannot even be looked up among
the numeric types. -/
def typeText? (metadata : Metadata) : Option String :=
  match metadata.type with
  | .null => some "None"
  | .bool value => some (if value then "True" else "False")
  | .int value => some (Number.intText value)
  | .float value => some value.shown
  | .str name => some name
  | .arr _ | .obj _ => none

end Metadata

end FilterQuery.Field
