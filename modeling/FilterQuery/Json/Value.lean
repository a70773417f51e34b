import FilterQuery.Entries
import FilterQuery.Number.Binary64

/-!
# JSON values

The values of documents, responses and request bodies. Integers and floating-point numbers are
different values, and the members of an object keep their order.
-/

set_option autoImplicit false

namespace FilterQuery

inductive Json where
  | null
  | bool (value : Bool)
  | int (value : Int)
  | float (value : Binary64)
  | str (value : String)
  | arr (items : List Json)
  | obj (members : List (String × Json))
  deriving Inhabited

namespace Json

abbrev Members := Entries Json

def members? : Json → Option Members
  | .obj members => some members
  | _ => none

def str? : Json → Option String
  | .str value => some value
  | _ => none

def isNull : Json → Bool
  | .null => true
  | _ => false

/-- Whether a value counts as true: neither null, false, zero nor empty. -/
def isTrue : Json → Bool
  | .null => false
  | .bool value => value
  | .int value => value != 0
  | .float value => !value.isZero
  | .str value => value != ""
  | .arr items => !items.isEmpty
  | .obj members => !members.isEmpty

def ofTexts (texts : List String) : Json :=
  .arr (texts.map .str)

end Json

end FilterQuery
