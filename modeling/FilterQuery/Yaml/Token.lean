/-!
# YAML tokens

The parts that the text of a document is split into.
-/

set_option autoImplicit false

namespace FilterQuery.Yaml

inductive Token where
  | documentStart
  | documentEnd
  | blockSequence
  | blockMapping
  | blockEnd
  | openSequence
  | closeSequence
  | openMapping
  | closeMapping
  | dash
  | comma
  | key
  | value
  | anchor (name : String)
  /-- The node with a name, once more. -/
  | reference (name : String)
  | scalar (text : String) (plain : Bool)
  deriving DecidableEq, Repr

end FilterQuery.Yaml
