import FilterQuery.CommandLine.Run
import FilterQuery.Yaml.Reader

/-!
# Configuration documents

The configuration documents of the program are YAML.
-/

set_option autoImplicit false

namespace FilterQuery.CommandLine

/-- The reader of configuration documents that the program gives its command line. -/
def readDocument (text : String) : Except DocumentError Yaml :=
  (Yaml.read text).mapError fun
    | .malformed => .malformed malformedMessage
    | .scalar error => .refused error.message
    | .unbounded => .unforeseen

end FilterQuery.CommandLine
