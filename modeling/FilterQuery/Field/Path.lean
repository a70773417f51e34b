import FilterQuery.Json.Value
import FilterQuery.Text.Order

/-!
# Field paths

The fields of a document are the dotted paths of its leaves. Every value that is not an object is a
leaf, also a list. The metadata of a search hit becomes a part of its document.
-/

set_option autoImplicit false

namespace FilterQuery

/-- A document: an object with its members in order. -/
abbrev Document := Json.Members

namespace Field

/-- The path of a member below a path. The empty path is the root, and below it stands the bare
name. -/
def below (path name : String) : String :=
  if path = "" then name else path ++ "." ++ name

mutual

/-- The paths of the leaves of a value that stands at a path. -/
def leafPaths (path : String) : Json → List String
  | .obj members => memberPaths path members
  | _ => [path]

def memberPaths (path : String) : List (String × Json) → List String
  | [] => []
  | (name, value) :: rest => leafPaths (below path name) value ++ memberPaths path rest

end

/-- The paths of the leaves of a document, sorted; a path is listed once for each leaf. -/
def paths (document : Document) : List String :=
  Text.sorted (memberPaths "" document)

def found (documents : List Document) : List String :=
  Text.distinct (documents.flatMap (memberPaths ""))

end Field

namespace Document

/-- The members of a search hit that are kept beside its source. -/
def hitMetadata : List String := ["_id", "_index", "_score"]

/-- The document of a search hit: the members of its source, if that is an object, and the metadata
that is not null. -/
def ofHit (hit : Json.Members) : Document :=
  let source := ((hit.get? "_source").bind Json.members?).getD []
  hitMetadata.foldl
    (fun document name =>
      match hit.get? name with
      | none | some .null => document
      | some value => Entries.put document name value)
    source

end Document

end FilterQuery
