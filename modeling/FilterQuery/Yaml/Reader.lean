import FilterQuery.Yaml.Node
import FilterQuery.Yaml.Scalar
import FilterQuery.Yaml.Scan

/-!
# Reading YAML

A text is read as the value of its only document. Scalars that are not plain are texts. Of the
entries of a mapping with one key the last value counts, at the first one's place; a collection is
no key. The entries that a merge key adds to a mapping come before its own.
-/

set_option autoImplicit false

namespace FilterQuery.Yaml

def putEntry (key value : Yaml) : List (Yaml × Yaml) → List (Yaml × Yaml)
  | [] => [(key, value)]
  | (other, old) :: rest =>
      if sameKey other key then (other, value) :: rest
      else (other, old) :: putEntry key value rest

def ofPairs (entries : List (Yaml × Yaml)) : Yaml :=
  .map (entries.foldl (fun map entry => putEntry entry.1 entry.2 map) [])

def entries : Yaml → Reading (List (Yaml × Yaml))
  | .map entries => .ok entries
  | _ => malformed

/-- The entries that the value of a merge key adds: those of a mapping, or those of the mappings of
a list from its end to its start. -/
def mergedEntries : Yaml → Reading (List (Yaml × Yaml))
  | .list items => return (← items.reverse.mapM entries).flatten
  | value => value.entries

/-- Whether a key is the one whose value is merged into its mapping. -/
def isMergeKey : Node → Bool
  | .scalar text plain => plain && text == mergeWord
  | _ => false

def ofScalar (text : String) (plain : Bool) : Reading Yaml :=
  if plain then ofPlain text else .ok (.str text)

def ofKey : Node → Reading Yaml
  | .scalar text plain => if text = defaultWord then .ok (.str text) else ofScalar text plain
  | _ => malformed

mutual

def ofNode : Node → Reading Yaml
  | .scalar text plain => ofScalar text plain
  | .sequence items => do return .list (← ofNodes items)
  | .mapping entries => do
      let (merged, own) ← ofEntries entries
      return ofPairs (merged ++ own)

def ofNodes : List Node → Reading (List Yaml)
  | [] => .ok []
  | node :: rest => do
      let value ← ofNode node
      return value :: (← ofNodes rest)

/-- The entries that merge keys add to a mapping, and its own. -/
def ofEntries : List (Node × Node) → Reading (List (Yaml × Yaml) × List (Yaml × Yaml))
  | [] => .ok ([], [])
  | (key, value) :: rest => do
      if isMergeKey key then
        let added ← mergedEntries (← ofNode value)
        let (merged, own) ← ofEntries rest
        return (added ++ merged, own)
      else
        let key ← ofKey key
        let value ← ofNode value
        let (merged, own) ← ofEntries rest
        return (merged, (key, value) :: own)

end

def read (text : String) : Reading Yaml := do
  match Node.ofTokens? (← tokens text) with
  | some node => ofNode node
  | none => malformed

end FilterQuery.Yaml
