import FilterQuery.Entries
import FilterQuery.Yaml.Part

/-!
# YAML nodes

The structure of a document without names: what a name refers to stands in its place. A name refers
to a part that ends before it, and no two parts have the same name.
-/

set_option autoImplicit false

namespace FilterQuery.Yaml

inductive Node where
  | scalar (text : String) (plain : Bool)
  | sequence (items : List Node)
  | mapping (entries : List (Node × Node))

abbrev Anchors := Entries Node

namespace Part

mutual

/-- The node of a part, and what names refer to behind it. -/
def resolve (anchors : Anchors) : Part → Option (Node × Anchors)
  | .scalar text plain => some (.scalar text plain, anchors)
  | .sequence items => do
      let (nodes, anchors) ← resolveItems anchors items
      return (.sequence nodes, anchors)
  | .mapping entries => do
      let (nodes, anchors) ← resolveEntries anchors entries
      return (.mapping nodes, anchors)
  | .anchored name part => do
      let (node, anchors) ← resolve anchors part
      if anchors.holds name then none
      return (node, anchors.put name node)
  | .reference name => (anchors.get? name).map (·, anchors)

def resolveItems (anchors : Anchors) : List Part → Option (List Node × Anchors)
  | [] => some ([], anchors)
  | part :: rest => do
      let (node, anchors) ← resolve anchors part
      let (nodes, anchors) ← resolveItems anchors rest
      return (node :: nodes, anchors)

def resolveEntries (anchors : Anchors) :
    List (Part × Part) → Option (List (Node × Node) × Anchors)
  | [] => some ([], anchors)
  | (key, value) :: rest => do
      let (key, anchors) ← resolve anchors key
      let (value, anchors) ← resolve anchors value
      let (nodes, anchors) ← resolveEntries anchors rest
      return ((key, value) :: nodes, anchors)

end

end Part

def Node.ofTokens? (tokens : List Token) : Option Node := do
  let (node, _) ← (← Part.ofTokens? tokens).resolve []
  return node

end FilterQuery.Yaml
