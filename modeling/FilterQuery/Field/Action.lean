import FilterQuery.Field.Cache
import FilterQuery.Field.Selection

/-!
# Actions on fields

The operations of a user on the fields of an index. Documents that change the discovered fields
also mark these fields as seen in the field cache.
-/

set_option autoImplicit false

namespace FilterQuery.Field

/-- The fields of an index: what is known about them, and which are found and selected. -/
structure Catalog where
  cache : Cache
  selection : Selection

inductive Action where
  | update (documents : List Document)
  | select (field : String)
  | unselect (field : String)
  | toggle (field : String)
  | move (field : String) (up : Bool)
  | applyFilter (text : String)
  | reset
  | isSelected (field : String)

inductive Reply where
  | truth (value : Bool)
  | fields (names : List String)
  | done
  deriving DecidableEq, Repr

namespace Catalog

def empty : Catalog := ⟨.empty, .empty⟩

/-- Brings the discovered fields up to date with a batch of documents. Returns whether they
changed. -/
def absorb (catalog : Catalog) (documents : List Document) : Bool × Catalog :=
  match catalog.selection.update documents with
  | (true, selection) => (true, ⟨catalog.cache.markActive (found documents), selection⟩)
  | (false, selection) => (false, { catalog with selection })

/-- The answer of an operation on the selection, with the cache as it is. -/
def keepCache {α : Type} (catalog : Catalog) (reply : α → Reply) (result : α × Selection) :
    Reply × Catalog :=
  (reply result.1, { catalog with selection := result.2 })

def perform (catalog : Catalog) : Action → Reply × Catalog
  | .update documents =>
      let (changed, catalog) := catalog.absorb documents
      (.truth changed, catalog)
  | .select field => catalog.keepCache .truth (catalog.selection.select field)
  | .unselect field => catalog.keepCache .truth (catalog.selection.unselect field)
  | .toggle field => catalog.keepCache .truth (catalog.selection.toggle field)
  | .move field up => catalog.keepCache .truth (catalog.selection.move field up)
  | .applyFilter text => catalog.keepCache .fields (catalog.selection.applyFilter text)
  | .reset => (.done, { catalog with selection := catalog.selection.reset })
  | .isSelected field => (.truth (catalog.selection.isSelected field), catalog)

end Catalog

end FilterQuery.Field
