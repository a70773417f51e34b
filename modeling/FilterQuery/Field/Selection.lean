import FilterQuery.Field.Path
import FilterQuery.Text.LowerCase

/-!
# Field selection

The fields that were found in documents, those of them that are selected for display, as a set and
in display order, and the unselected ones that match a filter text. Which fields match is kept up to
date by every operation that can change it.
-/

set_option autoImplicit false

namespace FilterQuery.Field

structure Selection where
  /-- The fields that were found, sorted and each once. -/
  discovered : List String
  /-- The fields that are selected, sorted and each once. -/
  picked : List String
  /-- The selected fields, in display order. -/
  selected : List String
  filter : String
  /-- The unselected fields that match, sorted. -/
  filtered : List String
  deriving DecidableEq, Repr

namespace Selection

def empty : Selection := ⟨[], [], [], "", []⟩

def isSelected (selection : Selection) (field : String) : Bool :=
  selection.picked.contains field

/-- Whether a field name holds a filter text, in any case. -/
def isMatch (filter field : String) : Bool :=
  Text.contains (Text.lowered field) (Text.lowered filter)

def refresh (selection : Selection) : Selection :=
  { selection with
    filtered := selection.discovered.filter fun field =>
      !selection.isSelected field && isMatch selection.filter field }

/-- Replaces the discovered fields by those of a batch of documents and drops selected fields that
are gone. An empty batch, or one with the same fields, changes nothing. Returns whether the
discovered fields changed. -/
def update (selection : Selection) (documents : List Document) : Bool × Selection :=
  let fields := found documents
  if documents.isEmpty || fields = selection.discovered then (false, selection)
  else
    (true, refresh { selection with
      discovered := fields
      picked := selection.picked.filter fields.contains
      selected := selection.selected.filter fields.contains })

/-- Appends a discovered field to the selected ones. Returns whether it was not selected before. -/
def select (selection : Selection) (field : String) : Bool × Selection :=
  if selection.discovered.contains field && !selection.isSelected field then
    (true, refresh { selection with
      picked := Text.insertDistinct field selection.picked
      selected := selection.selected ++ [field] })
  else
    (false, selection)

/-- Takes a field from the selected ones. Returns whether it was selected before. -/
def unselect (selection : Selection) (field : String) : Bool × Selection :=
  if selection.isSelected field then
    (true, refresh { selection with
      picked := selection.picked.erase field
      selected := selection.selected.erase field })
  else
    (false, selection)

/-- Selects an unselected field and takes out a selected one. Returns whether the field is selected
afterwards. -/
def toggle (selection : Selection) (field : String) : Bool × Selection :=
  if selection.isSelected field then (false, (selection.unselect field).2)
  else
    let selection := (selection.select field).2
    (selection.isSelected field, selection)

/-- Exchanges an item with the one before it, if there is one. -/
def moveUp (field : String) : List String → Option (List String)
  | first :: second :: rest =>
      if second = field then some (second :: first :: rest)
      else if first = field then none
      else (moveUp field (second :: rest)).map (first :: ·)
  | _ => none

/-- Exchanges an item with the one after it, if there is one. -/
def moveDown (field : String) : List String → Option (List String)
  | first :: second :: rest =>
      if first = field then some (second :: first :: rest)
      else (moveDown field (second :: rest)).map (first :: ·)
  | _ => none

/-- Exchanges a selected field with its neighbour in display order. Returns whether it moved. -/
def move (selection : Selection) (field : String) (up : Bool) : Bool × Selection :=
  if selection.isSelected field then
    match (if up then moveUp else moveDown) field selection.selected with
    | some selected => (true, { selection with selected })
    | none => (false, selection)
  else (false, selection)

/-- Takes a new filter text. Returns the unselected fields that match it. -/
def applyFilter (selection : Selection) (filter : String) : List String × Selection :=
  let selection := refresh { selection with filter }
  (selection.filtered, selection)

def reset (_ : Selection) : Selection := empty

end Selection

end FilterQuery.Field
