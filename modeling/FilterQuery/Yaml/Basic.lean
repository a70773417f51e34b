import FilterQuery.Json.Value
import FilterQuery.Number.Shortest
import FilterQuery.Text.Quoted
import FilterQuery.Time.Timestamp

/-!
# YAML values

The values of configuration documents, and how messages show them. The keys of a mapping may be any
scalars; no two of them are equal in a value that is decoded. Binary data, sets and values that
contain themselves are left out.
-/

set_option autoImplicit false

namespace FilterQuery

inductive Yaml where
  | null
  | bool (value : Bool)
  | int (value : Int)
  | float (value : Binary64)
  | str (value : String)
  | time (value : Timestamp)
  | list (items : List Yaml)
  | map (entries : List (Yaml × Yaml))
  deriving Inhabited

namespace Yaml

open Number

/-- Whether a value counts as true: neither null, false, zero nor empty. Timestamps do. -/
def isTrue : Yaml → Bool
  | .null => false
  | .bool value => value
  | .int value => value != 0
  | .float value => !value.isZero
  | .str value => value != ""
  | .time _ => true
  | .list items => !items.isEmpty
  | .map entries => !entries.isEmpty

mutual

/-- A value as messages show it inside other values: texts are quoted. -/
def shown : Yaml → String
  | .null => "None"
  | .bool true => "True"
  | .bool false => "False"
  | .int value => intText value
  | .float value => value.shown
  | .str value => Text.quoted value
  | .time value => value.shown
  | .list items => "[" ++ ", ".intercalate (shownItems items) ++ "]"
  | .map entries => "\x7b" ++ ", ".intercalate (shownEntries entries) ++ "\x7d"

def shownItems : List Yaml → List String
  | [] => []
  | item :: rest => shown item :: shownItems rest

def shownEntries : List (Yaml × Yaml) → List String
  | [] => []
  | (key, value) :: rest => (shown key ++ ": " ++ shown value) :: shownEntries rest

end

/-- The text of a value: that of a string or a timestamp, or what messages show. -/
def text : Yaml → String
  | .str value => value
  | .time value => value.text
  | value => value.shown

mutual

/-- Whether a value holds no integer with more digits than integers are written with. -/
def isPrintable : Yaml → Bool
  | .int value => isWritable value
  | .list items => arePrintable items
  | .map entries => entriesArePrintable entries
  | _ => true

def arePrintable : List Yaml → Bool
  | [] => true
  | item :: rest => isPrintable item && arePrintable rest

def entriesArePrintable : List (Yaml × Yaml) → Bool
  | [] => true
  | (key, value) :: rest => isPrintable key && isPrintable value && entriesArePrintable rest

end

mutual

def ofJson : Json → Yaml
  | .null => .null
  | .bool value => .bool value
  | .int value => .int value
  | .float value => .float value
  | .str value => .str value
  | .arr items => .list (ofItems items)
  | .obj members => .map (ofMembers members)

/-- The items of a JSON array as items of a list. -/
def ofItems : List Json → List Yaml
  | [] => []
  | item :: rest => ofJson item :: ofItems rest

/-- The members of a JSON object as entries of a mapping. -/
def ofMembers : List (String × Json) → List (Yaml × Yaml)
  | [] => []
  | (name, value) :: rest => (.str name, ofJson value) :: ofMembers rest

end

/-- The key that stands for all keys equal to one: truth values count as integers, and so do numbers
without a fraction. -/
def keyForm : Yaml → Yaml
  | .bool value => .int (if value then 1 else 0)
  | .float value =>
      match value.truncate with
      | .ok whole => if value.fraction.isZero then .int whole else .float value
      | .error _ => .float value
  | key => key

/-- Whether two keys are equal. Messages show scalars of one form differently if they differ. -/
def sameKey (key other : Yaml) : Bool :=
  key.keyForm.shown == other.keyForm.shown

theorem sameKey_comm (key other : Yaml) : sameKey key other = sameKey other key :=
  Bool.beq_comm

theorem sameKey_self (key : Yaml) : sameKey key key = true :=
  beq_self_eq_true _

def HasDistinctKeys (entries : List (Yaml × Yaml)) : Prop :=
  entries.Pairwise fun entry other => sameKey entry.1 other.1 = false

/-- No two keys are equal in any mapping of a value. -/
inductive IsDecoded : Yaml → Prop where
  | null : IsDecoded .null
  | bool {value : Bool} : IsDecoded (.bool value)
  | int {value : Int} : IsDecoded (.int value)
  | float {value : Binary64} : IsDecoded (.float value)
  | str {text : String} : IsDecoded (.str text)
  | time {value : Timestamp} : IsDecoded (.time value)
  | list {items : List Yaml} : (∀ item ∈ items, IsDecoded item) → IsDecoded (.list items)
  | map {entries : List (Yaml × Yaml)} : HasDistinctKeys entries →
      (∀ entry ∈ entries, IsDecoded entry.2) → IsDecoded (.map entries)

end Yaml

end FilterQuery
