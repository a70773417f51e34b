import FilterQuery.Field.Metadata
import FilterQuery.Json.Value
import FilterQuery.Text.Order

/-!
# Field cache

The metadata of the fields of an index, by name. Entries come from a field capabilities response,
whose object `fields` lists for each field the types it has and what they can do; of several types
the first one counts.
-/

set_option autoImplicit false

namespace FilterQuery.Field

structure Cache where
  entries : Entries Metadata

/-- A field capabilities response that has no object `fields`. -/
inductive CapabilitiesError where
  | noFields
  deriving DecidableEq, Repr

def CapabilitiesError.message : CapabilitiesError → String
  | .noFields => "field capabilities response has no 'fields' object"

namespace Cache

def empty : Cache := ⟨[]⟩

def get? (cache : Cache) (field : String) : Option Metadata :=
  cache.entries.get? field

/-- Stores the metadata of a field in place of what was known. -/
def set (cache : Cache) (field : String) (metadata : Metadata) : Cache :=
  ⟨cache.entries.put field metadata⟩

def holds (cache : Cache) (field : String) : Bool :=
  (cache.get? field).isSome

def size (cache : Cache) : Nat :=
  cache.entries.length

/-- The fields that are not known, sorted and each once. -/
def missing (cache : Cache) (fields : List String) : List String :=
  (Text.distinct fields).filter fun field => !cache.holds field

/-- Marks the known ones among some fields as seen in documents. -/
def markActive (cache : Cache) (fields : List String) : Cache :=
  fields.foldl
    (fun cache field => ⟨cache.entries.update (fun metadata => { metadata with active := true })
      field⟩)
    cache

/-- The names of the fields that were seen in documents, sorted. -/
def active (cache : Cache) : List String :=
  Text.sorted ((cache.entries.filter fun entry => entry.2.active).map (·.1))

def builtIn : List String := ["_id", "_index"]

def setDefaults (cache : Cache) : Cache :=
  builtIn.foldl (fun cache field => cache.set field .keyword) cache

/-- The metadata that a response gives for a type. A type may say that it is another one, is
searchable unless it says no, and aggregatable only if it says so. -/
def typeMetadata (type : String) (capabilities : Json) : Metadata :=
  let members := capabilities.members?.getD []
  { type := (members.get? "type").getD (.str type)
    searchable := ((members.get? "searchable").map Json.isTrue).getD true
    aggregatable := ((members.get? "aggregatable").map Json.isTrue).getD false
    active := false }

/-- The metadata that a response gives for a field: that of its first type. -/
def described? : Json → Option Metadata
  | .obj ((type, capabilities) :: _) => some (typeMetadata type capabilities)
  | _ => none

/-- Stores the metadata of the fields that a list describes, and counts them. -/
def storeAll : List (String × Json) → Cache → Cache × Nat
  | [], cache => (cache, 0)
  | (field, types) :: rest, cache =>
      match described? types with
      | none => storeAll rest cache
      | some metadata =>
          let (cache, count) := storeAll rest (cache.set field metadata)
          (cache, count + 1)

/-- Stores what a field capabilities response describes, and counts the fields. -/
def populate (response : Json) (cache : Cache) : Except CapabilitiesError (Cache × Nat) :=
  match (response.members?.bind fun members => members.get? "fields").bind Json.members? with
  | none => .error .noFields
  | some fields => .ok (storeAll fields cache)

end Cache

end FilterQuery.Field
