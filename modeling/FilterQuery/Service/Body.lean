import FilterQuery.Json.Reader
import FilterQuery.Service.Basic
import FilterQuery.Service.Checked

/-!
# Request bodies

The texts of request bodies are read with defaults for what is missing. A body is a JSON object;
members that are not asked for do not count.
-/

set_option autoImplicit false

namespace FilterQuery.Service

namespace CompileBody

def read (body : Json.Members) : Checked CompileBody :=
  (optional "filters" [] readTexts body).both (optional "size" 20 readWhole body)
    |>.both (optional "timeframe" "" readText body)
    |>.both (optional "now" none (orNull readText) body)
    |>.map fun (((filters, size), timeframe), now) => ⟨filters, size, timeframe, now⟩

end CompileBody

def SearchBody.read (body : Json.Members) : Checked SearchBody :=
  (CompileBody.read body).both (optional "index" none (orNull readText) body)
    |>.both (optional "timeout" none (orNull readReal) body)
    |>.map fun ((compile, index), timeout) => ⟨compile, index, timeout⟩

/-- Reads the members of a request to do something with a field. -/
def FieldBody.read (body : Json.Members) : Checked FieldBody :=
  (required "field" readText body).both (optional "up" true readFlag body)
    |>.map fun (field, up) => ⟨field, up⟩

def readTimeframe (body : Json.Members) : Checked String :=
  required "timeframe" readText body

inductive BodyFault where
  | invalid (locations : List Location)
  | unreadable

def inBody (location : Location) : Location :=
  .member "body" :: location

def withoutMark (text : String) : String :=
  match text.toList with
  | c :: rest => if c.toNat == 0xFEFF then String.ofList rest else text
  | [] => text

def readBody {α : Type} (read : Json.Members → Checked α) (text : String) : Except BodyFault α :=
  let invalid (locations : List Location) : BodyFault := .invalid (locations.map inBody)
  if text = "" then .error (invalid [[]])
  else
    match Json.read (withoutMark text) with
    | .ok (.obj members) => (read members).mapError invalid
    | .ok _ | .error .malformed => .error (invalid [[]])
    | .error (.tooManyDigits _) => .error .unreadable

end FilterQuery.Service
