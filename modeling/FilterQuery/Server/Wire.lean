import FilterQuery.Server.Basic

/-!
# Servers behind a wire

A server that is asked over a wire answers with JSON values, out of which pages, scrolls and lists
of indices are read, or with a failure that carries a status. A failure whose status mentions 429
says that the call came too early, where a call may be answered so.
-/

set_option autoImplicit false

namespace FilterQuery.Server

open Number

inductive Status where
  | code (number : Int)
  | word (text : String)
  | none
  deriving DecidableEq, Repr

/-- Whether a status mentions 429, the code for too many requests. -/
def Status.isTooMany : Status → Bool
  | .code number => Text.contains (intText number) "429"
  | .word text => Text.contains text "429"
  | .none => false

inductive Failure where
  | reported (status : Status) (text : String)
  | refused (refusal : Refusal)
  deriving DecidableEq, Repr

abbrev Wire (σ : Type) := Call Json → σ → Except Failure Json × σ

/-- What a failure of a call means. A scroll is not cleared, and indices are not listed, too
early. -/
def refusal (call : Call Json) (status : Status) (text : String) : Refusal :=
  let classify (throttled failed : String) : Refusal :=
    if status.isTooMany then .throttled (throttled ++ ": " ++ text)
    else .failed (failed ++ ": " ++ text)
  match call with
  | .search index _ => classify s!"search throttled on {index}" "search error"
  | .openScroll index _ _ => classify s!"scroll search throttled on {index}" "initial scroll error"
  | .scroll _ _ => classify "scroll throttled" "scroll error"
  | .clearScroll _ => .failed ("failed to clear scroll: " ++ text)
  | .fieldCapabilities index _ => classify s!"field caps throttled on {index}" "field caps error"
  | .indices _ => .failed ("failed to list indices: " ++ text)

abbrev Understood := Except Malformed

/-- The member of an object, or a value that stands in when there is none. -/
def member (name : String) (default : Json) : Json → Understood Json
  | .obj members => .ok ((Entries.get? members name).getD default)
  | _ => .error .wrongKind

/-- The items of a collection: the characters of a string, and the names in an object. -/
def itemsOf : Json → Understood (List Json)
  | .arr items => .ok items
  | .str text => .ok (text.toList.map fun c => .str c.toString)
  | .obj members => .ok (members.map fun member => .str member.1)
  | _ => .error .notACollection

def readHit : Json → Understood Document
  | .obj hit => .ok (Document.ofHit hit)
  | _ => .error .wrongKind

def readDocuments (answer : Json) : Understood (List Document) := do
  let hits ← member "hits" (.obj []) answer
  (← itemsOf (← member "hits" (.arr []) hits)).mapM readHit

/-- The count that a value stands for. Text that is no integer, and what is no number, counts as
zero. -/
def readCount : Json → Understood Int
  | .bool value => .ok (if value then 1 else 0)
  | .int value => .ok value
  | .float value =>
      match value.truncate with
      | .ok count => .ok count
      | .error .undefined => .ok 0
      | .error .unbounded => .error .unbounded
  | .str text => .ok ((readInteger text.toList).toOption.getD 0)
  | _ => .ok 0

/-- The number of all hits of an answer, which may be wrapped in an object. -/
def readTotal (answer : Json) : Understood Int := do
  match ← member "total" (.int 0) (← member "hits" (.obj []) answer) with
  | .obj members => readCount ((Entries.get? members "value").getD (.int 0))
  | total => readCount total

def readPage (answer : Json) : Understood Page := do
  let documents ← readDocuments answer
  return ⟨documents, ← readTotal answer⟩

/-- The name of a listed index; hidden indices and those without a name have none. -/
def readIndexName (item : Json) : Understood (Option String) := do
  let name ← member "index" (.str "") item
  if !name.isTrue then return none
  else
    match name with
    | .str text => return if text.startsWith "." then none else some text
    | _ => throw .wrongKind

/-- The names of the indices of an answer, sorted. -/
def readIndices (answer : Json) : Understood (List String) := do
  return Text.sorted ((← (← itemsOf answer).mapM readIndexName).filterMap id)

namespace Wire

variable {σ : Type}

def ask (wire : Wire σ) (call : Call Json) (state : σ) : Except Refusal Json × σ :=
  match wire call state with
  | (.ok answer, state) => (.ok answer, state)
  | (.error (.reported status text), state) => (.error (refusal call status text), state)
  | (.error (.refused refusal), state) => (.error refusal, state)

def fetch {α : Type} (wire : Wire σ) (call : Call Json) (read : Json → Understood α)
    (state : σ) : Except Fault α × σ :=
  match wire.ask call state with
  | (.error refusal, state) => (.error (.refused refusal), state)
  | (.ok answer, state) => ((read answer).mapError .malformed, state)

def search (wire : Wire σ) (index : String) (request : Json) : σ → Except Fault Page × σ :=
  wire.fetch (.search index request) readPage

def openScroll (wire : Wire σ) (index : String) (request : Json) (keepAlive : String) :
    σ → Except Fault (Page × ScrollId) × σ :=
  wire.fetch (.openScroll index request keepAlive) fun answer => do
    let page ← readPage answer
    return (page, ← member "_scroll_id" .null answer)

/-- The next batch of a scroll. An answer that names no scroll means the same one. -/
def scroll (wire : Wire σ) (id : ScrollId) (keepAlive : String) :
    σ → Except Fault (List Document × ScrollId) × σ :=
  wire.fetch (.scroll id keepAlive) fun answer => do
    let documents ← readDocuments answer
    let next ← member "_scroll_id" .null answer
    return (documents, if next.isTrue then next else id)

def clearScroll (wire : Wire σ) (id : ScrollId) (state : σ) : Except Refusal Unit × σ :=
  match wire.ask (.clearScroll id) state with
  | (.ok _, state) => (.ok (), state)
  | (.error refusal, state) => (.error refusal, state)

def fieldCapabilities (wire : Wire σ) (index fields : String) : σ → Except Refusal Json × σ :=
  wire.ask (.fieldCapabilities index fields)

def indices (wire : Wire σ) (pattern : String) : σ → Except Fault (List String) × σ :=
  wire.fetch (.indices pattern) readIndices

def server (wire : Wire σ) : Server σ where
  search index query := wire.search index query.toJson
  openScroll index query := wire.openScroll index query.toJson
  scroll := wire.scroll
  clearScroll := wire.clearScroll
  fieldCapabilities := wire.fieldCapabilities
  indices := wire.indices

end Wire

end FilterQuery.Server
