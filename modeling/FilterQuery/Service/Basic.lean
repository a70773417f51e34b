import FilterQuery.ReferenceTime
import FilterQuery.Session.Basic

/-!
# The service

What a service does with the bodies of requests, once these are decoded. Compiling and checking
timeframes need no session; searching and what concerns fields and indices does. An answer has a
status and a value.
-/

set_option autoImplicit false

namespace FilterQuery.Service

open Server Pacing FilterQuery.Field

structure CompileBody where
  filters : List String
  size : Int
  timeframe : String
  now : Option String
  deriving DecidableEq

structure SearchBody where
  compile : CompileBody
  index : Option String
  timeout : Option Binary64
  deriving DecidableEq

structure FieldBody where
  field : String
  up : Bool

inductive Breakdown where
  | time (fault : TimeFault)
  | query (breakdown : Filter.Breakdown)
  | malformed (malformed : Malformed)
  | throttled (message : String)

inductive Response where
  | answered (status : Nat) (value : Json)
  | broken (breakdown : Breakdown)

def failed (status : Nat) (detail : Json) : Response :=
  .answered status (.obj [("detail", detail)])

def failedText (status : Nat) (detail : String) : Response :=
  failed status (.str detail)

def succeeded (members : Json.Members) : Response :=
  .answered 200 (.obj members)

/-- The zone of the wall clock, and the time on it. -/
structure WallClock where
  zone : Int
  current : Moment

/-- The reference time of a request: the current time when none is given. -/
def referenceTime (clock : WallClock) (value : Option String) : Except Response Moment :=
  match value with
  | none | some "" => .ok clock.current
  | some text =>
      match readReference clock.zone (Text.trimmed text) with
      | .ok moment => .ok moment
      | .error .notADate => .error (failedText 400 ("Invalid reference time: " ++ text))
      | .error (.unrepresentable fault) => .error (.broken (.time fault))

def positioned (error : Nat × Filter.Error) : Json :=
  .obj [("position", .int error.1), ("field", .str error.2.field),
    ("message", .str error.2.cause.message)]

/-- The answer to a query that is not compiled; its detail is made from the message and the errors
of the tokens. -/
def queryFailed (detail : String → List (Nat × Filter.Error) → Json) : QueryFault → Response
  | .query error => failed 400 (detail error.message error.errors)
  | .timeframe error => failed 400 (detail (timeQueryMessage error) [])
  | .broken breakdown => .broken (.query breakdown)

def compile (clock : WallClock) (cache : Cache) (body : CompileBody) : Response :=
  match referenceTime clock body.now with
  | .error response => response
  | .ok now =>
      match Query.build body.filters body.size body.timeframe cache now with
      | .ok query => succeeded [("query", query.toJson)]
      | .error fault =>
          queryFailed
            (fun message errors => .obj [("message", .str message),
              ("errors", .arr (errors.map positioned))])
            fault

/-- The duration of a timeframe that is accepted, in microseconds. -/
def acceptedDuration (timeframe : String) (now : Moment) : Except TimeframeFault Int := do
  Timeframe.validate timeframe
  Timeframe.duration timeframe now

def checkTimeframe (now : Moment) (timeframe : String) : Response :=
  let answer (valid : Bool) (seconds error : Json) : Response :=
    succeeded [("valid", .bool valid), ("duration_seconds", seconds), ("error", error)]
  match acceptedDuration timeframe now with
  | .ok micros => answer true (.float (Timeframe.seconds micros)) .null
  | .error (.invalid error) => answer false .null (.str error.message)
  | .error (.tooManyDigits digits) => .broken (.query (.tooManyDigits digits))

def saysExhausted (message : String) : Bool :=
  Text.contains message "max retries exceeded"

def searchFailed : SearchError → Response
  | .query fault => queryFailed (fun message _ => .str message) fault
  | .request (.wait error) => failedText 429 error.message
  | .request (.malformed malformed) => .broken (.malformed malformed)
  | .request error =>
      failedText (if saysExhausted error.message then 429 else 502) error.message

/-- What a body asks for at a time. -/
def SearchBody.demand (body : SearchBody) (now : Moment) : Demand :=
  ⟨body.compile.filters, some body.compile.size, some body.compile.timeframe, now⟩

variable {σ : Type}

def search (server : Server σ) (clock : WallClock) (session : Session σ) (body : SearchBody) :
    Response × Session σ :=
  match referenceTime clock body.compile.now with
  | .error response => (response, session)
  | .ok now =>
      match session.execute server (body.demand now) body.index ⟨none, body.timeout⟩ with
      | (.error error, session) => (searchFailed error, session)
      | (.ok result, session) =>
          (succeeded [("documents", .arr (result.documents.map .obj)),
            ("total_hits", .int result.total), ("attempts", .int result.attempts),
            ("selected_fields", Json.ofTexts session.catalog.selection.selected),
            ("new_fields", Json.ofTexts result.newFields)], session)

/-- Answers a request to list the fields that match a filter text. -/
def listFields (session : Session σ) (filter : String) : Response × Session σ :=
  let session := (session.perform (.applyFilter filter)).2
  let selection := session.catalog.selection
  (succeeded [("discovered", Json.ofTexts selection.discovered),
    ("selected", Json.ofTexts selection.selected),
    ("available", Json.ofTexts selection.filtered), ("filter", .str filter)], session)

def change (session : Session σ) (action : Action) : Response × Session σ :=
  let (reply, session) := session.perform action
  (succeeded [("changed", .bool (reply == .truth true)),
    ("selected", Json.ofTexts session.catalog.selection.selected)], session)

def listIndices (server : Server σ) (session : Session σ) (pattern : String) :
    Response × Session σ :=
  match session.listIndices server pattern with
  | (.ok names, session) => (.answered 200 (Json.ofTexts names), session)
  | (.error (.refused (.failed message)), session) => (failedText 502 message, session)
  | (.error (.refused (.throttled message)), session) =>
      (.broken (.throttled message), session)
  | (.error (.malformed malformed), session) => (.broken (.malformed malformed), session)

end FilterQuery.Service
