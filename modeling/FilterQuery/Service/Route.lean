import FilterQuery.Service.Body

/-!
# Routes

The operations that a service offers, each under a path and a method. Slashes at the end of a path
do not count. A body that is not accepted is answered with the locations of what is wrong with it.
-/

set_option autoImplicit false

namespace FilterQuery.Service

open Server

inductive Operation where
  | compile
  | checkTimeframe
  | search
  | listFields
  | select
  | unselect
  | move
  | listIndices
  | health
  deriving DecidableEq, Repr

def routes : List (String × String × Operation) :=
  [("POST", "/api/query/compile", .compile),
    ("POST", "/api/timeframe/validate", .checkTimeframe),
    ("POST", "/api/search", .search),
    ("GET", "/api/fields", .listFields),
    ("POST", "/api/fields/select", .select),
    ("POST", "/api/fields/unselect", .unselect),
    ("POST", "/api/fields/move", .move),
    ("GET", "/api/indices", .listIndices),
    ("GET", "/health", .health)]

inductive Target where
  | operation (operation : Operation)
  | unknownPath
  | wrongMethod
  deriving DecidableEq, Repr

def withoutSlashes (path : String) : String :=
  String.ofList (path.toList.reverse.dropWhile (· == '/')).reverse

def target (method path : String) : Target :=
  match routes.filter fun route => route.2.1 = withoutSlashes path with
  | [] => .unknownPath
  | candidates =>
      match candidates.find? fun route => route.1 = method with
      | some (_, _, operation) => .operation operation
      | none => .wrongMethod

structure Request where
  method : String
  path : String
  parameters : Entries String
  body : String

inductive Reply where
  | answered (status : Nat) (body : Json)
  | invalid (locations : List Location)
  | broken (breakdown : Breakdown)

mutual

/-- A value with null in place of the numbers that are not finite, which JSON has no form for. -/
def writable : Json → Json
  | .float value => if value.isFinite then .float value else .null
  | .arr items => .arr (writableItems items)
  | .obj members => .obj (writableMembers members)
  | value => value

/-- The items of a list with null in place of the numbers that are not finite. -/
def writableItems : List Json → List Json
  | [] => []
  | item :: rest => writable item :: writableItems rest

/-- The members of an object with null in place of the numbers that are not finite. -/
def writableMembers : List (String × Json) → List (String × Json)
  | [] => []
  | (name, value) :: rest => (name, writable value) :: writableMembers rest

end

variable {σ : Type}

/-- A value with null in place of the numbers that are not finite, and a breakdown as it is. -/
def Response.reply : Response → Reply
  | .answered status value => .answered status (writable value)
  | .broken breakdown => .broken breakdown

def bodyFailed : BodyFault → Reply
  | .invalid locations => .invalid locations
  | .unreadable => (failedText 400 "There was an error parsing the body").reply

def withSession (session : Option (Session σ)) (run : Session σ → Response × Session σ) :
    Reply × Option (Session σ) :=
  match session with
  | none => ((failedText 503 "No search session configured").reply, none)
  | some session =>
      let (response, session) := run session
      (response.reply, some session)

def withBody {α : Type} (session : Option (Session σ)) (read : Json.Members → Checked α)
    (text : String) (run : α → Reply × Option (Session σ)) : Reply × Option (Session σ) :=
  match readBody read text with
  | .error fault => (bodyFailed fault, session)
  | .ok body => run body

def operate (server : Server σ) (clock : WallClock) (session : Option (Session σ))
    (request : Request) : Operation → Reply × Option (Session σ)
  | .compile =>
      withBody session CompileBody.read request.body fun body =>
        let cache := (session.map fun session => session.catalog.cache).getD .empty
        ((compile clock cache body).reply, session)
  | .checkTimeframe =>
      withBody session readTimeframe request.body fun timeframe =>
        ((checkTimeframe clock.current timeframe).reply, session)
  | .search =>
      withBody session SearchBody.read request.body fun body =>
        withSession session fun session => search server clock session body
  | .listFields =>
      withSession session fun session =>
        listFields session ((request.parameters.get? "filter").getD "")
  | .select =>
      withBody session FieldBody.read request.body fun body =>
        withSession session fun session => change session (.select body.field)
  | .unselect =>
      withBody session FieldBody.read request.body fun body =>
        withSession session fun session => change session (.unselect body.field)
  | .move =>
      withBody session FieldBody.read request.body fun body =>
        withSession session fun session => change session (.move body.field body.up)
  | .listIndices =>
      withSession session fun session =>
        listIndices server session ((request.parameters.get? "pattern").getD "*")
  | .health => ((succeeded [("status", .str "healthy")]).reply, session)

def respond (server : Server σ) (clock : WallClock) (session : Option (Session σ))
    (request : Request) : Reply × Option (Session σ) :=
  match target request.method request.path with
  | .operation operation => operate server clock session request operation
  | .unknownPath => ((failedText 404 "Not Found").reply, session)
  | .wrongMethod => ((failedText 405 "Method Not Allowed").reply, session)

end FilterQuery.Service
