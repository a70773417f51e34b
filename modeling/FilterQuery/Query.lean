import FilterQuery.Filter.Token

/-!
# Queries

A query asks for a number of documents that satisfy all of its clauses. It is built from a
timeframe and filter tokens, and only when all of them are accepted: the errors of all tokens are
reported together.
-/

set_option autoImplicit false

namespace FilterQuery

open Number FilterQuery.Filter

structure Query where
  must : List Clause
  size : Int
  deriving DecidableEq

/-- The form of a query in a request. Without clauses it asks for all documents. -/
def Query.toJson (query : Query) : Json :=
  let condition :=
    if query.must.isEmpty then single "match_all" (.obj [])
    else single "bool" (single "must" (.arr (query.must.map Clause.toJson)))
  .obj [("query", condition), ("size", .int query.size)]

inductive QueryError where
  | negativeSize (size : Int)
  | sizeTooLarge (size most : Int)
  | filters (errors : List (Nat × Filter.Error))
  deriving DecidableEq, Repr

namespace QueryError

def errors : QueryError → List (Nat × Filter.Error)
  | .filters errors => errors
  | _ => []

def positioned (error : Nat × Filter.Error) : String :=
  let position := natText error.1
  let message := error.2.message
  s!"filter[{position}]: {message}"

def message : QueryError → String
  | .negativeSize size => s!"size must be non-negative, got {intText size}"
  | .sizeTooLarge size most => s!"size {intText size} exceeds max_results {intText most}"
  | .filters errors => "failed to parse filters: " ++ "; ".intercalate (errors.map positioned)

def shownIntegers : QueryError → List Int
  | .negativeSize size => [size]
  | .sizeTooLarge size most => [size, most]
  | .filters _ => []

end QueryError

inductive QueryFault where
  | query (error : QueryError)
  | timeframe (error : TimeframeError)
  | broken (breakdown : Filter.Breakdown)
  deriving DecidableEq, Repr

/-- An error as the reason for a fault. It has no wording when it shows an integer that has too many
digits to be written. -/
def QueryFault.ofError (error : QueryError) : QueryFault :=
  match error.shownIntegers.find? fun shown => !isWritable shown with
  | none => .query error
  | some shown => .broken (.tooManyDigits (Nat.toDigits 10 shown.natAbs).length)

/-- The wording for a timeframe that a query is not built with. -/
def timeQueryMessage (error : TimeframeError) : String :=
  "error building time query: " ++ error.message

namespace Query

/-- The clauses of a timeframe: none for an empty one. -/
def timeClauses (timeframe : String) (now : Moment) : Except QueryFault (List Clause) :=
  if timeframe = "" then .ok []
  else
    match Timeframe.window timeframe now with
    | .ok window => .ok [.within window]
    | .error (.invalid error) => .error (.timeframe error)
    | .error (.tooManyDigits digits) => .error (.broken (.tooManyDigits digits))

/-- The clauses of filter tokens, when all of them are accepted. -/
def filterClauses (cache : Field.Cache) (filters : List String) :
    Except QueryFault (List Clause) :=
  match compileAll cache filters with
  | .ok (clauses, []) => .ok clauses
  | .ok (_, errors) => .error (.query (.filters errors))
  | .error breakdown => .error (.broken breakdown)

/-- Builds the query for filter tokens and a timeframe that ends at a reference time. -/
def build (filters : List String) (size : Int) (timeframe : String) (cache : Field.Cache)
    (now : Moment) : Except QueryFault Query :=
  if size < 0 then .error (.ofError (.negativeSize size))
  else do
    let time ← timeClauses timeframe now
    let clauses ← filterClauses cache filters
    return ⟨time ++ clauses, size⟩

end Query

end FilterQuery
