import FilterQuery.Session.Basic

/-!
# Steps of a session

Everything that a user does with a session, as data, and the runs of a session through lists of
such steps.
-/

set_option autoImplicit false

namespace FilterQuery

open Server Pacing FilterQuery.Field

inductive Step where
  | execute (demand : Demand) (index : Option String) (patience : Patience)
  | compile (demand : Demand)
  | refresh (index : String) (fields : Option (List String))
  | switchIndex (index : String)
  | listIndices (pattern : String)
  | advance (seconds : Binary64)
  | perform (action : Action)

inductive Outcome where
  | executed (result : Except SearchError SearchResult)
  | compiled (result : Except QueryFault Query)
  | refreshed (result : Except MetadataError Bool)
  | listed (result : Except Fault (List String))
  | replied (reply : Reply)
  | done

namespace Session

variable {σ : Type}

def step (server : Server σ) (session : Session σ) : Step → Outcome × Session σ
  | .execute demand index patience =>
      let (result, session) := session.execute server demand index patience
      (.executed result, session)
  | .compile demand => (.compiled (session.compile demand), session)
  | .refresh index fields =>
      let (result, session) := session.refresh server index fields
      (.refreshed result, session)
  | .switchIndex index => (.done, session.switchIndex index)
  | .listIndices pattern =>
      let (result, session) := session.listIndices server pattern
      (.listed result, session)
  | .advance seconds => (.done, session.advance seconds)
  | .perform action =>
      let (reply, session) := session.perform action
      (.replied reply, session)

def run (server : Server σ) (session : Session σ) (steps : List Step) : Session σ :=
  steps.foldl (fun session step => (session.step server step).2) session

end Session

end FilterQuery
