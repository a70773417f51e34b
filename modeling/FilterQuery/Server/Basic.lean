import FilterQuery.Field.Path
import FilterQuery.Query

/-!
# Search servers

What is asked of a search server and what it may answer. A server is given by its answers, which
may depend on everything that it was asked before: each answer comes with the server's next state.
-/

set_option autoImplicit false

namespace FilterQuery

namespace Server

/-- What a server gives out to name an open scroll. One that does not count as true names none. -/
abbrev ScrollId := Json

/-- A call to a server, with search requests of some form. -/
inductive Call (Request : Type) where
  | search (index : String) (request : Request)
  | openScroll (index : String) (request : Request) (keepAlive : String)
  | scroll (id : ScrollId) (keepAlive : String)
  | clearScroll (id : ScrollId)
  | fieldCapabilities (index fields : String)
  | indices (pattern : String)

inductive Refusal where
  | throttled (message : String)
  | failed (message : String)
  deriving DecidableEq, Repr

def Refusal.message : Refusal → String
  | .throttled message => message
  | .failed message => message

inductive Malformed where
  /-- Members or text are looked for in a value that has none. -/
  | wrongKind
  /-- A value that is not a collection stands for the items of a list. -/
  | notACollection
  | unbounded
  deriving DecidableEq, Repr

inductive Fault where
  | refused (refusal : Refusal)
  | malformed (malformed : Malformed)
  deriving DecidableEq, Repr

structure Page where
  documents : List Document
  total : Int

end Server

open Server in
structure Server (σ : Type) where
  search : (index : String) → Query → σ → Except Fault Page × σ
  /-- The first batch of a large search, and the scroll that gives the next one. -/
  openScroll : (index : String) → Query → (keepAlive : String) → σ →
    Except Fault (Page × ScrollId) × σ
  /-- The next batch of a scroll, and the scroll that gives the one after it. -/
  scroll : ScrollId → (keepAlive : String) → σ → Except Fault (List Document × ScrollId) × σ
  clearScroll : ScrollId → σ → Except Refusal Unit × σ
  fieldCapabilities : (index fields : String) → σ → Except Refusal Json × σ
  indices : (pattern : String) → σ → Except Fault (List String) × σ

end FilterQuery
