import FilterQuery.Demand
import FilterQuery.Field.Action
import FilterQuery.Session.Retrieval

/-!
# Sessions

A session searches one index at a time. It compiles what a user asks for with what is known about
the fields of the index, retrieves the documents and keeps track of the fields that are found in
them.
-/

set_option autoImplicit false

namespace FilterQuery

open Server Pacing FilterQuery.Field

structure Session (σ : Type) where
  config : Config
  index : String
  catalog : Catalog
  connection : Connection σ

structure SearchResult where
  documents : List Document
  total : Int
  query : Query
  attempts : Nat
  newFields : List String

inductive SearchError where
  | query (fault : QueryFault)
  | request (error : RequestError)

inductive MetadataError where
  | unavailable (refusal : Refusal)
  | undecodable (error : CapabilitiesError)
  deriving DecidableEq

def MetadataError.message : MetadataError → String
  | .unavailable refusal => "field caps error: " ++ refusal.message
  | .undecodable error => "error decoding field caps: " ++ error.message

def chosen (choice : Option String) (default : String) : String :=
  match choice with
  | none | some "" => default
  | some text => text

namespace Session

variable {σ : Type}

/-- A session before any search, if the settings for pacing are accepted. -/
def start (config : Config) (index : Option String) (server : σ) :
    Except SettingsError (Session σ) := do
  config.pacing.check
  return ⟨config, chosen index config.search.indexPattern, .empty, .start config.pacing server⟩

/-- Compiles a demand with what is known about the fields of the index. -/
def compile (session : Session σ) (demand : Demand) : Except QueryFault Query :=
  demand.compile session.config.search session.catalog.cache

/-- Goes over to another index. What is known about fields is forgotten. -/
def switchIndex (session : Session σ) (index : String) : Session σ :=
  { session with index, catalog := .empty }

def listIndices (server : Server σ) (session : Session σ) (pattern : String) :
    Except Fault (List String) × Session σ :=
  let (answer, connection) :=
    session.connection.perform ⟨.indices pattern, server.indices pattern⟩
  (answer, { session with connection })

/-- Loads the metadata of the fields of an index, after that of the built-in fields. -/
def loadMetadata (server : Server σ) (session : Session σ) (index : String) :
    Except MetadataError Unit × Session σ :=
  match session.connection.perform
    ⟨.fieldCapabilities index "*", server.fieldCapabilities index "*"⟩ with
  | (.error refusal, connection) => (.error (.unavailable refusal), { session with connection })
  | (.ok response, connection) =>
      let cache := session.catalog.cache.setDefaults
      match cache.populate response with
      | .error error =>
          (.error (.undecodable error),
            { session with connection, catalog := { session.catalog with cache } })
      | .ok (cache, _) =>
          (.ok (), { session with connection, catalog := { session.catalog with cache } })

/-- Loads metadata, unless fields are given about all of which something is known. Returns whether
it was loaded. -/
def refresh (server : Server σ) (session : Session σ) (index : String)
    (fields : Option (List String)) : Except MetadataError Bool × Session σ :=
  if fields.any fun fields => (session.catalog.cache.missing fields).isEmpty then
    (.ok false, session)
  else
    let (loaded, session) := session.loadMetadata server index
    (loaded.map fun _ => true, session)

/-- Takes in documents: loads metadata when nothing is known about one of their fields, and brings
the discovered fields up to date. Returns the fields that nothing was known about. -/
def absorb (server : Server σ) (session : Session σ) (index : String)
    (documents : List Document) : List String × Session σ :=
  let missing := session.catalog.cache.missing (found documents)
  let session :=
    if missing.isEmpty then session else (session.refresh server index (some missing)).2
  (missing, { session with catalog := (session.catalog.absorb documents).2 })

/-- Searches an index, or that of the session when none is named. -/
def execute (server : Server σ) (session : Session σ) (demand : Demand)
    (index : Option String) (patience : Patience) :
    Except SearchError SearchResult × Session σ :=
  match session.compile demand with
  | .error fault => (.error (.query fault), session)
  | .ok query =>
      let settings := session.config.search
      let target := chosen index session.index
      match session.connection.retrieve server settings ⟨settings.maxRetries.toNat, patience⟩
        target query with
      | (.error error, connection) => (.error (.request error), { session with connection })
      | (.ok retrieved, connection) =>
          let (newFields, session) :=
            { session with connection }.absorb server target retrieved.documents
          (.ok ⟨retrieved.documents, retrieved.total, query, retrieved.attempts, newFields⟩,
            session)

def advance (session : Session σ) (seconds : Binary64) : Session σ :=
  { session with connection :=
      { session.connection with clock := session.connection.clock + seconds } }

def perform (session : Session σ) (action : Action) : Reply × Session σ :=
  let (reply, catalog) := session.catalog.perform action
  (reply, { session with catalog })

end Session

end FilterQuery
