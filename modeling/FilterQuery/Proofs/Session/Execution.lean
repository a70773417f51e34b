import FilterQuery.Proofs.Field.Cache
import FilterQuery.Proofs.Field.Selection
import FilterQuery.Proofs.Outcome
import FilterQuery.Session.Step

/-!
# What a search does to a session

The ways in which a search can end, the session that each of them leaves, and what a request for
metadata writes.
-/

set_option autoImplicit false

namespace FilterQuery

open Server Pacing FilterQuery.Field

namespace Field.Cache

theorem mem_missing_iff {cache : Cache} {fields : List String} {field : String} :
    field ∈ cache.missing fields ↔ field ∈ fields ∧ cache.holds field = false := by
  simp [missing, Text.mem_distinct]

/-- The names whose entries are written when metadata is asked for: those of the built-in fields,
also when the response cannot be read, and those that it describes. -/
def written : Except Refusal Json → List String
  | .error _ => []
  | .ok response =>
      match (response.members?.bind fun members => members.get? "fields").bind Json.members? with
      | none => builtIn
      | some fields => builtIn ++ describedNames fields

end Field.Cache

variable {σ : Type}

/-- The way to ask a server for the metadata of all fields of an index. -/
def Server.metadata (server : Server σ) (index : String) : Inquiry σ (Except Refusal Json) :=
  ⟨.fieldCapabilities index "*", server.fieldCapabilities index "*"⟩

namespace Session

variable {server : Server σ} {session : Session σ}

theorem start_of_check {config : Config} (accepted : config.pacing.check = .ok ())
    (index : Option String) (state : σ) :
    Session.start config index state = .ok ⟨config, chosen index config.search.indexPattern, .empty,
      .start config.pacing state⟩ := by
  rw [Session.start, accepted]
  rfl

theorem start_standard (index : Option String) (state : σ) :
    Session.start .standard index state = .ok ⟨.standard, chosen index "*", .empty,
      .start Config.standard.pacing state⟩ :=
  start_of_check (toOption_eq_some_iff.mp (by decide +kernel)) index state

/-- Metadata is not given, or it is given and cannot be read, or it is stored. The entries of the
built-in fields are written as soon as it is given. -/
theorem loadMetadata_cases (server : Server σ) (session : Session σ) (index : String) :
    ∃ answer connection, session.connection.perform (server.metadata index) = (answer, connection) ∧
      ((∃ refusal, answer = .error refusal ∧
        session.loadMetadata server index =
          (.error (.unavailable refusal), { session with connection })) ∨
      (∃ response error, answer = .ok response ∧
        session.catalog.cache.setDefaults.populate response = .error error ∧
        session.loadMetadata server index = (.error (.undecodable error), { session with
          connection
          catalog := { session.catalog with cache := session.catalog.cache.setDefaults } })) ∨
      ∃ response cache count, answer = .ok response ∧
        session.catalog.cache.setDefaults.populate response = .ok (cache, count) ∧
        session.loadMetadata server index =
          (.ok (), { session with connection, catalog := { session.catalog with cache } })) := by
  cases asked : session.connection.perform (server.metadata index) with
  | mk answer connection =>
      refine ⟨answer, connection, rfl, ?_⟩
      rw [Server.metadata] at asked
      cases answer with
      | error refusal =>
          exact .inl ⟨refusal, rfl, by simp only [loadMetadata, asked]⟩
      | ok response =>
          refine .inr ?_
          cases read : session.catalog.cache.setDefaults.populate response with
          | error error =>
              exact .inl ⟨response, error, rfl, read, by simp only [loadMetadata, asked, read]⟩
          | ok stored =>
              obtain ⟨cache, count⟩ := stored
              exact .inr ⟨response, cache, count, rfl, read,
                by simp only [loadMetadata, asked, read]⟩

/-- Loading metadata is one call, and changes nothing but what is known about fields. -/
theorem loadMetadata_snd (server : Server σ) (session : Session σ) (index : String) :
    ∃ cache, (session.loadMetadata server index).2 = { session with
      connection := (session.connection.perform (server.metadata index)).2
      catalog := { session.catalog with cache } } := by
  obtain ⟨answer, connection, asked, ⟨refusal, -, loaded⟩ | ⟨response, error, -, -, loaded⟩ |
    ⟨response, cache, count, -, -, loaded⟩⟩ := session.loadMetadata_cases server index
  · exact ⟨session.catalog.cache, by rw [loaded, asked]⟩
  · exact ⟨session.catalog.cache.setDefaults, by rw [loaded, asked]⟩
  · exact ⟨cache, by rw [loaded, asked]⟩

/-- A request for metadata is spared when something is known about all the fields it is made for. -/
theorem refresh_cases (server : Server σ) (session : Session σ) (index : String)
    (fields : Option (List String)) :
    (∃ names, fields = some names ∧ session.catalog.cache.missing names = [] ∧
      session.refresh server index fields = (.ok false, session)) ∨
    (∀ names, fields = some names → session.catalog.cache.missing names ≠ []) ∧
      session.refresh server index fields =
        ((session.loadMetadata server index).1.map fun _ => true,
          (session.loadMetadata server index).2) := by
  cases fields with
  | none =>
      refine .inr ⟨fun _ impossible => ?_, rfl⟩
      cases impossible
  | some names =>
      by_cases known : session.catalog.cache.missing names = []
      · exact .inl ⟨names, rfl, known, by simp [refresh, known]⟩
      · refine .inr ⟨fun _ same => ?_, by simp [refresh, known]⟩
        cases same
        exact known

theorem loadMetadata_spec (server : Server σ) (session : Session σ) (index field : String) :
    (field ∈ Cache.written (server.fieldCapabilities index "*" session.connection.server).1 →
      ∃ metadata, (session.loadMetadata server index).2.catalog.cache.get? field = some metadata ∧
        metadata.active = false) ∧
    (field ∉ Cache.written (server.fieldCapabilities index "*" session.connection.server).1 →
      (session.loadMetadata server index).2.catalog.cache.get? field =
        session.catalog.cache.get? field) := by
  simp only [loadMetadata, Connection.perform]
  cases (server.fieldCapabilities index "*" session.connection.server).1 with
  | error refusal =>
      refine ⟨fun member => ?_, fun _ => rfl⟩
      cases member
  | ok response =>
      simp only [Cache.written, Cache.populate]
      cases (response.members?.bind fun members => members.get? "fields").bind Json.members? with
      | none =>
          exact ⟨fun member => ⟨_, Cache.get?_setDefaults_of_mem _ member, rfl⟩,
            fun absent => Cache.get?_setDefaults_of_not_mem _ absent⟩
      | some fields =>
          refine ⟨fun member => ?_, fun absent => ?_⟩
          · by_cases described : field ∈ Cache.describedNames fields
            · exact Cache.get?_storeAll_of_mem described
            · have isBuiltIn := (List.mem_append.mp member).resolve_right described
              exact ⟨_, (Cache.get?_storeAll_of_not_mem described).trans
                (Cache.get?_setDefaults_of_mem _ isBuiltIn), rfl⟩
          · rw [List.mem_append, not_or] at absent
            exact (Cache.get?_storeAll_of_not_mem absent.2).trans
              (Cache.get?_setDefaults_of_not_mem _ absent.1)

theorem absorb_eq (server : Server σ) (session : Session σ) (index : String)
    (documents : List Document) :
    session.absorb server index documents =
      let loaded :=
        if session.catalog.cache.missing (found documents) = [] then session
        else (session.loadMetadata server index).2
      (session.catalog.cache.missing (found documents),
        { loaded with catalog := (loaded.catalog.absorb documents).2 }) := by
  simp only [Session.absorb, List.isEmpty_iff]
  split
  · rfl
  · next missing =>
      -- The fields that are asked about are missing, so the request is not spared.
      obtain ⟨field, member⟩ := List.exists_mem_of_ne_nil _ missing
      obtain ⟨-, absent⟩ := Cache.mem_missing_iff.mp member
      have stillMissing : session.catalog.cache.missing
          (session.catalog.cache.missing (found documents)) ≠ [] :=
        List.ne_nil_of_mem (Cache.mem_missing_iff.mpr ⟨member, absent⟩)
      have asks : (some (session.catalog.cache.missing (found documents))).any
          (fun fields => (session.catalog.cache.missing fields).isEmpty) = false := by
        simpa using stillMissing
      simp only [refresh, asks]
      rfl

/-- Taking in documents is one call at most, and changes nothing but what is known about fields and
the selection. -/
theorem absorb_snd (server : Server σ) (session : Session σ) (index : String)
    (documents : List Document) :
    ∃ cache, (session.absorb server index documents).2 = { session with
      connection :=
        if session.catalog.cache.missing (found documents) = [] then session.connection
        else (session.connection.perform (server.metadata index)).2
      catalog := ⟨cache, (session.catalog.selection.update documents).2⟩ } := by
  have absorbed (catalog : Catalog) : (catalog.absorb documents).2 =
      ⟨(catalog.absorb documents).2.cache, (catalog.selection.update documents).2⟩ := by
    rw [← (catalog.absorb_eq documents).2]
  rw [absorb_eq]
  dsimp only
  split
  · rw [absorbed]
    exact ⟨_, rfl⟩
  · obtain ⟨cache, loaded⟩ := session.loadMetadata_snd server index
    rw [loaded, absorbed]
    exact ⟨_, rfl⟩

/-- A search does not compile, or its documents are not retrieved, or they are taken in. -/
theorem execute_cases (server : Server σ) (session : Session σ) (demand : Demand)
    (index : Option String) (patience : Patience) :
    (∃ fault, session.compile demand = .error fault ∧
      session.execute server demand index patience = (.error (.query fault), session)) ∨
    ∃ query, session.compile demand = .ok query ∧
      ((∃ error connection,
        session.connection.retrieve server session.config.search
            ⟨session.config.search.maxRetries.toNat, patience⟩ (chosen index session.index) query =
          (.error error, connection) ∧
        session.execute server demand index patience =
          (.error (.request error), { session with connection })) ∨
      ∃ retrieved connection,
        session.connection.retrieve server session.config.search
            ⟨session.config.search.maxRetries.toNat, patience⟩ (chosen index session.index) query =
          (.ok retrieved, connection) ∧
        session.execute server demand index patience =
          let (newFields, after) := { session with connection }.absorb server
            (chosen index session.index) retrieved.documents
          (.ok ⟨retrieved.documents, retrieved.total, query, retrieved.attempts, newFields⟩,
            after)) := by
  cases compiled : session.compile demand with
  | error fault => exact .inl ⟨fault, rfl, by simp only [execute, compiled]⟩
  | ok query =>
      refine .inr ⟨query, rfl, ?_⟩
      cases outcome : session.connection.retrieve server session.config.search
          ⟨session.config.search.maxRetries.toNat, patience⟩ (chosen index session.index) query with
      | mk result connection =>
          cases result with
          | error error =>
              exact .inl ⟨error, connection, rfl, by simp only [execute, compiled, outcome]⟩
          | ok retrieved =>
              exact .inr ⟨retrieved, connection, rfl, by simp only [execute, compiled, outcome]⟩

theorem execute_fst (server : Server σ) (session : Session σ) (demand : Demand)
    (index : Option String) (patience : Patience) :
    (session.execute server demand index patience).1 = do
      let query ← (session.compile demand).mapError .query
      let retrieved ← (session.connection.retrieve server session.config.search
        ⟨session.config.search.maxRetries.toNat, patience⟩ (chosen index session.index)
        query).1.mapError .request
      return ⟨retrieved.documents, retrieved.total, query, retrieved.attempts,
        session.catalog.cache.missing (found retrieved.documents)⟩ := by
  obtain ⟨fault, refused, stopped⟩ | ⟨query, compiled, ⟨error, connection, failed, stopped⟩ |
    ⟨retrieved, connection, succeeded, ended⟩⟩ :=
    execute_cases server session demand index patience
  · rw [stopped, refused]
    rfl
  · rw [stopped, compiled]
    simp only [mapError_ok, mapError_error, bind, Except.bind, failed]
  · rw [ended, compiled]
    simp only [mapError_ok, bind, Except.bind, succeeded, absorb_eq]
    rfl

/-- What the documents are not retrieved for is what the search fails with. -/
theorem exists_execute_of_retrieve {server : Server σ} {session : Session σ} {demand : Demand}
    {index : Option String} {patience : Patience} {query : Query} {error : RequestError}
    (compiled : session.compile demand = .ok query)
    (stopped : (session.connection.retrieve server session.config.search
      ⟨session.config.search.maxRetries.toNat, patience⟩ (chosen index session.index) query).1 =
        .error error) :
    ∃ after, session.execute server demand index patience = (.error (.request error), after) := by
  have failed : (session.execute server demand index patience).1 = .error (.request error) := by
    rw [execute_fst, compiled, mapError_ok, ok_bind, stopped]
    rfl
  exact ⟨_, Prod.ext failed rfl⟩

end Session

end FilterQuery
