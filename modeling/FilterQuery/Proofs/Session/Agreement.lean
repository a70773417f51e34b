import FilterQuery.Proofs.Session.Execution

/-!
# Searches and what servers say about fields

Two servers that answer searches and scrolls alike may say different things about fields: a search
ends in the same way on both. The two runs are held together by a relation between the states of the
servers, from a single call up to a search. Main statement: `Session.execute_agree`.
-/

set_option autoImplicit false

namespace FilterQuery

open Server Pacing FilterQuery.Field

variable {σ τ α : Type}

/-- Two operations have the same result and end in states that are related. -/
structure Agree (related : σ → τ → Prop) (first : α × σ) (second : α × τ) : Prop where
  result_eq : first.1 = second.1
  related : related first.2 second.2

theorem Agree.exists_eq {related : σ → τ → Prop} {first : α × σ} {second : α × τ} {result : α}
    {state : σ} (agree : Agree related first second) (ended : first = (result, state)) :
    ∃ other, second = (result, other) ∧ related state other := by
  subst ended
  obtain ⟨same, isRelated⟩ := agree
  exact ⟨second.2, Prod.ext same.symm rfl, isRelated⟩

/-- In states that are alike, two servers give the same answers to searches and scrolls, and they
come to states that are alike. Their answers to other calls may differ in any way. -/
structure Server.AgreesOnSearches (first : Server σ) (second : Server τ) (alike : σ → τ → Prop) :
    Prop where
  search : ∀ index query {state other}, alike state other →
    Agree alike (first.search index query state) (second.search index query other)
  openScroll : ∀ index query keepAlive {state other}, alike state other →
    Agree alike (first.openScroll index query keepAlive state)
      (second.openScroll index query keepAlive other)
  scroll : ∀ id keepAlive {state other}, alike state other →
    Agree alike (first.scroll id keepAlive state) (second.scroll id keepAlive other)
  clearScroll : ∀ id {state other}, alike state other →
    Agree alike (first.clearScroll id state) (second.clearScroll id other)

variable {alike : σ → τ → Prop} {first : Server σ} {second : Server τ}

/-- Two inquiries by the same call, which is answered alike in states that are alike. -/
structure Inquiry.AgreesWith (alike : σ → τ → Prop) (inquiry : Inquiry σ α) (other : Inquiry τ α) :
    Prop where
  call_eq : inquiry.call = other.call
  send : ∀ {state counterpart}, alike state counterpart →
    Agree alike (inquiry.send state) (other.send counterpart)

namespace Connection

/-- Two connections with the same past and the same pace, to servers in states that are alike. -/
structure Matches (alike : σ → τ → Prop) (connection : Connection σ) (twin : Connection τ) :
    Prop where
  pacer : connection.pacer = twin.pacer
  clock : connection.clock = twin.clock
  log : connection.log = twin.log
  server : alike connection.server twin.server

variable {connection : Connection σ} {twin : Connection τ}

theorem agree_await (start : connection.Matches alike twin) (patience : Patience) :
    Agree (Matches alike) (connection.await patience) (twin.await patience) := by
  obtain ⟨pacer, clock, log, server⟩ := start
  simp only [await, pacer, clock, log]
  exact ⟨rfl, ⟨rfl, rfl, rfl, server⟩⟩

theorem agree_perform {inquiry : Inquiry σ α} {other : Inquiry τ α}
    (agrees : inquiry.AgreesWith alike other) (start : connection.Matches alike twin) :
    Agree (Matches alike) (connection.perform inquiry) (twin.perform other) := by
  obtain ⟨call, sends⟩ := agrees
  obtain ⟨answer, after⟩ := sends start.server
  refine ⟨answer, ⟨start.pacer, start.clock, ?_, after⟩⟩
  simp only [perform, start.log, call]

theorem agree_requestFrom {inquiry : Inquiry σ (Except Fault α)}
    {other : Inquiry τ (Except Fault α)} (agrees : inquiry.AgreesWith alike other)
    (patience : Patience) (left attempt : Nat) (last : Option String)
    (start : connection.Matches alike twin) :
    Agree (Matches alike) (connection.requestFrom patience inquiry left attempt last)
      (twin.requestFrom patience other left attempt last) := by
  induction left generalizing attempt last connection twin with
  | zero => exact ⟨rfl, start⟩
  | succ left ih =>
      simp only [requestFrom]
      cases waited : connection.await patience with
      | mk failure ready =>
          obtain ⟨twinReady, twinWaited, matched⟩ := (agree_await start patience).exists_eq waited
          rw [twinWaited]
          cases failure with
          | some error => exact ⟨rfl, matched⟩
          | none =>
              dsimp only
              cases performed : ready.perform inquiry with
              | mk answer answered =>
                  obtain ⟨twinAnswered, twinPerformed, matched⟩ :=
                    (agree_perform agrees matched).exists_eq performed
                  rw [twinPerformed]
                  obtain ⟨pacer, clock, log, server⟩ := matched
                  match answer with
                  | .ok found =>
                      refine ⟨rfl, ⟨?_, clock, log, server⟩⟩
                      simp only [recover, pacer]
                  | .error (.refused (.throttled message)) =>
                      refine ih (attempt + 1) (some message) ⟨?_, clock, log, server⟩
                      simp only [slowDown, pacer]
                  | .error (.refused (.failed message)) =>
                      exact ⟨rfl, ⟨pacer, clock, log, server⟩⟩
                  | .error (.malformed malformed) =>
                      exact ⟨rfl, ⟨pacer, clock, log, server⟩⟩

theorem agree_request {inquiry : Inquiry σ (Except Fault α)} {other : Inquiry τ (Except Fault α)}
    (agrees : inquiry.AgreesWith alike other) (terms : Terms)
    (start : connection.Matches alike twin) :
    Agree (Matches alike) (connection.request terms inquiry) (twin.request terms other) :=
  agree_requestFrom agrees terms.patience terms.attempts 1 none start

variable (agrees : first.AgreesOnSearches second alike)
include agrees

theorem agree_collect (terms : Terms) (keepAlive : String) (limit : Nat) (collection : Collection)
    (start : connection.Matches alike twin) :
    Agree (Agree (Matches alike)) (connection.collect first terms keepAlive limit collection)
      (twin.collect second terms keepAlive limit collection) := by
  have batches (id : ScrollId) :
      Inquiry.AgreesWith alike ⟨.scroll id keepAlive, first.scroll id keepAlive⟩
        ⟨.scroll id keepAlive, second.scroll id keepAlive⟩ :=
    ⟨rfl, agrees.scroll id keepAlive⟩
  induction collection, connection using
      Connection.collect.induct first terms keepAlive limit generalizing twin with
  | case1 collection connection wants error stopped requested =>
      obtain ⟨twinStopped, twinRequested, matched⟩ :=
        (agree_request (batches collection.id) terms start).exists_eq requested
      rw [collect, collect, if_pos wants, if_pos wants, requested, twinRequested]
      exact ⟨rfl, ⟨rfl, matched⟩⟩
  | case2 collection connection wants batch id attempts answered requested empty =>
      obtain ⟨twinAnswered, twinRequested, matched⟩ :=
        (agree_request (batches collection.id) terms start).exists_eq requested
      rw [collect, collect, if_pos wants, if_pos wants, requested, twinRequested]
      simp only [empty, ↓reduceIte]
      exact ⟨rfl, ⟨rfl, matched⟩⟩
  | case3 collection connection wants batch id attempts answered requested next filled =>
      rename_i ih
      obtain ⟨twinAnswered, twinRequested, matched⟩ :=
        (agree_request (batches collection.id) terms start).exists_eq requested
      rw [collect, collect, if_pos wants, if_pos wants, requested, twinRequested]
      simp only [filled]
      exact ih matched
  | case4 collection connection enough =>
      rw [collect, collect, if_neg enough, if_neg enough]
      exact ⟨rfl, ⟨rfl, start⟩⟩

theorem Matches.release (start : connection.Matches alike twin) (id : ScrollId) :
    (connection.release first id).Matches alike (twin.release second id) := by
  have clears : Inquiry.AgreesWith alike ⟨.clearScroll id, first.clearScroll id⟩
      ⟨.clearScroll id, second.clearScroll id⟩ :=
    ⟨rfl, agrees.clearScroll id⟩
  simp only [Connection.release]
  split
  · exact (agree_perform clears start).related
  · exact start

theorem agree_retrieveBatches (settings : SearchSettings) (terms : Terms) (index : String)
    (query : Query) (start : connection.Matches alike twin) :
    Agree (Matches alike) (connection.retrieveBatches first settings terms index query)
      (twin.retrieveBatches second settings terms index query) := by
  let batch := { query with size := settings.scrollBatchSize }
  let keepAlive := settings.scrollTimeout
  have opens : Inquiry.AgreesWith alike
      ⟨.openScroll index batch keepAlive, first.openScroll index batch keepAlive⟩
      ⟨.openScroll index batch keepAlive, second.openScroll index batch keepAlive⟩ :=
    ⟨rfl, agrees.openScroll index batch keepAlive⟩
  simp only [retrieveBatches]
  cases requested : connection.request terms
      ⟨.openScroll index batch keepAlive, first.openScroll index batch keepAlive⟩ with
  | mk result opened =>
      obtain ⟨twinOpened, twinRequested, matched⟩ :=
        (agree_request opens terms start).exists_eq requested
      rw [twinRequested]
      match result with
      | .error error => exact ⟨rfl, matched⟩
      | .ok ((page, id), attempts) =>
          dsimp only
          cases collected : opened.collect first terms keepAlive query.size.toNat
              ⟨page.documents, id, attempts⟩ with
          | mk failure rest =>
              obtain ⟨twinRest, twinCollected, agree⟩ :=
                (agree_collect agrees terms keepAlive _ _ matched).exists_eq collected
              obtain ⟨collection, ended⟩ := rest
              obtain ⟨twinEnded, rfl, matched⟩ := agree.exists_eq rfl
              rw [twinCollected]
              cases failure with
              | some error => exact ⟨rfl, matched.release agrees collection.id⟩
              | none => exact ⟨rfl, matched.release agrees collection.id⟩

theorem agree_retrieve (settings : SearchSettings) (terms : Terms) (index : String)
    (query : Query) (start : connection.Matches alike twin) :
    Agree (Matches alike) (connection.retrieve first settings terms index query)
      (twin.retrieve second settings terms index query) := by
  simp only [retrieve]
  split
  · exact agree_retrieveBatches agrees settings terms index query start
  · have searches : Inquiry.AgreesWith alike ⟨.search index query, first.search index query⟩
        ⟨.search index query, second.search index query⟩ :=
      ⟨rfl, agrees.search index query⟩
    cases requested : connection.request terms
        ⟨.search index query, first.search index query⟩ with
    | mk result answered =>
        obtain ⟨twinAnswered, twinRequested, matched⟩ :=
          (agree_request searches terms start).exists_eq requested
        rw [twinRequested]
        match result with
        | .error error => exact ⟨rfl, matched⟩
        | .ok (page, attempts) => exact ⟨rfl, matched⟩

end Connection

namespace Session

/-- Two sessions in the same state, with servers in states that are alike. -/
structure Matches (alike : σ → τ → Prop) (session : Session σ) (twin : Session τ) : Prop where
  config : session.config = twin.config
  index : session.index = twin.index
  catalog : session.catalog = twin.catalog
  connection : session.connection.Matches alike twin.connection

/-- Two sessions that differ in nothing but what they know about fields, and in their servers. -/
structure MatchesUpToMetadata (session : Session σ) (twin : Session τ) : Prop where
  config : session.config = twin.config
  index : session.index = twin.index
  selection : session.catalog.selection = twin.catalog.selection
  pacer : session.connection.pacer = twin.connection.pacer
  clock : session.connection.clock = twin.connection.clock
  log : session.connection.log = twin.connection.log

variable {session : Session σ} {twin : Session τ}

theorem Matches.upToMetadata (start : session.Matches alike twin) :
    session.MatchesUpToMetadata twin where
  config := start.config
  index := start.index
  selection := congrArg Catalog.selection start.catalog
  pacer := start.connection.pacer
  clock := start.connection.clock
  log := start.connection.log

/-- Documents are taken in alike. What the servers say about fields goes into the caches, and is not
looked at any more. -/
theorem agree_absorb (first : Server σ) (second : Server τ) (start : session.Matches alike twin)
    (index : String) (documents : List Document) :
    Agree MatchesUpToMetadata (session.absorb first index documents)
      (twin.absorb second index documents) := by
  obtain ⟨config, sameIndex, catalog, pacer, clock, log, -⟩ := start
  obtain ⟨cache, absorbed⟩ := session.absorb_snd first index documents
  obtain ⟨twinCache, twinAbsorbed⟩ := twin.absorb_snd second index documents
  refine ⟨?_, ?_⟩
  · rw [absorb_eq, absorb_eq, catalog]
  · rw [absorbed, twinAbsorbed, catalog]
    split
    · exact ⟨config, sameIndex, rfl, pacer, clock, log⟩
    · refine ⟨config, sameIndex, rfl, pacer, clock, ?_⟩
      simp only [Connection.perform, Server.metadata, log]

/-- A search has the same outcome, and leaves the same session but for its cache, with any two
servers that answer searches and scrolls alike. -/
theorem execute_agree (agrees : first.AgreesOnSearches second alike)
    (start : session.Matches alike twin) (demand : Demand) (index : Option String)
    (patience : Patience) :
    Agree MatchesUpToMetadata (session.execute first demand index patience)
      (twin.execute second demand index patience) := by
  obtain ⟨twinConfig, twinIndex, twinCatalog, twinConnection⟩ := twin
  obtain ⟨rfl, rfl, rfl, matched⟩ := start
  have reached {ended : Connection σ} {twinEnded : Connection τ}
      (matched : ended.Matches alike twinEnded) : Matches alike { session with connection := ended }
        ⟨session.config, session.index, session.catalog, twinEnded⟩ :=
    ⟨rfl, rfl, rfl, matched⟩
  have compiles : compile ⟨session.config, session.index, session.catalog, twinConnection⟩ demand =
      session.compile demand := rfl
  simp only [execute, compiles]
  cases session.compile demand with
  | error fault => exact ⟨rfl, (reached matched).upToMetadata⟩
  | ok query =>
      dsimp only
      cases retrieved : session.connection.retrieve first session.config.search
          ⟨session.config.search.maxRetries.toNat, patience⟩ (chosen index session.index) query with
      | mk result ended =>
          obtain ⟨twinEnded, twinRetrieved, matched⟩ :=
            (Connection.agree_retrieve agrees _ _ _ _ matched).exists_eq retrieved
          rw [twinRetrieved]
          cases result with
          | error error => exact ⟨rfl, (reached matched).upToMetadata⟩
          | ok found =>
              obtain ⟨newFields, absorbed⟩ := agree_absorb first second (reached matched)
                (chosen index session.index) found.documents
              dsimp only
              rw [newFields]
              exact ⟨rfl, absorbed⟩

/-- A server with one document, whose state is what it says about fields. -/
def outspoken : Server (Except Refusal Json) where
  search _ _ answer := (.ok ⟨[[("a", .int 1)]], 1⟩, answer)
  openScroll _ _ _ answer := (.ok (⟨[], 0⟩, .null), answer)
  scroll id _ answer := (.ok ([], id), answer)
  clearScroll _ answer := (.ok (), answer)
  fieldCapabilities _ _ answer := (answer, answer)
  indices _ answer := (.ok [], answer)

theorem agreesOnSearches_outspoken :
    outspoken.AgreesOnSearches outspoken (fun _ _ => True) where
  search _ _ _ _ _ := ⟨rfl, trivial⟩
  openScroll _ _ _ _ _ _ := ⟨rfl, trivial⟩
  scroll _ _ _ _ _ := ⟨rfl, trivial⟩
  clearScroll _ _ _ _ := ⟨rfl, trivial⟩

def visitor (answer : Except Refusal Json) : Session (Except Refusal Json) :=
  ⟨.standard, "*", .empty, .start Config.standard.pacing answer⟩

/-- Whether the server refuses to speak about fields or says what they are makes a difference to the
cache alone. -/
theorem execute_agree_outspoken :
    let refused := visitor (.error (.throttled "429"))
    let informed := visitor (.ok (.obj [("fields", .obj [("a", .obj [("long", .obj [])])])]))
    let demand : Demand := ⟨[], none, some "", ⟨0, 0⟩⟩
    outspoken.AgreesOnSearches outspoken (fun _ _ => True) ∧
      refused.Matches (fun _ _ => True) informed ∧
      Agree MatchesUpToMetadata (refused.execute outspoken demand none .unlimited)
        (informed.execute outspoken demand none .unlimited) ∧
      (refused.execute outspoken demand none .unlimited).1.toOption.map SearchResult.newFields =
        some ["a"] ∧
      (refused.execute outspoken demand none .unlimited).2.catalog.cache.get? "a" = none ∧
      (informed.execute outspoken demand none .unlimited).2.catalog.cache.get? "a" =
        some ⟨.str "long", true, false, true⟩ := by
  intro refused informed demand
  have agrees : outspoken.AgreesOnSearches outspoken (fun _ _ => True) :=
    agreesOnSearches_outspoken
  have start : refused.Matches (fun _ _ => True) informed :=
    ⟨rfl, rfl, rfl, rfl, rfl, rfl, trivial⟩
  exact ⟨agrees, start, execute_agree agrees start demand none .unlimited, by decide +kernel,
    Option.isNone_iff_eq_none.mp (by decide +kernel),
    Cache.get?_eq_some_of_parts (by decide +kernel)⟩

end Session

end FilterQuery
