import FilterQuery.Proofs.Outcome
import FilterQuery.Proofs.Session.Exchange
import FilterQuery.Proofs.Session.Execution
import FilterQuery.Server.Wire

/-!
# Scrolls are released

A scroll that is opened for a search is cleared once, under the name that the server gave it last,
whatever ends the search. Main statement: `Session.execute_releases`.
-/

set_option autoImplicit false

namespace FilterQuery

open Server Pacing FilterQuery.Field

variable {σ : Type}

namespace Server

def Call.opens : Call Query → Bool
  | .openScroll .. => true
  | .search .. | .scroll .. | .clearScroll _ | .fieldCapabilities .. | .indices _ => false

/-- A call asks for the next batch of an open scroll. -/
def Call.continues : Call Query → Bool
  | .scroll id _ => id.isTrue
  | .search .. | .openScroll .. | .clearScroll _ | .fieldCapabilities .. | .indices _ => false

def Call.describes : Call Query → Bool
  | .fieldCapabilities .. => true
  | .search .. | .openScroll .. | .scroll .. | .clearScroll _ | .indices _ => false

section Kinds

variable {call : Call Query}

theorem isPaced_of_opens (opens : call.opens = true) : call.isPaced = true := by
  cases call with
  | openScroll => rfl
  | _ => cases opens

theorem isPaced_of_continues (continues : call.continues = true) : call.isPaced = true := by
  cases call with
  | scroll => rfl
  | _ => cases continues

theorem opens_of_continues (continues : call.continues = true) : call.opens = false := by
  cases call with
  | scroll => rfl
  | _ => cases continues

theorem opens_of_describes (describes : call.describes = true) : call.opens = false := by
  cases call with
  | fieldCapabilities => rfl
  | _ => cases describes

end Kinds

/-- A scroll is opened among some calls. -/
def Opens (server : Server σ) (state : σ) (calls : List (Call Query)) : Prop :=
  ∃ exchange ∈ server.exchanges state calls, exchange.call.opens = true ∧
    ∃ id, server.named? exchange = some id ∧ id.isTrue = true

/-- If a scroll is opened among some calls, one of them clears it: the one that was named last, after
all searches and scrolls and before metadata is asked for. Otherwise none clears a scroll. -/
structure Releases (server : Server σ) (state : σ) (calls : List (Call Query)) : Prop where
  once : server.Opens state calls → ∃ before id after, calls = before ++ .clearScroll id :: after ∧
    (server.named state before).getLast? = some id ∧
    (∀ call ∈ before, call.isPaced = true) ∧ ∀ call ∈ after, call.describes = true
  never : ¬server.Opens state calls → ∀ id, .clearScroll id ∉ calls

/-- A batch of a scroll always comes with the scroll for the next one. -/
def KeepsScrolls (server : Server σ) : Prop :=
  ∀ id keepAlive state batch next, id.isTrue = true →
    (server.scroll id keepAlive state).1 = .ok (batch, next) → next.isTrue = true

/-- A server behind a wire keeps scrolls: an answer that names no scroll means the same one. -/
theorem Wire.keepsScrolls_server (wire : Wire σ) : wire.server.KeepsScrolls := by
  intro id keepAlive state batch next held answered
  change (wire.scroll id keepAlive state).1 = .ok (batch, next) at answered
  simp only [Wire.scroll, Wire.fetch] at answered
  split at answered
  · cases answered
  · next answer _ _ =>
      obtain ⟨documents, _, rest⟩ := bind_eq_ok_iff.mp (mapError_eq_ok_iff.mp answered)
      obtain ⟨named, _, returned⟩ := bind_eq_ok_iff.mp rest
      cases returned
      split
      · next isTrue => exact isTrue
      · exact held

variable {server : Server σ} {state : σ} {calls more : List (Call Query)}

theorem opens_append_iff (other : ∀ call ∈ more, call.opens = false) :
    server.Opens state (calls ++ more) ↔ server.Opens state calls := by
  constructor
  · rintro ⟨exchange, member, opening, named⟩
    rw [exchanges_append] at member
    rcases List.mem_append.mp member with member | member
    · exact ⟨exchange, member, opening, named⟩
    · rw [other _ (server.call_mem_of_exchange_mem _ member)] at opening
      cases opening
  · rintro ⟨exchange, member, opening, named⟩
    refine ⟨exchange, ?_, opening, named⟩
    rw [exchanges_append]
    exact List.mem_append_left _ member

theorem opens_iff_of_opening (opening : ∀ call ∈ calls, call.opens = true) :
    server.Opens state calls ↔ ∃ id ∈ server.named state calls, id.isTrue = true := by
  constructor
  · rintro ⟨exchange, member, -, id, named, isTrue⟩
    exact ⟨id, List.mem_filterMap.mpr ⟨exchange, member, named⟩, isTrue⟩
  · rintro ⟨id, member, isTrue⟩
    obtain ⟨exchange, member, named⟩ := List.mem_filterMap.mp member
    exact ⟨exchange, member, opening _ (server.call_mem_of_exchange_mem _ member), id, named,
      isTrue⟩

theorem not_opens (other : ∀ call ∈ calls, call.opens = false) : ¬server.Opens state calls := by
  rintro ⟨exchange, member, opening, -⟩
  rw [other _ (server.call_mem_of_exchange_mem _ member)] at opening
  cases opening

theorem releases_of_not_opens (closed : ¬server.Opens state calls)
    (paced : ∀ call ∈ calls, call.isPaced = true) : server.Releases state calls where
  once opens := absurd opens closed
  never _ id member := by
    have impossible := paced _ member
    cases impossible

theorem Releases.append (releases : server.Releases state calls)
    (metadata : ∀ call ∈ more, call.describes = true) :
    server.Releases state (calls ++ more) := by
  have opens : server.Opens state (calls ++ more) ↔ server.Opens state calls :=
    opens_append_iff fun call member => opens_of_describes (metadata call member)
  constructor
  · intro opened
    obtain ⟨before, id, after, rfl, named, paced, described⟩ := releases.once (opens.mp opened)
    refine ⟨before, id, after ++ more, by simp, named, paced, fun call member => ?_⟩
    rcases List.mem_append.mp member with member | member
    · exact described call member
    · exact metadata call member
  · intro closed id member
    rcases List.mem_append.mp member with member | member
    · exact releases.never (fun opened => closed (opens.mpr opened)) id member
    · have impossible := metadata _ member
      cases impossible

theorem isTrue_of_named (keeps : server.KeepsScrolls)
    (continuing : ∀ call ∈ calls, call.continues = true) :
    ∀ id ∈ server.named state calls, id.isTrue = true := by
  intro next member
  obtain ⟨⟨call, met⟩, member, named⟩ := List.mem_filterMap.mp member
  have continues := continuing call (server.call_mem_of_exchange_mem _ member)
  cases call with
  | scroll id keepAlive =>
      obtain ⟨⟨batch, given⟩, answered, rfl⟩ := Option.map_eq_some_iff.mp named
      exact keeps id keepAlive met batch given continues (toOption_eq_some_iff.mp answered)
  | _ => cases continues

theorem releases_scroll (keeps : server.KeepsScrolls) {opens scrolls : List (Call Query)}
    {id last : ScrollId} (opening : ∀ call ∈ opens, call.opens = true)
    (opened : server.named state opens = [id])
    (continuing : ∀ call ∈ scrolls, call.continues = true)
    (held : scrolls = [] ∨ id.isTrue = true)
    (named : last = (server.named (server.afterAll state opens) scrolls).getLast?.getD id) :
    server.Releases state (opens ++ scrolls ++ if last.isTrue then [.clearScroll last] else []) := by
  have paced : ∀ call ∈ opens ++ scrolls, call.isPaced = true := by
    intro call member
    rcases List.mem_append.mp member with member | member
    · exact isPaced_of_opens (opening call member)
    · exact isPaced_of_continues (continuing call member)
  have opens_iff : server.Opens state (opens ++ scrolls) ↔ id.isTrue = true := by
    rw [opens_append_iff fun call member => opens_of_continues (continuing call member),
      opens_iff_of_opening opening, opened]
    simp
  -- Either every name from the first one on counts as true, or no batch is asked for.
  by_cases isTrue : id.isTrue = true
  · have lastIsTrue : last.isTrue = true := by
      rw [named]
      cases found : (server.named (server.afterAll state opens) scrolls).getLast? with
      | none => exact isTrue
      | some id => exact isTrue_of_named keeps continuing id (List.mem_of_getLast? found)
    have isOpened : server.Opens state (opens ++ scrolls ++ [.clearScroll last]) := by
      rw [opens_append_iff (by simp [Call.opens])]
      exact opens_iff.mpr isTrue
    rw [if_pos lastIsTrue]
    refine ⟨fun _ => ⟨opens ++ scrolls, last, [], rfl, ?_, paced, ?_⟩, fun closed => ?_⟩
    · rw [named_append, opened, List.singleton_append, List.getLast?_cons, named]
    · exact fun _ member => absurd member List.not_mem_nil
    · exact absurd isOpened closed
  · obtain rfl := held.resolve_right isTrue
    have same : last = id := named
    rw [same, if_neg isTrue, List.append_nil, List.append_nil]
    rw [List.append_nil] at opens_iff paced
    exact releases_of_not_opens (mt opens_iff.mp isTrue) paced

end Server

namespace Connection

variable {server : Server σ} {connection : Connection σ}

theorem names_scroll (server : Server σ) (id : ScrollId) (keepAlive : String) :
    Inquiry.Names server ⟨.scroll id keepAlive, server.scroll id keepAlive⟩
      fun answer => some answer.2 := by
  refine ⟨fun _ => rfl, fun state => ?_⟩
  simp only [named?]
  cases (server.scroll id keepAlive state).1 <;> rfl

theorem names_openScroll (server : Server σ) (index : String) (query : Query)
    (keepAlive : String) :
    Inquiry.Names server
      ⟨.openScroll index query keepAlive, server.openScroll index query keepAlive⟩
      fun answer => some answer.2 := by
  refine ⟨fun _ => rfl, fun state => ?_⟩
  simp only [named?]
  cases (server.openScroll index query keepAlive state).1 <;> rfl

theorem names_search (server : Server σ) (index : String) (query : Query) :
    Inquiry.Names server ⟨.search index query, server.search index query⟩ fun _ => none := by
  refine ⟨fun _ => rfl, fun state => ?_⟩
  simp only [named?]
  cases (server.search index query state).1 <;> rfl

theorem requestBatch_makes {terms : Terms} {keepAlive : String} {id : ScrollId}
    {result : Except RequestError ((List Document × ScrollId) × Nat)} {answered : Connection σ}
    (isTrue : id.isTrue = true)
    (requested : connection.request terms
      ⟨.scroll id keepAlive, server.scroll id keepAlive⟩ = (result, answered)) :
    ∃ calls, connection.Makes server calls answered ∧ (∀ call ∈ calls, call.continues = true) ∧
      server.named connection.server calls = (result.toOption.map (·.1.2)).toList := by
  obtain ⟨count, -, made, named⟩ := request_makes (names_scroll server id keepAlive) requested
  refine ⟨_, made, fun call member => ?_, ?_⟩
  · rw [List.eq_of_mem_replicate member]
    exact isTrue
  · rw [named]
    cases result <;> rfl

/-- Collecting asks for batches alone, and the scroll that it holds at the end is the one that was
named last. -/
theorem collect_makes (server : Server σ) (terms : Terms) (keepAlive : String) (limit : Nat)
    (collection : Collection) (connection : Connection σ) :
    ∃ calls, connection.Makes server calls
        (connection.collect server terms keepAlive limit collection).2.2 ∧
      (∀ call ∈ calls, call.continues = true) ∧
      (calls = [] ∨ collection.id.isTrue = true) ∧
      (connection.collect server terms keepAlive limit collection).2.1.id =
        (server.named connection.server calls).getLast?.getD collection.id := by
  have holds {collection : Collection} (wants : wantsMore limit collection = true) :
      collection.id.isTrue = true := (Bool.and_eq_true_iff.mp wants).1
  induction collection, connection using
      Connection.collect.induct server terms keepAlive limit with
  | case1 collection connection wants error stopped requested =>
      obtain ⟨calls, made, continuing, named⟩ := requestBatch_makes (holds wants) requested
      rw [collect, if_pos wants, requested]
      exact ⟨calls, made, continuing, .inr (holds wants), by rw [named]; rfl⟩
  | case2 collection connection wants batch id attempts answered requested empty =>
      obtain ⟨calls, made, continuing, named⟩ := requestBatch_makes (holds wants) requested
      rw [collect, if_pos wants, requested]
      simp only [empty, ↓reduceIte]
      exact ⟨calls, made, continuing, .inr (holds wants), by rw [named]; rfl⟩
  | case3 collection connection wants batch id attempts answered requested next filled ih =>
      obtain ⟨calls, made, continuing, named⟩ := requestBatch_makes (holds wants) requested
      obtain ⟨more, later, continuingLater, -, last⟩ := ih
      rw [collect, if_pos wants, requested]
      simp only [filled]
      refine ⟨calls ++ more, made.trans later, ?_, .inr (holds wants), ?_⟩
      · intro call member
        rcases List.mem_append.mp member with member | member
        · exact continuing call member
        · exact continuingLater call member
      · have namedOnce : server.named connection.server calls = [id] := named
        rw [named_append, namedOnce, ← made.reached, List.singleton_append, List.getLast?_cons]
        exact last
  | case4 collection connection enough =>
      rw [collect, if_neg enough]
      exact ⟨[], .refl, fun _ member => absurd member List.not_mem_nil, .inl rfl, rfl⟩

theorem makes_release (server : Server σ) (id : ScrollId) (connection : Connection σ) :
    connection.Makes server (if id.isTrue then [.clearScroll id] else [])
      (connection.release server id) := by
  simp only [release]
  split
  · exact makes_perform ⟨.clearScroll id, server.clearScroll id⟩ fun _ => rfl
  · exact .refl

/-- What is collected is released, on whatever path the collecting ends. -/
theorem retrieveBatches_eq (server : Server σ) (settings : SearchSettings) (terms : Terms)
    (index : String) (query : Query) {page : Page} {id : ScrollId} {attempts : Nat}
    {opened : Connection σ}
    (requested : connection.request terms
      ⟨.openScroll index { query with size := settings.scrollBatchSize } settings.scrollTimeout,
        server.openScroll index { query with size := settings.scrollBatchSize }
          settings.scrollTimeout⟩ = (.ok ((page, id), attempts), opened)) :
    connection.retrieveBatches server settings terms index query =
      let collected := opened.collect server terms settings.scrollTimeout query.size.toNat
        ⟨page.documents, id, attempts⟩
      (match collected.1 with
        | some error => .error error
        | none => .ok ⟨collected.2.1.documents.take query.size.toNat, page.total,
            collected.2.1.attempts⟩,
        collected.2.2.release server collected.2.1.id) := by
  simp only [retrieveBatches, requested]
  split
  · next collected => simp only [collected]
  · next collected => simp only [collected]

theorem retrieveBatches_makes (keeps : server.KeepsScrolls) (settings : SearchSettings)
    (terms : Terms) (index : String) (query : Query) (connection : Connection σ) :
    ∃ calls, connection.Makes server calls
        (connection.retrieveBatches server settings terms index query).2 ∧
      server.Releases connection.server calls := by
  let batch := { query with size := settings.scrollBatchSize }
  let keepAlive := settings.scrollTimeout
  cases requested : connection.request terms
      ⟨.openScroll index batch keepAlive, server.openScroll index batch keepAlive⟩ with
  | mk result opened =>
      obtain ⟨count, -, made, named⟩ :=
        request_makes (names_openScroll server index batch keepAlive) requested
      have opening : ∀ call ∈ List.replicate count (Call.openScroll index batch keepAlive),
          call.opens = true := by
        intro call member
        rw [List.eq_of_mem_replicate member]
        rfl
      match result with
      | .error error =>
          have closed : ¬server.Opens connection.server
              (List.replicate count (Call.openScroll index batch keepAlive)) := by
            rw [opens_iff_of_opening opening, named]
            rintro ⟨id, member, -⟩
            cases member
          have paced : ∀ call ∈ List.replicate count (Call.openScroll index batch keepAlive),
              call.isPaced = true := fun call member => isPaced_of_opens (opening call member)
          have stopped : (connection.retrieveBatches server settings terms index query).2 =
              opened := by
            simp only [retrieveBatches, batch, keepAlive] at requested ⊢
            rw [requested]
          rw [stopped]
          exact ⟨_, made, releases_of_not_opens closed paced⟩
      | .ok ((page, id), attempts) =>
          rw [retrieveBatches_eq server settings terms index query requested]
          obtain ⟨scrolls, collecting, continuing, held, last⟩ := collect_makes server terms
            keepAlive query.size.toNat ⟨page.documents, id, attempts⟩ opened
          rw [made.reached] at last
          exact ⟨_, (made.trans collecting).trans (makes_release server _ _),
            releases_scroll keeps opening named continuing held last⟩

theorem retrieve_makes (keeps : server.KeepsScrolls) (settings : SearchSettings) (terms : Terms)
    (index : String) (query : Query) (connection : Connection σ) :
    ∃ calls, connection.Makes server calls
        (connection.retrieve server settings terms index query).2 ∧
      server.Releases connection.server calls := by
  rw [retrieve]
  split
  · exact retrieveBatches_makes keeps settings terms index query connection
  · cases requested : connection.request terms
        ⟨.search index query, server.search index query⟩ with
    | mk result answered =>
        obtain ⟨count, -, made, -⟩ := request_makes (names_search server index query) requested
        refine ⟨List.replicate count (.search index query), ?_,
          releases_of_not_opens (not_opens ?_) ?_⟩
        · cases result with
          | error error => exact made
          | ok answer => exact made
        · intro call member
          rw [List.eq_of_mem_replicate member]
          rfl
        · intro call member
          rw [List.eq_of_mem_replicate member]
          rfl

section Clearing

variable (clearScroll : ScrollId → σ → Except Refusal Unit × σ)

theorem collect_clearScroll (terms : Terms) (keepAlive : String) (limit : Nat)
    (collection : Collection) (connection : Connection σ) :
    connection.collect { server with clearScroll } terms keepAlive limit collection =
      connection.collect server terms keepAlive limit collection := by
  induction collection, connection using
      Connection.collect.induct server terms keepAlive limit with
  | case1 collection connection wants error stopped requested =>
      rw [collect, collect, if_pos wants, if_pos wants, requested]
  | case2 collection connection wants batch id attempts answered requested empty =>
      rw [collect, collect, if_pos wants, if_pos wants, requested]
      simp only [empty, ↓reduceIte]
  | case3 collection connection wants batch id attempts answered requested next filled ih =>
      rw [collect, collect, if_pos wants, if_pos wants, requested]
      simp only [filled]
      exact ih
  | case4 collection connection enough =>
      rw [collect, collect, if_neg enough, if_neg enough]

theorem retrieve_clearScroll (settings : SearchSettings) (terms : Terms) (index : String)
    (query : Query) (connection : Connection σ) :
    (connection.retrieve { server with clearScroll } settings terms index query).1 =
      (connection.retrieve server settings terms index query).1 := by
  simp only [retrieve, retrieveBatches, collect_clearScroll]
  split
  · split
    · rfl
    · split <;> rfl
  · split <;> rfl

end Clearing

end Connection

namespace Session

variable {server : Server σ} {session : Session σ}

theorem absorb_makes (server : Server σ) (session : Session σ) (index : String)
    (documents : List Document) :
    ∃ calls, session.connection.Makes server calls
        (session.absorb server index documents).2.connection ∧
      ∀ call ∈ calls, call.describes = true := by
  obtain ⟨cache, absorbed⟩ := session.absorb_snd server index documents
  rw [absorbed]
  dsimp only
  split
  · exact ⟨[], .refl, fun _ member => absurd member List.not_mem_nil⟩
  · exact ⟨[.fieldCapabilities index "*"],
      Connection.makes_perform (server.metadata index) fun _ => rfl,
      List.forall_mem_singleton.mpr rfl⟩

/-- A search that opens a scroll clears it once, and how the server answers that does not matter. -/
theorem execute_releases (keeps : server.KeepsScrolls) (session : Session σ) (demand : Demand)
    (index : Option String) (patience : Patience) :
    (∃ calls, session.connection.Makes server calls
        (session.execute server demand index patience).2.connection ∧
      server.Releases session.connection.server calls) ∧
    ∀ clearScroll, (session.execute { server with clearScroll } demand index patience).1 =
      (session.execute server demand index patience).1 := by
  constructor
  · obtain ⟨fault, -, stopped⟩ | ⟨query, -, ⟨error, connection, retrieved, stopped⟩ |
      ⟨found, connection, retrieved, ended⟩⟩ :=
      execute_cases server session demand index patience
    · rw [stopped]
      exact ⟨[], .refl, releases_of_not_opens (not_opens fun _ member =>
        absurd member List.not_mem_nil) fun _ member => absurd member List.not_mem_nil⟩
    · rw [stopped]
      obtain ⟨calls, made, releases⟩ := Connection.retrieve_makes keeps session.config.search
        ⟨session.config.search.maxRetries.toNat, patience⟩ (chosen index session.index) query
        session.connection
      rw [retrieved] at made
      exact ⟨calls, made, releases⟩
    · rw [ended]
      obtain ⟨calls, made, releases⟩ := Connection.retrieve_makes keeps session.config.search
        ⟨session.config.search.maxRetries.toNat, patience⟩ (chosen index session.index) query
        session.connection
      rw [retrieved] at made
      obtain ⟨more, asked, metadata⟩ := absorb_makes server { session with connection }
        (chosen index session.index) found.documents
      exact ⟨calls ++ more, made.trans asked, releases.append metadata⟩
  · intro clearScroll
    simp only [execute_fst, Connection.retrieve_clearScroll]

/-- A wire to one document, behind which a scroll is named anew with each batch and never cleared. -/
def oneDocument : Wire Unit
  | .openScroll .., _ =>
      (.ok (.obj [("_scroll_id", .str "first"), ("hits", .obj [("total", .int 1),
        ("hits", .arr [.obj [("_source", .obj [("a", .int 1)])]])])]), ())
  | .scroll .., _ => (.ok (.obj [("_scroll_id", .str "second")]), ())
  | .clearScroll _, _ => (.error (.reported .none "gone"), ())
  | _, _ => (.ok (.obj []), ())

def batchwise : Session Unit :=
  let config :=
    { Config.standard with search := { Config.standard.search with largeResultLimit := 0 } }
  ⟨config, "*", .empty, .start config.pacing ()⟩

theorem execute_releases_oneDocument :
    oneDocument.server.KeepsScrolls ∧
    (∃ calls, batchwise.connection.Makes oneDocument.server calls
        (batchwise.execute oneDocument.server ⟨[], none, some "", ⟨0, 0⟩⟩ none
          .unlimited).2.connection ∧
      oneDocument.server.Opens () calls ∧ oneDocument.server.Releases () calls) := by
  have keeps := oneDocument.keepsScrolls_server
  obtain ⟨⟨calls, made, releases⟩, -⟩ := execute_releases keeps batchwise
    ⟨[], none, some "", ⟨0, 0⟩⟩ none .unlimited
  refine ⟨keeps, calls, made, ?_, releases⟩
  have logged : (batchwise.execute oneDocument.server ⟨[], none, some "", ⟨0, 0⟩⟩ none
      .unlimited).2.connection.log.filterMap Event.call? = calls := made.logged
  have opening : calls.any Call.opens = true := by
    rw [← logged]
    decide +kernel
  obtain ⟨call, member, opens⟩ := List.any_eq_true.mp opening
  rw [← map_call_exchanges oneDocument.server () calls] at member
  obtain ⟨exchange, among, rfl⟩ := List.mem_map.mp member
  refine ⟨exchange, among, opens, .str "first", ?_, rfl⟩
  obtain ⟨call, state⟩ := exchange
  cases call with
  | openScroll index query keepAlive => rfl
  | _ => cases opens

end Session

end FilterQuery
