import FilterQuery.Proofs.Session.Execution
import FilterQuery.Proofs.Session.Release
import FilterQuery.Proofs.Session.Round

/-!
# The requests of a search

A search by one request is one round, and a search in batches one round for each batch. All attempts
are accounted for, those that came too early as well. Main statement: `Session.execute_accounts`.
-/

set_option autoImplicit false

namespace FilterQuery

open Server Pacing FilterQuery.Field

variable {σ : Type}

/-- The batches that are asked for one after the other when some documents and a scroll are held:
each by the scroll that was named last, as long as documents are wanted, and none after a batch that
is empty or is not given. -/
inductive Scrolls (keepAlive : String) (limit : Nat) :
    List Document → ScrollId → List (Round σ) → Prop where
  | enough {documents : List Document} {id : ScrollId} :
      (id.isTrue = true → limit ≤ documents.length) → Scrolls keepAlive limit documents id []
  | last {documents : List Document} {id : ScrollId} {round : Round σ} :
      id.isTrue = true → documents.length < limit → round.call = .scroll id keepAlive →
      round.documents = [] → Scrolls keepAlive limit documents id [round]
  | next {documents batch : List Document} {id next : ScrollId} {round : Round σ}
      {rounds : List (Round σ)} :
      id.isTrue = true → documents.length < limit → round.call = .scroll id keepAlive →
      round.outcome = .ok ⟨batch, none, some next⟩ → batch ≠ [] →
      Scrolls keepAlive limit (documents ++ batch) next rounds →
      Scrolls keepAlive limit documents id (round :: rounds)

/-- The requests that a search for a query consists of: a single one, or one that opens a scroll and
one for each further batch. -/
inductive IsPlanned (settings : SearchSettings) (index : String) (query : Query) :
    List (Round σ) → Prop where
  | single {round : Round σ} : settings.usesScroll query.size = false →
      round.call = .search index query → IsPlanned settings index query [round]
  | unopened {opening : Round σ} : settings.usesScroll query.size = true →
      opening.call = .openScroll index { query with size := settings.scrollBatchSize }
        settings.scrollTimeout →
      opening.delivery? = none → IsPlanned settings index query [opening]
  | batches {opening : Round σ} {rounds : List (Round σ)} {documents : List Document}
      {total : Int} {id : ScrollId} : settings.usesScroll query.size = true →
      opening.call = .openScroll index { query with size := settings.scrollBatchSize }
        settings.scrollTimeout →
      opening.outcome = .ok ⟨documents, some total, some id⟩ →
      Scrolls settings.scrollTimeout query.size.toNat documents id rounds →
      IsPlanned settings index query (opening :: rounds)

/-- What is retrieved is what the requests of a search were answered with, as many documents as are
wanted. -/
structure Retrieved.IsGathered (retrieved : Retrieved) (settings : SearchSettings) (query : Query)
    (rounds : List (Round σ)) : Prop where
  documents_eq : retrieved.documents =
    if settings.usesScroll query.size then (rounds.flatMap Round.documents).take query.size.toNat
    else rounds.flatMap Round.documents
  total_eq : some retrieved.total = (rounds.head?.bind Round.delivery?).bind Delivery.total
  attempts_eq : retrieved.attempts = (rounds.flatMap Round.calls).length

/-- What a retrieval comes to by its requests. Then a scroll is cleared, if one is open. -/
structure Connection.Retrieves (server : Server σ) (settings : SearchSettings) (terms : Terms)
    (index : String) (query : Query) (first : Connection σ) (rounds : List (Round σ))
    (asides : List (Call Query)) (retrieved : Except RequestError Retrieved × Connection σ) :
    Prop where
  planned : IsPlanned settings index query rounds
  follows : ∃ ended, first.Follows server terms rounds (error? retrieved.1) ended ∧
    ended.Makes server asides retrieved.2 ∧ retrieved.2.pacer = ended.pacer
  clearing : ∀ call ∈ asides, ∃ id, call = .clearScroll id
  gathered : ∀ found, retrieved.1 = .ok found → found.IsGathered settings query rounds

namespace Connection

variable {connection last : Connection σ} {terms : Terms}

theorem delivers_scroll (server : Server σ) (id : ScrollId) (keepAlive : String) :
    Inquiry.Delivers server ⟨.scroll id keepAlive, server.scroll id keepAlive⟩
      fun answer => ⟨answer.1, none, some answer.2⟩ :=
  ⟨fun _ => ⟨rfl, rfl⟩, fun _ => rfl⟩

theorem delivers_openScroll (server : Server σ) (index : String) (query : Query)
    (keepAlive : String) :
    Inquiry.Delivers server
      ⟨.openScroll index query keepAlive, server.openScroll index query keepAlive⟩
      fun answer => ⟨answer.1.documents, some answer.1.total, some answer.2⟩ :=
  ⟨fun _ => ⟨rfl, rfl⟩, fun _ => rfl⟩

theorem delivers_search (server : Server σ) (index : String) (query : Query) :
    Inquiry.Delivers server ⟨.search index query, server.search index query⟩
      fun page => ⟨page.documents, some page.total, none⟩ :=
  ⟨fun _ => ⟨rfl, rfl⟩, fun _ => rfl⟩

theorem collect_follows (server : Server σ) (terms : Terms) (keepAlive : String) (limit : Nat)
    (collection : Collection) (connection : Connection σ) :
    ∃ rounds,
      connection.Follows server terms rounds
        (connection.collect server terms keepAlive limit collection).1
        (connection.collect server terms keepAlive limit collection).2.2 ∧
      Scrolls keepAlive limit collection.documents collection.id rounds ∧
      ((connection.collect server terms keepAlive limit collection).1 = none →
        (connection.collect server terms keepAlive limit collection).2.1.documents =
            collection.documents ++ rounds.flatMap Round.documents ∧
          (connection.collect server terms keepAlive limit collection).2.1.attempts =
            collection.attempts + (rounds.flatMap Round.calls).length) := by
  have wanted {collection : Collection} (wants : wantsMore limit collection = true) :
      collection.id.isTrue = true ∧ collection.documents.length < limit := by
    simpa [wantsMore] using wants
  induction collection, connection using
      Connection.collect.induct server terms keepAlive limit with
  | case1 collection connection wants error stopped requested =>
      obtain ⟨sent, concludes, -⟩ := request_concludes (delivers_scroll server _ _) requested
      obtain ⟨isTrue, short⟩ := wanted wants
      rw [collect, if_pos wants, requested]
      let round : Round σ :=
        ⟨.scroll collection.id keepAlive, connection, .error error, sent, stopped⟩
      have isMade : round.IsMade server terms := concludes
      refine ⟨[round], .fails isMade rfl, .last isTrue short rfl rfl, ?_⟩
      exact fun success => by cases success
  | case2 collection connection wants batch id attempts answered requested empty =>
      obtain ⟨sent, concludes, count⟩ := request_concludes (delivers_scroll server _ _) requested
      obtain rfl : attempts = sent := count _ rfl
      obtain ⟨isTrue, short⟩ := wanted wants
      rw [collect, if_pos wants, requested]
      simp only [empty, ↓reduceIte]
      let round : Round σ := ⟨.scroll collection.id keepAlive, connection,
        .ok ⟨batch, none, some id⟩, attempts, answered⟩
      have nothing : batch = [] := List.isEmpty_iff.mp empty
      have isMade : round.IsMade server terms := concludes
      refine ⟨[round], .answered isMade rfl .done,
        .last isTrue short rfl nothing, fun _ => ⟨?_, ?_⟩⟩
      · simp [round, Round.documents, Round.delivery?, Except.toOption]
      · simp [round, Round.calls]
  | case3 collection connection wants batch id attempts answered requested next filled ih =>
      obtain ⟨sent, concludes, count⟩ := request_concludes (delivers_scroll server _ _) requested
      obtain rfl : attempts = sent := count _ rfl
      obtain ⟨isTrue, short⟩ := wanted wants
      obtain ⟨rounds, follows, scrolls, gathered⟩ := ih
      rw [collect, if_pos wants, requested]
      simp only [filled, Bool.false_eq_true, ↓reduceIte]
      let round : Round σ := ⟨.scroll collection.id keepAlive, connection,
        .ok ⟨batch, none, some id⟩, attempts, answered⟩
      have nonempty : batch ≠ [] := by simpa using filled
      have isMade : round.IsMade server terms := concludes
      refine ⟨round :: rounds, .answered isMade rfl follows,
        .next isTrue short rfl rfl nonempty scrolls, fun success => ?_⟩
      obtain ⟨documents, attempts⟩ := gathered success
      refine ⟨?_, ?_⟩
      · rw [documents]
        simp [round, next, Round.documents, Round.delivery?, Except.toOption]
      · rw [attempts]
        simp [round, next, Round.calls, Nat.add_assoc]
  | case4 collection connection enough =>
      rw [collect, if_neg enough]
      refine ⟨[], .done, .enough fun isTrue => ?_, fun _ => ⟨by simp, by simp⟩⟩
      simpa [wantsMore, isTrue] using enough

theorem pacer_release (server : Server σ) (id : ScrollId) (connection : Connection σ) :
    (connection.release server id).pacer = connection.pacer := by
  simp only [release]
  split <;> rfl

theorem retrieveBatches_follows (server : Server σ) {settings : SearchSettings} (terms : Terms)
    (index : String) {query : Query} (connection : Connection σ)
    (uses : settings.usesScroll query.size = true) :
    ∃ rounds asides, connection.Retrieves server settings terms index query rounds asides
      (connection.retrieveBatches server settings terms index query) := by
  let batch := { query with size := settings.scrollBatchSize }
  let keepAlive := settings.scrollTimeout
  cases requested : connection.request terms
      ⟨.openScroll index batch keepAlive, server.openScroll index batch keepAlive⟩ with
  | mk result opened =>
      obtain ⟨sent, concludes, count⟩ :=
        request_concludes (delivers_openScroll server index batch keepAlive) requested
      cases result with
      | error error =>
          let opening : Round σ :=
            ⟨.openScroll index batch keepAlive, connection, .error error, sent, opened⟩
          have stopped : connection.retrieveBatches server settings terms index query =
              (.error error, opened) := by
            simp only [retrieveBatches, batch, keepAlive] at requested ⊢
            rw [requested]
          rw [stopped]
          have isMade : opening.IsMade server terms := concludes
          exact ⟨[opening], [], .unopened uses rfl rfl,
            ⟨opened, .fails isMade rfl, .refl, rfl⟩,
            fun _ member => absurd member List.not_mem_nil, fun _ success => by cases success⟩
      | ok found =>
          obtain ⟨⟨page, id⟩, attempts⟩ := found
          obtain rfl : attempts = sent := count _ rfl
          let opening : Round σ := ⟨.openScroll index batch keepAlive, connection,
            .ok ⟨page.documents, some page.total, some id⟩, attempts, opened⟩
          obtain ⟨rounds, follows, scrolls, gathered⟩ := collect_follows server terms keepAlive
            query.size.toNat ⟨page.documents, id, attempts⟩ opened
          rw [retrieveBatches_eq server settings terms index query requested]
          generalize opened.collect server terms keepAlive query.size.toNat
            ⟨page.documents, id, attempts⟩ = collected at follows gathered
          obtain ⟨failure, collection, last⟩ := collected
          refine ⟨opening :: rounds, _, .batches uses rfl rfl scrolls, ⟨last, ?_,
            makes_release server collection.id last, pacer_release server collection.id last⟩,
            ?_, ?_⟩
          · have isMade : opening.IsMade server terms := concludes
            refine .answered isMade rfl ?_
            cases failure <;> exact follows
          · intro call member
            split at member
            · exact ⟨_, List.mem_singleton.mp member⟩
            · cases member
          · intro retrieved success
            cases failure with
            | some error => cases success
            | none =>
                cases success
                obtain ⟨documents, attempts⟩ := gathered rfl
                refine ⟨?_, rfl, ?_⟩
                · rw [if_pos uses]
                  exact congrArg _ documents
                · rw [List.flatMap_cons, List.length_append, Round.calls, List.length_replicate]
                  exact attempts

theorem retrieve_follows (server : Server σ) (settings : SearchSettings) (terms : Terms)
    (index : String) (query : Query) (connection : Connection σ) :
    ∃ rounds asides, connection.Retrieves server settings terms index query rounds asides
      (connection.retrieve server settings terms index query) := by
  rw [retrieve]
  split
  · next uses => exact retrieveBatches_follows server terms index connection uses
  · next unused =>
      have single : settings.usesScroll query.size = false := Bool.eq_false_iff.mpr unused
      cases requested : connection.request terms
          ⟨.search index query, server.search index query⟩ with
      | mk result answered =>
          obtain ⟨sent, concludes, count⟩ :=
            request_concludes (delivers_search server index query) requested
          cases result with
          | error error =>
              let round : Round σ := ⟨.search index query, connection, .error error, sent, answered⟩
              have isMade : round.IsMade server terms := concludes
              exact ⟨[round], [], .single single rfl,
                ⟨answered, .fails isMade rfl, .refl, rfl⟩,
                fun _ member => absurd member List.not_mem_nil, fun _ success => by cases success⟩
          | ok found =>
              obtain ⟨page, attempts⟩ := found
              obtain rfl : attempts = sent := count _ rfl
              let round : Round σ := ⟨.search index query, connection,
                .ok ⟨page.documents, some page.total, none⟩, attempts, answered⟩
              have isMade : round.IsMade server terms := concludes
              refine ⟨[round], [], .single single rfl,
                ⟨answered, .answered isMade rfl .done, .refl, rfl⟩,
                fun _ member => absurd member List.not_mem_nil, fun _ success => ?_⟩
              cases success
              refine ⟨?_, rfl, ?_⟩
              · rw [if_neg unused]
                simp [round, Round.documents, Round.delivery?, Except.toOption]
              · simp [round, Round.calls]

end Connection

section Plan

variable {settings : SearchSettings} {index keepAlive : String} {query : Query} {limit : Nat}
  {documents : List Document} {id : ScrollId} {rounds : List (Round σ)}

theorem Scrolls.isPaced (scrolls : Scrolls keepAlive limit documents id rounds) :
    ∀ round ∈ rounds, round.call.isPaced = true := by
  induction scrolls with
  | enough => exact fun _ member => absurd member List.not_mem_nil
  | last _ _ call _ => exact List.forall_mem_singleton.mpr (by rw [call]; rfl)
  | next _ _ call _ _ _ ih => exact List.forall_mem_cons.mpr ⟨by rw [call]; rfl, ih⟩

theorem IsPlanned.isPaced (planned : IsPlanned settings index query rounds) :
    ∀ round ∈ rounds, round.call.isPaced = true := by
  cases planned with
  | single _ call => exact List.forall_mem_singleton.mpr (by rw [call]; rfl)
  | unopened _ call _ => exact List.forall_mem_singleton.mpr (by rw [call]; rfl)
  | batches _ call _ scrolls => exact List.forall_mem_cons.mpr ⟨by rw [call]; rfl, scrolls.isPaced⟩

theorem IsPlanned.ne_nil (planned : IsPlanned settings index query rounds) : rounds ≠ [] := by
  cases planned <;> exact List.cons_ne_nil _ _

theorem countP_isPaced_calls (paced : ∀ round ∈ rounds, round.call.isPaced = true) :
    (rounds.flatMap Round.calls).countP Call.isPaced = (rounds.flatMap Round.calls).length := by
  refine List.countP_eq_length.mpr fun call member => ?_
  obtain ⟨round, among, member⟩ := List.mem_flatMap.mp member
  rw [List.eq_of_mem_replicate member]
  exact paced round among

theorem countP_isPaced_eq_zero {calls : List (Call Query)}
    (unpaced : ∀ call ∈ calls, call.isPaced = false) : calls.countP Call.isPaced = 0 :=
  List.countP_eq_zero.mpr fun call member => Bool.eq_false_iff.mp (unpaced call member)

end Plan

/-- A search for a query proceeds by requests, and by calls that it makes aside from them. It fails
by the first request that fails, or it returns what they were answered with. -/
structure Session.ProceedsBy (server : Server σ) (patience : Patience) (index : String)
    (session : Session σ) (query : Query) (rounds : List (Round σ)) (asides : List (Call Query))
    (executed : Except SearchError SearchResult × Session σ) : Prop where
  planned : IsPlanned session.config.search index query rounds
  makes : session.connection.Makes server (rounds.flatMap Round.calls ++ asides)
    executed.2.connection
  aside : ∀ call ∈ asides, call.isPaced = false
  follows : ∃ failure ended, session.connection.Follows server
      ⟨session.config.search.maxRetries.toNat, patience⟩ rounds failure ended ∧
    executed.2.connection.pacer = ended.pacer ∧
    match failure with
    | some error => executed.1 = .error (.request error)
    | none => ∃ result, executed.1 = .ok result ∧
        (⟨result.documents, result.total, result.attempts⟩ : Retrieved).IsGathered
          session.config.search query rounds

/-- All requests of a search are accounted for: how often each is sent and when it is given up, how
many attempts are counted, and that the pacer starts over. -/
structure Session.Accounts (server : Server σ) (patience : Patience) (index : String)
    (session : Session σ) (query : Query) (rounds : List (Round σ)) (asides : List (Call Query))
    (executed : Except SearchError SearchResult × Session σ) : Prop
    extends session.ProceedsBy server patience index query rounds asides executed where
  limited : ∀ round ∈ rounds, round.sent ≤ session.config.search.maxRetries.toNat
  exhausted_iff : ∀ round ∈ rounds, ∀ reported, round.outcome = .error (.exhausted reported) ↔
    ∃ (messages : List String) (final : Connection σ),
      messages.length = session.config.search.maxRetries.toNat ∧ messages.getLast? = reported ∧
        round.first.Repeats server patience round.call (messages.map tooEarly) final
  message_eq : ∀ reported, (RequestError.exhausted (some reported)).message =
    "max retries exceeded: " ++ reported
  counted : ∀ result, executed.1 = .ok result →
    result.attempts = (rounds.flatMap Round.calls ++ asides).countP Call.isPaced
  recovered : ∀ result, executed.1 = .ok result →
    executed.2.connection.pacer.interval = session.connection.pacer.settings.initialDelay

theorem isPaced_of_describes {call : Call Query} (describes : call.describes = true) :
    call.isPaced = false := by
  cases call with
  | fieldCapabilities => rfl
  | _ => cases describes

namespace Session

theorem pacer_absorb (server : Server σ) (session : Session σ) (index : String)
    (documents : List Document) :
    (session.absorb server index documents).2.connection.pacer = session.connection.pacer := by
  obtain ⟨cache, absorbed⟩ := session.absorb_snd server index documents
  rw [absorbed]
  dsimp only
  split <;> rfl

theorem execute_proceedsBy {demand : Demand} {query : Query} (server : Server σ)
    (session : Session σ) (index : Option String) (patience : Patience)
    (compiled : session.compile demand = .ok query) :
    ∃ rounds asides, session.ProceedsBy server patience (chosen index session.index) query rounds
      asides (session.execute server demand index patience) := by
  obtain ⟨rounds, asides, planned, ⟨last, follows, makes, pacer⟩, clearing, gathered⟩ :=
    Connection.retrieve_follows server session.config.search
      ⟨session.config.search.maxRetries.toNat, patience⟩ (chosen index session.index) query
      session.connection
  have whole := follows.makes.trans makes
  have cleared : ∀ call ∈ asides, call.isPaced = false := by
    intro call member
    obtain ⟨id, rfl⟩ := clearing call member
    rfl
  obtain ⟨fault, refused, -⟩ | ⟨_, compiledTo, ended⟩ :=
    execute_cases server session demand index patience
  · cases compiled.symm.trans refused
  cases compiled.symm.trans compiledTo
  obtain ⟨error, connection, retrieved, stopped⟩ | ⟨found, connection, retrieved, ended⟩ := ended
  · rw [retrieved] at follows whole pacer
    rw [stopped]
    exact ⟨rounds, asides, planned, whole, cleared, _, last, follows, pacer, rfl⟩
  · obtain ⟨more, asked, metadata⟩ := absorb_makes server { session with connection }
      (chosen index session.index) found.documents
    rw [retrieved] at follows whole pacer gathered
    rw [ended]
    refine ⟨rounds, asides ++ more, planned, ?_, List.forall_mem_append.mpr
      ⟨cleared, fun call member => isPaced_of_describes (metadata call member)⟩,
      _, last, follows, (pacer_absorb _ _ _ _).trans pacer, _, rfl, gathered _ rfl⟩
    rw [← List.append_assoc]
    exact whole.trans asked

/-- A search that does not compile makes no request. Any other one is accounted for by requests each
of which is one call, sent until it is answered, fails or has come too early as often as it may be
sent. -/
theorem execute_accounts (server : Server σ) (session : Session σ) (demand : Demand)
    (index : Option String) (patience : Patience) :
    (∃ fault, session.compile demand = .error fault ∧
      session.execute server demand index patience = (.error (.query fault), session)) ∨
    ∃ query rounds asides, session.compile demand = .ok query ∧
      session.Accounts server patience (chosen index session.index) query rounds asides
        (session.execute server demand index patience) := by
  cases compiled : session.compile demand with
  | error fault => exact .inl ⟨fault, rfl, by simp only [execute, compiled]⟩
  | ok query =>
      obtain ⟨rounds, asides, proceeds⟩ := execute_proceedsBy server session index patience compiled
      refine .inr ⟨query, rounds, asides, rfl, proceeds, ?_, ?_, fun _ => rfl, ?_, ?_⟩
      all_goals obtain ⟨failure, last, follows, pacer, ended⟩ := proceeds.follows
      · exact fun round member => Connection.Concludes.sent_le (follows.isMade round member)
      · exact fun round member => Connection.Concludes.exhausted_iff (follows.isMade round member)
      · intro result success
        cases failure with
        | some error => cases ended.symm.trans success
        | none =>
            obtain ⟨_, returned, gathered⟩ := ended
            cases returned.symm.trans success
            rw [List.countP_append, countP_isPaced_calls proceeds.planned.isPaced,
              countP_isPaced_eq_zero proceeds.aside]
            exact gathered.attempts_eq
      · intro result success
        cases failure with
        | some error => cases ended.symm.trans success
        | none =>
            rw [pacer]
            exact follows.interval_eq proceeds.planned.ne_nil

end Session

end FilterQuery
