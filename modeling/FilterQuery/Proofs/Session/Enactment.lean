import FilterQuery.Proofs.Session.Act
import FilterQuery.Proofs.Session.Execution

/-!
# Sessions act in turn

Every step of a session comes down to acts on its connection that are in turn. The functions that
make requests are taken one by one, from a single request up to a step. Main statement:
`Session.enacts_step`.
-/

set_option autoImplicit false

namespace FilterQuery

open Server Pacing

variable {σ α : Type} {server : Server σ} {allowed : Act → Prop}

/-- A search or scroll of a server, with its own way to answer it. -/
def Inquiry.IsPaced (server : Server σ) (inquiry : Inquiry σ (Except Fault α)) : Prop :=
  ∀ state, server.verdict? state inquiry.call = some (.of (inquiry.send state).1) ∧
    server.after state inquiry.call = (inquiry.send state).2

theorem Inquiry.IsPaced.isPaced_call {inquiry : Inquiry σ (Except Fault α)}
    (paced : inquiry.IsPaced server) (state : σ) : inquiry.call.isPaced = true := by
  rw [← server.isSome_verdict? state, (paced state).1]
  rfl

/-- Another call of a server, with its own way to answer it. -/
def Inquiry.IsAside (server : Server σ) (inquiry : Inquiry σ α) : Prop :=
  inquiry.call.isPaced = false ∧ ∀ state, server.after state inquiry.call = (inquiry.send state).2

namespace Connection

/-- Acts of an allowed kind that are in turn lead from one connection to another. -/
def Enacts (server : Server σ) (allowed : Act → Prop) (first last : Connection σ) : Prop :=
  ∃ acts, last = first.replay server acts ∧ first.InTurn server acts ∧ ∀ act ∈ acts, allowed act

variable {connection : Connection σ}

theorem Enacts.refl : connection.Enacts server allowed connection :=
  ⟨[], rfl, .done, fun _ member => absurd member List.not_mem_nil⟩

theorem Enacts.trans {first middle last : Connection σ} (before : first.Enacts server allowed middle)
    (after : middle.Enacts server allowed last) : first.Enacts server allowed last := by
  obtain ⟨acts, rfl, inTurn, areAllowed⟩ := before
  obtain ⟨more, rfl, moreInTurn, moreAllowed⟩ := after
  refine ⟨acts ++ more, (replay_append acts more).symm, inTurn.append moreInTurn, ?_⟩
  intro act member
  rcases List.mem_append.mp member with member | member
  · exact areAllowed act member
  · exact moreAllowed act member

theorem enacts_refused {patience : Patience} {error : WaitError} {refused : Connection σ}
    (allowsWait : allowed (.wait patience))
    (waited : connection.await patience = (some error, refused)) :
    connection.Enacts server allowed refused := by
  refine ⟨[.wait patience], ?_, .refused ?_ .done, by simpa using allowsWait⟩
  · exact (congrArg Prod.snd waited).symm
  · simp [waited]

theorem enacts_aside {inquiry : Inquiry σ α} {answer : α} {answered : Connection σ}
    (aside : inquiry.IsAside server) (allowsCall : allowed (.call inquiry.call))
    (performed : connection.perform inquiry = (answer, answered)) :
    connection.Enacts server allowed answered := by
  obtain ⟨unpaced, after⟩ := aside
  refine ⟨[.call inquiry.call], ?_, .aside unpaced .done, by simpa using allowsCall⟩
  have unheard := server.verdict?_of_unpaced connection.server unpaced
  cases performed
  simp only [replay, List.foldl_cons, List.foldl_nil, act, send, unheard, after, Option.elim_none]

/-- To send a search or scroll is to make its inquiry and to have the pacer hear the verdict. -/
theorem send_of_perform {inquiry : Inquiry σ (Except Fault α)} {answer : Except Fault α}
    {answered : Connection σ} (paced : inquiry.IsPaced server)
    (performed : connection.perform inquiry = (answer, answered)) :
    connection.send server inquiry.call =
      { answered with pacer := answered.pacer.hear (.of answer) } := by
  obtain ⟨verdict, after⟩ := paced connection.server
  cases performed
  simp only [send, verdict, after, Option.elim_some]

/-- A wait that does not fail and the call after it, which the pacer hears the verdict on, are two
acts in turn. -/
theorem enacts_sent {patience : Patience} {inquiry : Inquiry σ (Except Fault α)}
    {answer : Except Fault α} {ready answered : Connection σ} (paced : inquiry.IsPaced server)
    (allowsWait : allowed (.wait patience)) (allowsCall : allowed (.call inquiry.call))
    (waited : connection.await patience = (none, ready))
    (performed : ready.perform inquiry = (answer, answered)) :
    connection.Enacts server allowed
      { answered with pacer := answered.pacer.hear (.of answer) } := by
  refine ⟨[.wait patience, .call inquiry.call], ?_,
    .sent ?_ (paced.isPaced_call ready.server) .done,
    by simpa using And.intro allowsWait allowsCall⟩
  · simp only [replay, List.foldl_cons, List.foldl_nil, act, waited,
      send_of_perform paced performed]
  · simp [waited]

theorem enacts_requestFrom {patience : Patience} {inquiry : Inquiry σ (Except Fault α)}
    (paced : inquiry.IsPaced server) (allowsWait : allowed (.wait patience))
    (allowsCall : allowed (.call inquiry.call)) (left attempt : Nat) (last : Option String) :
    connection.Enacts server allowed
      (connection.requestFrom patience inquiry left attempt last).2 := by
  induction left generalizing connection attempt last with
  | zero => exact .refl
  | succ left ih =>
      simp only [requestFrom]
      cases waited : connection.await patience with
      | mk failure ready =>
          cases failure with
          | some error => exact enacts_refused allowsWait waited
          | none =>
              dsimp only
              cases performed : ready.perform inquiry with
              | mk answer answered =>
                  have sent := enacts_sent paced allowsWait allowsCall waited performed
                  match answer with
                  | .ok _ => exact sent
                  | .error (.refused (.throttled message)) => exact sent.trans (ih _ _)
                  | .error (.refused (.failed _)) => exact sent
                  | .error (.malformed _) => exact sent

theorem enacts_of_request {terms : Terms} {inquiry : Inquiry σ (Except Fault α)}
    {result : Except RequestError (α × Nat)} {last : Connection σ}
    (paced : inquiry.IsPaced server) (allowsWait : allowed (.wait terms.patience))
    (allowsCall : allowed (.call inquiry.call))
    (requested : connection.request terms inquiry = (result, last)) :
    connection.Enacts server allowed last := by
  have enacts : connection.Enacts server allowed (connection.request terms inquiry).2 :=
    enacts_requestFrom paced allowsWait allowsCall terms.attempts 1 none
  rwa [requested] at enacts

theorem isPaced_scroll (id : ScrollId) (keepAlive : String) :
    Inquiry.IsPaced server ⟨.scroll id keepAlive, server.scroll id keepAlive⟩ :=
  fun _ => ⟨rfl, rfl⟩

theorem enacts_collect {terms : Terms} (allowsWait : allowed (.wait terms.patience))
    (allowsCalls : ∀ call, allowed (.call call)) (keepAlive : String) (limit : Nat)
    (collection : Collection) :
    connection.Enacts server allowed
      (connection.collect server terms keepAlive limit collection).2.2 := by
  induction collection, connection using
      Connection.collect.induct server terms keepAlive limit with
  | case1 collection connection wants error stopped requested =>
      have enacts := enacts_of_request (isPaced_scroll _ _) allowsWait (allowsCalls _) requested
      rw [collect, if_pos wants, requested]
      exact enacts
  | case2 collection connection wants batch id attempts answered requested empty =>
      have enacts := enacts_of_request (isPaced_scroll _ _) allowsWait (allowsCalls _) requested
      rw [collect, if_pos wants, requested]
      simp only [empty, ↓reduceIte]
      exact enacts
  | case3 collection connection wants batch id attempts answered requested next filled ih =>
      have enacts := enacts_of_request (isPaced_scroll _ _) allowsWait (allowsCalls _) requested
      rw [collect, if_pos wants, requested]
      simp only [filled]
      exact enacts.trans ih
  | case4 collection connection enough =>
      rw [collect, if_neg enough]
      exact .refl

theorem enacts_release (allowsCalls : ∀ call, allowed (.call call)) (id : ScrollId) :
    connection.Enacts server allowed (connection.release server id) := by
  simp only [release]
  split
  · cases performed : connection.perform ⟨.clearScroll id, server.clearScroll id⟩ with
    | mk answer answered => exact enacts_aside ⟨rfl, fun _ => rfl⟩ (allowsCalls _) performed
  · exact .refl

theorem enacts_retrieveBatches {terms : Terms} (allowsWait : allowed (.wait terms.patience))
    (allowsCalls : ∀ call, allowed (.call call)) (settings : SearchSettings) (index : String)
    (query : Query) :
    connection.Enacts server allowed
      (connection.retrieveBatches server settings terms index query).2 := by
  simp only [retrieveBatches]
  split
  · next error stopped requested =>
      exact enacts_of_request (fun _ => ⟨rfl, rfl⟩) allowsWait (allowsCalls _) requested
  · next page id attempts opened requested =>
      have enacts := enacts_of_request (fun _ => ⟨rfl, rfl⟩) allowsWait (allowsCalls _) requested
      have collects : opened.Enacts server allowed (opened.collect server terms
          settings.scrollTimeout query.size.toNat ⟨page.documents, id, attempts⟩).2.2 :=
        enacts_collect allowsWait allowsCalls _ _ _
      split
      · next error collection collected found =>
          rw [found] at collects
          exact (enacts.trans collects).trans (enacts_release allowsCalls collection.id)
      · next collection collected found =>
          rw [found] at collects
          exact (enacts.trans collects).trans (enacts_release allowsCalls collection.id)

theorem enacts_retrieve {terms : Terms} (allowsWait : allowed (.wait terms.patience))
    (allowsCalls : ∀ call, allowed (.call call)) (settings : SearchSettings) (index : String)
    (query : Query) :
    connection.Enacts server allowed
      (connection.retrieve server settings terms index query).2 := by
  simp only [retrieve]
  split
  · exact enacts_retrieveBatches allowsWait allowsCalls settings index query
  · split
    · next error stopped requested =>
        exact enacts_of_request (fun _ => ⟨rfl, rfl⟩) allowsWait (allowsCalls _) requested
    · next page attempts answered requested =>
        exact enacts_of_request (fun _ => ⟨rfl, rfl⟩) allowsWait (allowsCalls _) requested

end Connection

/-- The patience of the one kind of step that waits. -/
def Step.patience? : Step → Option Patience
  | .execute _ _ patience => some patience
  | _ => none

/-- The acts that a step may come down to: waits with its own patience, calls, and a lapse of time
only when it is to let time pass. -/
def Step.Allows (step : Step) : Act → Prop
  | .wait patience => step.patience? = some patience
  | .call _ => True
  | .lapse seconds => step = .advance seconds

namespace Session

variable {session : Session σ}

theorem enacts_loadMetadata (allowsCalls : ∀ call, allowed (.call call)) (index : String) :
    session.connection.Enacts server allowed (session.loadMetadata server index).2.connection := by
  obtain ⟨cache, loaded⟩ := session.loadMetadata_snd server index
  rw [loaded]
  have aside : (server.metadata index).IsAside server := ⟨rfl, fun _ => rfl⟩
  exact Connection.enacts_aside aside (allowsCalls _) rfl

theorem enacts_refresh (allowsCalls : ∀ call, allowed (.call call)) (index : String)
    (fields : Option (List String)) :
    session.connection.Enacts server allowed
      (session.refresh server index fields).2.connection := by
  simp only [refresh]
  split
  · exact .refl
  · exact enacts_loadMetadata allowsCalls index

theorem enacts_absorb (allowsCalls : ∀ call, allowed (.call call)) (index : String)
    (documents : List Document) :
    session.connection.Enacts server allowed
      (session.absorb server index documents).2.connection := by
  simp only [absorb]
  split
  · exact .refl
  · exact enacts_refresh allowsCalls index _

theorem enacts_execute {patience : Patience} (allowsWait : allowed (.wait patience))
    (allowsCalls : ∀ call, allowed (.call call)) (demand : Demand) (index : Option String) :
    session.connection.Enacts server allowed
      (session.execute server demand index patience).2.connection := by
  simp only [execute]
  split
  · exact .refl
  · next query compiled =>
      have retrieves : session.connection.Enacts server allowed
          (session.connection.retrieve server session.config.search
            ⟨session.config.search.maxRetries.toNat, patience⟩
            (chosen index session.index) query).2 :=
        Connection.enacts_retrieve allowsWait allowsCalls _ _ _
      split
      · next error stopped retrieved =>
          rwa [retrieved] at retrieves
      · next found answered retrieved =>
          rw [retrieved] at retrieves
          exact retrieves.trans (enacts_absorb allowsCalls _ _)

theorem enacts_step (server : Server σ) (session : Session σ) (step : Step) :
    session.connection.Enacts server step.Allows (session.step server step).2.connection := by
  have allowsCalls (call : Call Query) : step.Allows (.call call) := trivial
  cases step with
  | execute demand index patience =>
      have allowsWait : (Step.execute demand index patience).Allows (.wait patience) := rfl
      exact enacts_execute allowsWait allowsCalls demand index
  | compile demand => exact .refl
  | refresh index fields => exact enacts_refresh allowsCalls index fields
  | switchIndex index => exact .refl
  | listIndices pattern =>
      cases performed :
          session.connection.perform ⟨.indices pattern, server.indices pattern⟩ with
      | mk answer answered =>
          simp only [Session.step, listIndices, performed]
          exact Connection.enacts_aside ⟨rfl, fun _ => rfl⟩ (allowsCalls _) performed
  | advance seconds =>
      exact ⟨[.lapse seconds], rfl, .lapsed .done, by simp [Step.Allows]⟩
  | perform action => exact .refl

end Session

end FilterQuery
