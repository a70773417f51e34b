import FilterQuery.Proofs.Session.Accounting
import FilterQuery.Proofs.Session.Batches
import FilterQuery.Proofs.Text.Run

/-!
# Scrolling comes to an end

A scroll is asked for another batch only while documents are wanted and come, whatever the server
answers. Main statement: `Session.execute_scrolls`.
-/

set_option autoImplicit false

namespace FilterQuery

open Server Pacing FilterQuery.Field

variable {σ : Type}

/-- A scroll may be asked for the next batch after some calls: fewer documents have come than are
wanted, no batch but the first one was empty, and the scroll is the one that was named last. -/
structure Server.AsksFor (server : Server σ) (state : σ) (limit : Nat) (calls : List (Call Query))
    (id : ScrollId) : Prop where
  short : ((server.deliveries state calls).flatMap Delivery.documents).length < limit
  filled : ∀ delivery ∈ (server.deliveries state calls).tail, delivery.documents ≠ []
  named : (server.named state calls).getLast? = some id
  isTrue : id.isTrue = true

section Batches

variable {server : Server σ} {terms : Terms} {first last : Connection σ} {round : Round σ}
  {rounds : List (Round σ)} {failure : Option RequestError} {keepAlive : String} {limit : Nat}
  {documents : List Document} {held : ScrollId}

/-- Each batch but the last one has at least one of the documents that are wanted. -/
theorem Scrolls.length_le (scrolls : Scrolls keepAlive limit documents held rounds) :
    rounds.length ≤ limit - documents.length := by
  induction scrolls with
  | enough => exact Nat.zero_le _
  | last _ short _ _ =>
      rw [List.length_singleton]
      omega
  | next _ short _ _ filled _ ih =>
      have some := List.length_pos_of_ne_nil filled
      rw [List.length_append] at ih
      rw [List.length_cons]
      omega

/-- Nothing is given out before an attempt of a request, and all attempts are the same call. -/
theorem Round.IsMade.of_split (isMade : round.IsMade server terms)
    {before after : List (Call Query)} {call : Call Query}
    (split : round.calls = before ++ call :: after) :
    call = round.call ∧ server.deliveries round.first.server before = [] := by
  obtain ⟨length, same, others⟩ := List.replicate_eq_append_iff.mp split
  rw [List.length_cons] at length others
  refine ⟨List.eq_of_mem_replicate (others ▸ List.mem_cons_self), ?_⟩
  rw [same]
  exact Connection.Concludes.deliveries_of_lt isMade (by omega)

/-- What is given out by a request that is answered, and then by other calls. -/
theorem Round.IsMade.deliveries_append {delivery : Delivery} (isMade : round.IsMade server terms)
    (answered : round.outcome = .ok delivery) (rest : List (Call Query)) :
    server.deliveries round.first.server (round.calls ++ rest) =
      delivery :: server.deliveries round.last.server rest := by
  have reached : server.afterAll round.first.server round.calls = round.last.server :=
    (Connection.Concludes.makes isMade).reached.symm
  rw [Server.deliveries_append, reached, Round.calls, Connection.Concludes.deliveries_eq isMade,
    answered]
  rfl

theorem Round.IsMade.getLast?_named {total : Option Int} {id : ScrollId}
    (isMade : round.IsMade server terms)
    (answered : round.outcome = .ok ⟨documents, total, some id⟩)
    (rest : List (Call Query)) : (server.named round.first.server (round.calls ++ rest)).getLast? =
      some ((server.named round.last.server rest).getLast?.getD id) := by
  rw [named_eq, isMade.deliveries_append answered, List.filterMap_cons, ← named_eq]
  exact List.getLast?_cons

theorem Connection.Follows.of_scroll (follows : first.Follows server terms rounds failure last)
    (scrolls : Scrolls keepAlive limit documents held rounds) {before after : List (Call Query)}
    {id : ScrollId} {timeout : String}
    (split : rounds.flatMap Round.calls = before ++ .scroll id timeout :: after) :
    (documents ++ (server.deliveries first.server before).flatMap Delivery.documents).length <
        limit ∧
      (∀ delivery ∈ server.deliveries first.server before, delivery.documents ≠ []) ∧
      (server.named first.server before).getLast?.getD held = id ∧ id.isTrue = true := by
  -- An attempt of the first batch is made with what is held at the beginning.
  have atFirst {round : Round σ} {documents : List Document} {held : ScrollId}
      {before after : List (Call Query)} (isMade : round.IsMade server terms)
      (call : round.call = .scroll held keepAlive) (isTrue : held.isTrue = true)
      (short : documents.length < limit)
      (split : round.calls = before ++ .scroll id timeout :: after) :
      (documents ++ (server.deliveries round.first.server before).flatMap
          Delivery.documents).length < limit ∧
        (∀ delivery ∈ server.deliveries round.first.server before, delivery.documents ≠ []) ∧
        (server.named round.first.server before).getLast?.getD held = id ∧ id.isTrue = true := by
    obtain ⟨same, nothing⟩ := isMade.of_split split
    cases same.trans call
    rw [named_eq, nothing]
    exact ⟨by simpa using short, fun _ member => absurd member List.not_mem_nil, rfl, isTrue⟩
  induction scrolls generalizing first before with
  | enough => simp at split
  | last isTrue short call _ =>
      rw [List.flatMap_singleton] at split
      cases follows with
      | fails isMade _ => exact atFirst isMade call isTrue short split
      | answered isMade _ _ => exact atFirst isMade call isTrue short split
  | @next documents batch held next round rounds isTrue short call answered filled _ ih =>
      cases follows with
      | fails _ failed => cases answered.symm.trans failed
      | @answered _ _ _ _ _ isMade _ follows =>
          rw [List.flatMap_cons] at split
          obtain ⟨rest, rfl, later⟩ | ⟨rest, split, -⟩ := append_eq_append_cons split
          · obtain ⟨fewer, filledLater, named, isTrueLater⟩ := ih follows later
            rw [isMade.getLast?_named answered, isMade.deliveries_append answered]
            refine ⟨?_, List.forall_mem_cons.mpr ⟨filled, filledLater⟩, named, isTrueLater⟩
            rw [List.flatMap_cons, ← List.append_assoc]
            exact fewer
          · exact atFirst isMade call isTrue short split

variable {settings : SearchSettings} {index : String} {query : Query}

theorem IsPlanned.asksFor (planned : IsPlanned settings index query rounds)
    (follows : first.Follows server terms rounds failure last) {before after : List (Call Query)}
    {id : ScrollId} {timeout : String}
    (split : rounds.flatMap Round.calls = before ++ .scroll id timeout :: after) :
    server.AsksFor first.server query.size.toNat before id := by
  -- The first request of a search is not a scroll.
  have notFirst {round : Round σ} {before after : List (Call Query)}
      (isMade : round.IsMade server terms) (unlike : ∀ id timeout, round.call ≠ .scroll id timeout)
      (split : round.calls = before ++ .scroll id timeout :: after) : False :=
    unlike id timeout (isMade.of_split split).1.symm
  cases planned with
  | single _ call =>
      rw [List.flatMap_singleton] at split
      exact (notFirst (follows.isMade _ List.mem_cons_self) (by simp [call]) split).elim
  | unopened _ call _ =>
      rw [List.flatMap_singleton] at split
      exact (notFirst (follows.isMade _ List.mem_cons_self) (by simp [call]) split).elim
  | @batches opening rounds documents total held _ call opened scrolls =>
      cases follows with
      | fails _ failed => cases opened.symm.trans failed
      | @answered _ _ _ _ _ isMade _ follows =>
          rw [List.flatMap_cons] at split
          obtain ⟨rest, rfl, later⟩ | ⟨rest, split, -⟩ := append_eq_append_cons split
          · obtain ⟨short, filled, named, isTrue⟩ := follows.of_scroll scrolls later
            refine ⟨?_, ?_, ?_, isTrue⟩
            · rw [isMade.deliveries_append opened, List.flatMap_cons]
              exact short
            · rw [isMade.deliveries_append opened]
              exact filled
            · rw [isMade.getLast?_named opened, named]
          · exact (notFirst isMade (by simp [call]) split).elim

theorem IsPlanned.length_le (planned : IsPlanned settings index query rounds) :
    rounds.length ≤ query.size.toNat + 1 := by
  cases planned with
  | single | unopened => simp
  | batches _ _ _ scrolls =>
      have bound := scrolls.length_le
      rw [List.length_cons]
      omega

theorem flatMap_documents (rounds : List (Round σ)) :
    (rounds.filterMap Round.delivery?).flatMap Delivery.documents =
      rounds.flatMap Round.documents := by
  induction rounds with
  | nil => rfl
  | cons round rounds ih =>
      rw [List.filterMap_cons, List.flatMap_cons, ← ih, Round.documents]
      cases round.delivery? <;> rfl

theorem Connection.Follows.length_le (follows : first.Follows server terms rounds failure last) :
    (rounds.flatMap Round.calls).length ≤ terms.attempts * rounds.length := by
  induction follows with
  | done => exact Nat.zero_le _
  | fails isMade _ => simpa [Round.calls] using Concludes.sent_le isMade
  | answered isMade _ _ ih =>
      rw [List.flatMap_cons, List.length_append, Round.calls, List.length_replicate,
        List.length_cons, Nat.mul_succ, Nat.add_comm]
      exact Nat.add_le_add ih (Concludes.sent_le isMade)

end Batches

namespace Session

/-- A search through a scroll is bounded by the number of documents that are wanted. It asks for
another batch only as long as the scroll has something to give, and keeps what it received. -/
theorem execute_scrolls {demand : Demand} {query : Query} (server : Server σ) (session : Session σ)
    (index : Option String) (patience : Patience) (compiled : session.compile demand = .ok query)
    (uses : session.config.search.usesScroll query.size = true) :
    ∃ (limit : Nat) (calls : List (Call Query)), query.size = limit ∧
      session.connection.Makes server calls
        (session.execute server demand index patience).2.connection ∧
      calls.countP Call.isPaced ≤ session.config.search.maxRetries.toNat * (limit + 1) ∧
      (∀ before id keepAlive after, calls = before ++ .scroll id keepAlive :: after →
        server.AsksFor session.connection.server limit before id) ∧
      ∀ result, (session.execute server demand index patience).1 = .ok result →
        result.documents = ((server.deliveries session.connection.server calls).flatMap
          Delivery.documents).take limit := by
  obtain ⟨rounds, asides, planned, makes, aside, failure, last, follows, -, ended⟩ :=
    execute_proceedsBy server session index patience compiled
  refine ⟨query.size.toNat, rounds.flatMap Round.calls ++ asides,
    (Int.toNat_of_nonneg (size_nonneg_of_compile compiled)).symm, makes, ?_, ?_, ?_⟩
  · rw [List.countP_append, countP_isPaced_eq_zero aside, Nat.add_zero,
      countP_isPaced_calls planned.isPaced]
    exact follows.length_le.trans (Nat.mul_le_mul_left _ planned.length_le)
  · intro before id keepAlive after split
    obtain ⟨rest, -, later⟩ | ⟨rest, split, -⟩ := append_eq_append_cons split
    · have scrolled : Call.isPaced (Call.scroll id keepAlive) = false :=
        aside _ (later ▸ List.mem_append_right _ List.mem_cons_self)
      cases scrolled
    · exact planned.asksFor follows split
  · intro result success
    cases failure with
    | some error => cases ended.symm.trans success
    | none =>
        obtain ⟨_, returned, gathered⟩ := ended
        cases returned.symm.trans success
        rw [deliveries_append, deliveries_of_unpaced _ _ aside, List.append_nil,
          follows.deliveries_eq, flatMap_documents]
        exact gathered.documents_eq.trans (if_pos uses)

/-- A server that refuses every other request. Its one scroll is named the same with each batch and
never spent. -/
def tireless : Server Bool :=
  let inTurn {β : Type} (answer : β) (busy : Bool) : Except Fault β × Bool :=
    (if busy then .error (.refused (.throttled "busy")) else .ok answer, !busy)
  { search := fun _ _ => inTurn ⟨[], 0⟩
    openScroll := fun _ _ _ => inTurn (⟨[], 0⟩, .str "scroll")
    scroll := fun _ _ => inTurn ([[("a", .int 1)]], .str "scroll")
    clearScroll := fun _ busy => (.ok (), busy)
    fieldCapabilities := fun _ _ busy => (.error (.failed "none"), busy)
    indices := fun _ busy => (.ok [], busy) }

def untiring : Session Bool :=
  let config :=
    { Config.standard with search := { Config.standard.search with largeResultLimit := 0 } }
  ⟨config, "*", .empty, .start config.pacing true⟩

theorem execute_scrolls_tireless :
    ∃ calls, untiring.connection.Makes tireless calls
        (untiring.execute tireless ⟨[], some 2, some "", ⟨0, 0⟩⟩ none .unlimited).2.connection ∧
      calls.countP Call.isPaced = 6 ∧ calls.countP Call.isPaced ≤ 3 * (2 + 1) ∧
      ∀ before id keepAlive after, calls = before ++ .scroll id keepAlive :: after →
        tireless.AsksFor true 2 before id := by
  have compiled : untiring.compile ⟨[], some 2, some "", ⟨0, 0⟩⟩ = .ok ⟨[], 2⟩ := rfl
  obtain ⟨limit, calls, size, made, bound, asks, -⟩ :=
    execute_scrolls tireless untiring none .unlimited compiled (by decide)
  obtain rfl : limit = 2 := (Int.ofNat.inj size).symm
  have logged : (untiring.execute tireless ⟨[], some 2, some "", ⟨0, 0⟩⟩ none
      .unlimited).2.connection.log.filterMap Event.call? = calls := made.logged
  refine ⟨calls, made, ?_, bound, asks⟩
  rw [← logged]
  decide +kernel

/-- A server that finds nothing. It names a scroll all the same. -/
def hitless : Server Unit where
  search _ _ _ := (.ok ⟨[], 0⟩, ())
  openScroll _ _ _ _ := (.ok (⟨[], 0⟩, .str "scroll"), ())
  scroll _ _ _ := (.ok ([], .str "scroll"), ())
  clearScroll _ _ := (.ok (), ())
  fieldCapabilities _ _ _ := (.error (.failed "none"), ())
  indices _ _ := (.ok [], ())

/-- Nothing comes with the scroll, and still it is asked for another batch. -/
theorem execute_hitless_scrollsOn : ∃ (fresh : Session Unit) (calls : List (Call Query)),
    Session.start .standard none () = .ok fresh ∧
    fresh.connection.Makes hitless calls
      (fresh.execute hitless ⟨[], some 10001, some "", ⟨0, 0⟩⟩ none .unlimited).2.connection ∧
    (hitless.deliveries () calls).map (fun delivery => delivery.documents.length) = [0, 0] := by
  refine ⟨_, _, start_standard none (), ⟨(List.nil_append _).symm, rfl⟩, ?_⟩
  decide +kernel

end Session

end FilterQuery
