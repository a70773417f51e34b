import FilterQuery.Proofs.Session.Act
import FilterQuery.Session.Retrieval

/-!
# Calls and the scrolls that their answers name

The calls that a connection makes between two moments, the states in which they find the server, and
the scrolls that the server names in its answers to them, in order.
-/

set_option autoImplicit false

namespace FilterQuery

open Server

variable {σ α : Type}

def Event.call? : Event → Option (Call Query)
  | .call made => some made
  | .pause _ => none

theorem filterMap_call?_pauses (pauses : List Binary64) :
    (pauses.map Event.pause).filterMap Event.call? = [] := by
  simp [List.filterMap_map, Function.comp_def, Event.call?]

/-- A call and the state in which it finds the server. -/
structure Exchange (σ : Type) where
  call : Call Query
  state : σ

namespace Server

def afterAll (server : Server σ) (state : σ) (calls : List (Call Query)) : σ :=
  calls.foldl server.after state

def exchanges (server : Server σ) : σ → List (Call Query) → List (Exchange σ)
  | _, [] => []
  | state, call :: calls => ⟨call, state⟩ :: exchanges server (server.after state call) calls

/-- The scroll that the answer to a call names, if it is the answer to a request for a batch. -/
def named? (server : Server σ) (exchange : Exchange σ) : Option ScrollId :=
  match exchange.call with
  | .openScroll index query keepAlive =>
      ((server.openScroll index query keepAlive exchange.state).1.toOption).map (·.2)
  | .scroll id keepAlive => ((server.scroll id keepAlive exchange.state).1.toOption).map (·.2)
  | .search .. | .clearScroll _ | .fieldCapabilities .. | .indices _ => none

/-- The scrolls that the answers to calls name, in order. -/
def named (server : Server σ) (state : σ) (calls : List (Call Query)) : List ScrollId :=
  (server.exchanges state calls).filterMap server.named?

variable (server : Server σ) (state : σ)

theorem exchanges_append (calls more : List (Call Query)) :
    server.exchanges state (calls ++ more) =
      server.exchanges state calls ++ server.exchanges (server.afterAll state calls) more := by
  induction calls generalizing state with
  | nil => rfl
  | cons call calls ih => exact congrArg _ (ih _)

theorem named_append (calls more : List (Call Query)) :
    server.named state (calls ++ more) =
      server.named state calls ++ server.named (server.afterAll state calls) more := by
  rw [named, exchanges_append, List.filterMap_append]
  rfl

theorem named_cons (call : Call Query) (calls : List (Call Query)) :
    server.named state (call :: calls) =
      (server.named? ⟨call, state⟩).toList ++ server.named (server.after state call) calls :=
  server.named_append state [call] calls

theorem map_call_exchanges (calls : List (Call Query)) :
    (server.exchanges state calls).map Exchange.call = calls := by
  induction calls generalizing state with
  | nil => rfl
  | cons call calls ih => exact congrArg _ (ih _)

theorem call_mem_of_exchange_mem {calls : List (Call Query)} {exchange : Exchange σ}
    (member : exchange ∈ server.exchanges state calls) : exchange.call ∈ calls := by
  rw [← server.map_call_exchanges state calls]
  exact List.mem_map_of_mem member

end Server

/-- An inquiry is made by its call, and in its answers a function finds the scrolls that the answers
to the call name. -/
structure Inquiry.Names (server : Server σ) (inquiry : Inquiry σ (Except Fault α))
    (scroll? : α → Option ScrollId) : Prop where
  after_eq : ∀ state, server.after state inquiry.call = (inquiry.send state).2
  named_eq : ∀ state, server.named? ⟨inquiry.call, state⟩ =
    (inquiry.send state).1.toOption.bind scroll?

namespace Connection

/-- Between two moments some calls are made, and no others. -/
structure Makes (server : Server σ) (first : Connection σ) (calls : List (Call Query))
    (last : Connection σ) : Prop where
  logged : last.log.filterMap Event.call? = first.log.filterMap Event.call? ++ calls
  reached : last.server = server.afterAll first.server calls

variable {server : Server σ} {connection first middle last : Connection σ}
  {calls more : List (Call Query)}

theorem Makes.refl : connection.Makes server [] connection :=
  ⟨(List.append_nil _).symm, rfl⟩

theorem Makes.trans (before : first.Makes server calls middle)
    (after : middle.Makes server more last) : first.Makes server (calls ++ more) last := by
  constructor
  · rw [after.logged, before.logged, List.append_assoc]
  · rw [after.reached, before.reached, afterAll, afterAll, afterAll, List.foldl_append]

theorem makes_await (patience : Pacing.Patience) :
    connection.Makes server [] (connection.await patience).2 := by
  constructor
  · simp only [await, List.filterMap_append, filterMap_call?_pauses]
  · rfl

theorem makes_perform (inquiry : Inquiry σ α)
    (after_eq : ∀ state, server.after state inquiry.call = (inquiry.send state).2) :
    connection.Makes server [inquiry.call] (connection.perform inquiry).2 := by
  constructor
  · simp [perform, Event.call?]
  · exact (after_eq connection.server).symm

/-- A request is its call, made a number of times. Only the answer that the request returns names a
scroll, since the attempts before it came too early. -/
theorem requestFrom_makes {inquiry : Inquiry σ (Except Fault α)} {scroll? : α → Option ScrollId}
    (names : inquiry.Names server scroll?) (patience : Pacing.Patience) (left attempt : Nat)
    (last : Option String) (connection : Connection σ) :
    ∃ count, count ≤ left ∧
      connection.Makes server (List.replicate count inquiry.call)
        (connection.requestFrom patience inquiry left attempt last).2 ∧
      server.named connection.server (List.replicate count inquiry.call) =
        ((connection.requestFrom patience inquiry left attempt last).1.toOption.bind
          fun found => scroll? found.1).toList := by
  induction left generalizing attempt last connection with
  | zero => exact ⟨0, Nat.le_refl _, .refl, rfl⟩
  | succ left ih =>
      simp only [requestFrom]
      have waits : connection.Makes server [] (connection.await patience).2 :=
        makes_await patience
      cases waited : connection.await patience with
      | mk failure ready =>
          rw [waited] at waits
          cases failure with
          | some error => exact ⟨0, Nat.zero_le _, waits, rfl⟩
          | none =>
              dsimp only
              have same : ready.server = connection.server := waits.reached
              cases performed : ready.perform inquiry with
              | mk answer answered =>
                  have sending : ready.Makes server [inquiry.call] answered := by
                    have sending := ready.makes_perform inquiry names.after_eq
                    rwa [performed] at sending
                  have made := waits.trans sending
                  have sent : (inquiry.send connection.server).1 = answer := by
                    rw [← same]
                    exact congrArg Prod.fst performed
                  have named := names.named_eq connection.server
                  rw [sent] at named
                  match answer with
                  | .ok found =>
                      refine ⟨1, by omega, ⟨made.logged, made.reached⟩, ?_⟩
                      rw [List.replicate_one, named_cons, named]
                      simp [Server.named, exchanges, Except.toOption]
                  | .error (.refused (.throttled message)) =>
                      obtain ⟨count, bound, later, found⟩ :=
                        ih (attempt + 1) (some message) answered.slowDown
                      have slowed : connection.Makes server [inquiry.call] answered.slowDown :=
                        ⟨made.logged, made.reached⟩
                      refine ⟨count + 1, by omega, slowed.trans later, ?_⟩
                      rw [List.replicate_succ, named_cons, named, ← found, slowed.reached]
                      rfl
                  | .error (.refused (.failed message)) =>
                      refine ⟨1, by omega, made, ?_⟩
                      rw [List.replicate_one, named_cons, named]
                      rfl
                  | .error (.malformed malformed) =>
                      refine ⟨1, by omega, made, ?_⟩
                      rw [List.replicate_one, named_cons, named]
                      rfl

theorem request_makes {terms : Terms} {inquiry : Inquiry σ (Except Fault α)}
    {scroll? : α → Option ScrollId} {result : Except RequestError (α × Nat)}
    {last : Connection σ} (names : inquiry.Names server scroll?)
    (requested : connection.request terms inquiry = (result, last)) :
    ∃ count, count ≤ terms.attempts ∧
      connection.Makes server (List.replicate count inquiry.call) last ∧
      server.named connection.server (List.replicate count inquiry.call) =
        (result.toOption.bind fun found => scroll? found.1).toList := by
  have makes := requestFrom_makes names terms.patience terms.attempts 1 none connection
  rw [request] at requested
  rwa [requested] at makes

end Connection

end FilterQuery
