import FilterQuery.Proofs.Session.Enactment
import Mathlib.Data.List.Infix

/-!
# Trials of requests

A request is tried a limited number of times: a trial ends when the wait before it fails, or when it
is sent and replied to. What a search says of its failure is laid beside the trials that it made.
Main statements: `Session.execute_undergoes` and `IsCourse.exhausts_iff`.
-/

set_option autoImplicit false

namespace FilterQuery

open Server Pacing

variable {σ α : Type}

/-- The fault that a server replies with to a search or scroll. -/
def Server.fault? (server : Server σ) (state : σ) : Call Query → Option Fault
  | .search index query => error? (server.search index query state).1
  | .openScroll index query keepAlive => error? (server.openScroll index query keepAlive state).1
  | .scroll id keepAlive => error? (server.scroll id keepAlive state).1
  | .clearScroll _ | .fieldCapabilities .. | .indices _ => none

/-- A search or scroll of a server, with its own way to answer it, faults included. -/
def Inquiry.IsHeard (server : Server σ) (inquiry : Inquiry σ (Except Fault α)) : Prop :=
  inquiry.IsPaced server ∧
    ∀ state, server.fault? state inquiry.call = error? (inquiry.send state).1

/-- A trial of a request: it is not sent as the wait before it fails, or it is sent, and replied to
without or with a fault. -/
inductive Trial where
  | unsent (error : WaitError)
  | sent (call : Call Query) (fault : Option Fault)

namespace Trial

/-- What a request fails with after a trial, unless it is tried again. -/
def failure? : Trial → Option RequestError
  | .unsent error => some (.wait error)
  | .sent _ (some (.refused (.failed message))) => some (.failed message)
  | .sent _ (some (.malformed malformed)) => some (.malformed malformed)
  | .sent _ (some (.refused (.throttled _))) | .sent _ none => none

/-- The call came too early. -/
def IsThrottle (call : Call Query) (trial : Trial) : Prop :=
  ∃ message, trial = .sent call (some (.refused (.throttled message)))

end Trial

/-- The trials of a request with so many left, and what it fails with. It is tried again exactly
when it came too early. -/
inductive IsRequest (call : Call Query) : Nat → List Trial → Option RequestError → Prop where
  | exhausted {last : Option String} : IsRequest call 0 [] (some (.exhausted last))
  | unsent {left : Nat} {error : WaitError} :
      IsRequest call (left + 1) [.unsent error] (some (.wait error))
  | answered {left : Nat} : IsRequest call (left + 1) [.sent call none] none
  | failed {left : Nat} {message : String} :
      IsRequest call (left + 1) [.sent call (some (.refused (.failed message)))]
        (some (.failed message))
  | malformed {left : Nat} {malformed : Malformed} :
      IsRequest call (left + 1) [.sent call (some (.malformed malformed))]
        (some (.malformed malformed))
  | throttled {left : Nat} {message : String} {trials : List Trial}
      {outcome : Option RequestError} : IsRequest call left trials outcome →
      IsRequest call (left + 1) (.sent call (some (.refused (.throttled message))) :: trials)
        outcome

/-- The trials of requests one after the other, the last of which fails. -/
inductive IsCourse (attempts : Nat) : List Trial → RequestError → Prop where
  | fails {call : Call Query} {trials : List Trial} {error : RequestError} :
      IsRequest call attempts trials (some error) → IsCourse attempts trials error
  | answered {call : Call Query} {trials rest : List Trial} {error : RequestError} :
      IsRequest call attempts trials none → IsCourse attempts rest error →
      IsCourse attempts (trials ++ rest) error

namespace Connection

/-- Trials are made on a connection and lead to another one. -/
inductive Undergoes (server : Server σ) (patience : Patience) :
    Connection σ → List Trial → Connection σ → Prop where
  | done {connection : Connection σ} : Undergoes server patience connection [] connection
  | unsent {connection refused last : Connection σ} {error : WaitError} {trials : List Trial} :
      connection.await patience = (some error, refused) →
      Undergoes server patience refused trials last →
      Undergoes server patience connection (.unsent error :: trials) last
  | sent {connection ready last : Connection σ} {call : Call Query} {trials : List Trial} :
      connection.await patience = (none, ready) → call.isPaced = true →
      Undergoes server patience (ready.send server call) trials last →
      Undergoes server patience connection (.sent call (server.fault? ready.server call) :: trials)
        last

variable {server : Server σ} {patience : Patience} {connection : Connection σ}

theorem Undergoes.trans {first middle last : Connection σ} {trials more : List Trial}
    (before : first.Undergoes server patience trials middle)
    (after : middle.Undergoes server patience more last) :
    first.Undergoes server patience (trials ++ more) last := by
  induction before with
  | done => exact after
  | unsent waited _ ih => exact .unsent waited (ih after)
  | sent waited paced _ ih => exact .sent waited paced (ih after)

theorem undergoes_sent {inquiry : Inquiry σ (Except Fault α)} {answer : Except Fault α}
    {ready answered last : Connection σ} {trials : List Trial} (heard : inquiry.IsHeard server)
    (waited : connection.await patience = (none, ready))
    (performed : ready.perform inquiry = (answer, answered))
    (rest : { answered with pacer := answered.pacer.hear (.of answer) }.Undergoes server patience
      trials last) :
    connection.Undergoes server patience (.sent inquiry.call (error? answer) :: trials) last := by
  obtain ⟨paced, faults⟩ := heard
  have fault : server.fault? ready.server inquiry.call = error? answer := by
    rw [faults]
    exact congrArg error? (congrArg Prod.fst performed)
  rw [← fault]
  rw [← send_of_perform paced performed] at rest
  exact .sent waited (paced.isPaced_call ready.server) rest

theorem requestFrom_undergoes {inquiry : Inquiry σ (Except Fault α)}
    (heard : inquiry.IsHeard server) (left attempt : Nat) (last : Option String) :
    ∃ trials,
      IsRequest inquiry.call left trials
        (error? (connection.requestFrom patience inquiry left attempt last).1) ∧
      connection.Undergoes server patience trials
        (connection.requestFrom patience inquiry left attempt last).2 := by
  -- Only a request that came too early has trials after its first one: those of the next attempt.
  induction left generalizing connection attempt last with
  | zero => exact ⟨[], .exhausted, .done⟩
  | succ left ih =>
      simp only [requestFrom]
      cases waited : connection.await patience with
      | mk failure ready =>
          cases failure with
          | some error => exact ⟨[.unsent error], .unsent, .unsent waited .done⟩
          | none =>
              dsimp only
              cases performed : ready.perform inquiry with
              | mk answer answered =>
                  rcases answer with ((message | message) | malformed) | value
                  · obtain ⟨trials, isRequest, undergoes⟩ := ih (attempt + 1) (some message)
                    exact ⟨_, .throttled isRequest, undergoes_sent heard waited performed undergoes⟩
                  · exact ⟨_, .failed, undergoes_sent heard waited performed .done⟩
                  · exact ⟨_, .malformed, undergoes_sent heard waited performed .done⟩
                  · exact ⟨_, .answered, undergoes_sent heard waited performed .done⟩

theorem request_undergoes {terms : Terms} {inquiry : Inquiry σ (Except Fault α)}
    {result : Except RequestError (α × Nat)} {last : Connection σ}
    (heard : inquiry.IsHeard server)
    (requested : connection.request terms inquiry = (result, last)) :
    ∃ trials, IsRequest inquiry.call terms.attempts trials (error? result) ∧
      connection.Undergoes server terms.patience trials last := by
  have undergoes : ∃ trials,
      IsRequest inquiry.call terms.attempts trials (error? (connection.request terms inquiry).1) ∧
      connection.Undergoes server terms.patience trials (connection.request terms inquiry).2 :=
    requestFrom_undergoes heard terms.attempts 1 none
  rwa [requested] at undergoes

theorem isHeard_scroll (id : ScrollId) (keepAlive : String) :
    Inquiry.IsHeard server ⟨.scroll id keepAlive, server.scroll id keepAlive⟩ :=
  ⟨isPaced_scroll id keepAlive, fun _ => rfl⟩

/-- A collection that fails is a course of requests. -/
theorem collect_undergoes {terms : Terms} {keepAlive : String} {limit : Nat}
    {collection final : Collection} {error : RequestError} {last : Connection σ}
    (stopped : connection.collect server terms keepAlive limit collection =
      (some error, final, last)) :
    ∃ trials, IsCourse terms.attempts trials error ∧
      connection.Undergoes server terms.patience trials last := by
  induction collection, connection using
      Connection.collect.induct server terms keepAlive limit with
  | case1 collection connection wants failure refused requested =>
      rw [collect, if_pos wants, requested] at stopped
      cases stopped
      obtain ⟨trials, isRequest, undergoes⟩ := request_undergoes (isHeard_scroll _ _) requested
      exact ⟨trials, .fails isRequest, undergoes⟩
  | case2 collection connection wants batch id attempts answered requested empty =>
      rw [collect, if_pos wants, requested] at stopped
      simp only [empty, ↓reduceIte] at stopped
      cases stopped
  | case3 collection connection wants batch id attempts answered requested next filled ih =>
      rw [collect, if_pos wants, requested] at stopped
      simp only [filled] at stopped
      obtain ⟨trials, isRequest, undergoes⟩ := request_undergoes (isHeard_scroll _ _) requested
      obtain ⟨rest, isCourse, continues⟩ := ih stopped
      exact ⟨trials ++ rest, .answered isRequest isCourse, undergoes.trans continues⟩
  | case4 collection connection enough =>
      rw [collect, if_neg enough] at stopped
      cases stopped

theorem release_null : connection.release server .null = connection :=
  rfl

/-- Batches that are not retrieved were a course of requests, and then a scroll may be cleared. -/
theorem retrieveBatches_undergoes {settings : SearchSettings} {terms : Terms} {index : String}
    {query : Query} {error : RequestError} {last : Connection σ}
    (stopped : connection.retrieveBatches server settings terms index query =
      (.error error, last)) :
    ∃ trials ended id, IsCourse terms.attempts trials error ∧
      connection.Undergoes server terms.patience trials ended ∧ last = ended.release server id := by
  simp only [retrieveBatches] at stopped
  split at stopped
  · next failure refused requested =>
      cases stopped
      obtain ⟨trials, isRequest, undergoes⟩ :=
        request_undergoes ⟨fun _ => ⟨rfl, rfl⟩, fun _ => rfl⟩ requested
      exact ⟨trials, _, .null, .fails isRequest, undergoes, release_null.symm⟩
  · next page id attempts opened requested =>
      obtain ⟨trials, isRequest, undergoes⟩ :=
        request_undergoes ⟨fun _ => ⟨rfl, rfl⟩, fun _ => rfl⟩ requested
      split at stopped
      · next failure collection ended collected =>
          cases stopped
          obtain ⟨rest, isCourse, continues⟩ := collect_undergoes collected
          exact ⟨trials ++ rest, ended, collection.id, .answered isRequest isCourse,
            undergoes.trans continues, rfl⟩
      · cases stopped

theorem retrieve_undergoes {settings : SearchSettings} {terms : Terms} {index : String}
    {query : Query} {error : RequestError} {last : Connection σ}
    (stopped : connection.retrieve server settings terms index query = (.error error, last)) :
    ∃ trials ended id, IsCourse terms.attempts trials error ∧
      connection.Undergoes server terms.patience trials ended ∧ last = ended.release server id := by
  rw [retrieve] at stopped
  split at stopped
  · exact retrieveBatches_undergoes stopped
  · split at stopped
    · next failure refused requested =>
        cases stopped
        obtain ⟨trials, isRequest, undergoes⟩ :=
          request_undergoes ⟨fun _ => ⟨rfl, rfl⟩, fun _ => rfl⟩ requested
        exact ⟨trials, _, .null, .fails isRequest, undergoes, release_null.symm⟩
    · cases stopped

end Connection

/-- A search that fails has made a course of requests; at its end a scroll may be cleared. -/
theorem Session.execute_undergoes {server : Server σ} {session after : Session σ}
    {demand : Demand} {index : Option String} {patience : Patience} {error : RequestError}
    (failed : session.execute server demand index patience = (.error (.request error), after)) :
    ∃ trials ended id,
      IsCourse session.config.search.maxRetries.toNat trials error ∧
      session.connection.Undergoes server patience trials ended ∧
      after = { session with connection := ended.release server id } := by
  obtain ⟨fault, refused, stopped⟩ | ⟨query, compiled, ⟨failure, connection, retrieved, stopped⟩ |
    ⟨retrieved, connection, succeeded, ended⟩⟩ :=
    execute_cases server session demand index patience
  · rw [stopped] at failed
    cases failed
  · rw [stopped] at failed
    cases failed
    obtain ⟨trials, ended, id, isCourse, undergoes, rfl⟩ :=
      Connection.retrieve_undergoes retrieved
    exact ⟨trials, ended, id, isCourse, undergoes, rfl⟩
  · rw [ended] at failed
    cases failed

section Course

variable {call : Call Query} {attempts : Nat} {trials : List Trial} {error : RequestError}
  {outcome : Option RequestError}

/-- The failure that is reported, but for that of a request that always came too early. -/
def RequestError.atOnce? : RequestError → Option RequestError
  | .exhausted _ => none
  | error => some error

/-- Trials fail at most once, at their end, and this is what is reported. -/
theorem IsRequest.failures_eq (isRequest : IsRequest call attempts trials outcome) :
    trials.filterMap Trial.failure? = (outcome.bind RequestError.atOnce?).toList := by
  induction isRequest with
  | exhausted => rfl
  | unsent => rfl
  | answered => rfl
  | failed => rfl
  | malformed => rfl
  | throttled _ ih => exact ih

theorem IsCourse.failures_eq (isCourse : IsCourse attempts trials error) :
    trials.filterMap Trial.failure? = error.atOnce?.toList := by
  induction isCourse with
  | fails isRequest => exact isRequest.failures_eq
  | answered isRequest _ ih => rw [List.filterMap_append, isRequest.failures_eq, ih]; rfl

/-- So many times in a row one call came too early. -/
def Exhausts (attempts : Nat) (trials : List Trial) : Prop :=
  ∃ call run, run <:+: trials ∧ run.length = attempts ∧ ∀ trial ∈ run, trial.IsThrottle call

/-- Whenever it is tried again a request came too early, and a request that does not come too early
every time ends with a trial that does not. -/
theorem IsRequest.cases_exhausted (isRequest : IsRequest call attempts trials outcome) :
    ((∃ last, outcome = some (.exhausted last)) ∧ trials.length = attempts ∧
      ∀ trial ∈ trials, trial.IsThrottle call) ∨
    (∀ last, outcome ≠ some (.exhausted last)) ∧
      ∃ run trial, trials = run ++ [trial] ∧ run.length < attempts ∧
        ∀ call, ¬trial.IsThrottle call := by
  induction isRequest with
  | exhausted => exact .inl ⟨⟨_, rfl⟩, rfl, by simp⟩
  | unsent | answered | failed | malformed => exact .inr ⟨nofun, [], _, rfl, Nat.succ_pos _, nofun⟩
  | throttled _ ih =>
      rcases ih with ⟨same, full, throttles⟩ | ⟨other, run, trial, rfl, short, isLast⟩
      · refine .inl ⟨same, by simp [full], ?_⟩
        intro trial member
        rcases List.mem_cons.mp member with rfl | member
        · exact ⟨_, rfl⟩
        · exact throttles trial member
      · exact .inr ⟨other, _ :: run, trial, rfl, Nat.succ_lt_succ short, isLast⟩

/-- Items that follow each other lie on one side of an item that is not among them. -/
theorem infix_append_cons {β : Type} {part before after : List β} {item : β}
    (within : part <:+: before ++ item :: after) (free : item ∉ part) :
    part <:+: before ∨ part <:+: after := by
  rcases List.infix_append_iff.mp within with within | within |
    ⟨first, second, rfl, isSuffix, isPrefix⟩
  · exact .inl within
  · rcases List.infix_cons_iff.mp within with isPrefix | within
    · rcases List.prefix_cons_iff.mp isPrefix with rfl | ⟨rest, rfl, _⟩
      · exact .inl List.nil_infix
      · exact absurd List.mem_cons_self free
    · exact .inr within
  · rcases List.prefix_cons_iff.mp isPrefix with rfl | ⟨rest, rfl, _⟩
    · rw [List.append_nil]
      exact .inl isSuffix.isInfix
    · exact absurd (List.mem_append_right first List.mem_cons_self) free

/-- A trial that is no throttle keeps apart what is before it from what is after it. -/
theorem exhausts_append_cons_iff {run rest : List Trial} {trial : Trial}
    (short : run.length < attempts) (other : ∀ call, ¬trial.IsThrottle call) :
    Exhausts attempts (run ++ trial :: rest) ↔ Exhausts attempts rest := by
  constructor
  · intro exhausts
    obtain ⟨call, throttles, within, full, areThrottles⟩ := exhausts
    have free : trial ∉ throttles := fun member => other call (areThrottles trial member)
    rcases infix_append_cons within free with within | within
    · have long := within.length_le
      omega
    · exact ⟨call, throttles, within, full, areThrottles⟩
  · intro exhausts
    obtain ⟨call, throttles, within, full, areThrottles⟩ := exhausts
    have later : rest <:+: run ++ trial :: rest :=
      (List.suffix_append_of_suffix (List.suffix_cons trial rest)).isInfix
    exact ⟨call, throttles, within.trans later, full, areThrottles⟩

theorem not_exhausts_nil (positive : 0 < attempts) : ¬Exhausts attempts [] := by
  rintro ⟨call, throttles, within, full, -⟩
  rw [List.infix_nil.mp within, List.length_nil] at full
  omega

/-- A request that is answered does not exhaust its attempts, so a course exhausts them exactly when
its last request does. -/
theorem IsCourse.exhausts_iff (isCourse : IsCourse attempts trials error) :
    Exhausts attempts trials ↔ ∃ last, error = .exhausted last := by
  induction isCourse with
  | fails isRequest =>
      rcases isRequest.cases_exhausted with ⟨⟨last, same⟩, full, throttles⟩ |
        ⟨different, run, trial, rfl, short, other⟩
      · exact iff_of_true ⟨_, _, List.infix_rfl, full, throttles⟩ ⟨last, Option.some.inj same⟩
      · refine iff_of_false ?_ ?_
        · rw [exhausts_append_cons_iff short other]
          exact not_exhausts_nil (Nat.zero_lt_of_lt short)
        · rintro ⟨last, rfl⟩
          exact different last rfl
  | answered isRequest isCourse ih =>
      rcases isRequest.cases_exhausted with ⟨⟨last, same⟩, -⟩ |
        ⟨-, run, trial, rfl, short, other⟩
      · cases same
      · rw [List.append_assoc, List.singleton_append, exhausts_append_cons_iff short other, ih]

theorem RequestError.eq_of_atOnce? {failure : RequestError}
    (same : error.atOnce? = some failure) : error = failure := by
  cases error with
  | exhausted _ => cases same
  | wait _ | failed _ | malformed _ => exact Option.some.inj same

theorem Trial.failure?_eq_wait_iff {trial : Trial} {reason : WaitError} :
    trial.failure? = some (.wait reason) ↔ trial = .unsent reason := by
  cases trial with
  | unsent other => simp [failure?]
  | sent call fault =>
      refine iff_of_false (fun same => ?_) nofun
      match fault with
      | none | some (.refused (.throttled _)) | some (.refused (.failed _))
      | some (.malformed _) => cases same

theorem Trial.failure?_eq_failed_iff {trial : Trial} {message : String} :
    trial.failure? = some (.failed message) ↔
      ∃ call, trial = .sent call (some (.refused (.failed message))) := by
  cases trial with
  | unsent other => simp [failure?]
  | sent call fault =>
      match fault with
      | none | some (.refused (.throttled _)) | some (.refused (.failed _))
      | some (.malformed _) => simp [failure?]

/-- A failure that is reported is that of a trial, unless the request came too early every time. -/
theorem IsCourse.exists_failure_iff (isCourse : IsCourse attempts trials error)
    {failure : RequestError} (reported : failure.atOnce? = some failure) :
    (∃ trial ∈ trials, trial.failure? = some failure) ↔ error = failure := by
  rw [← List.mem_filterMap, isCourse.failures_eq, Option.mem_toList]
  constructor
  · exact RequestError.eq_of_atOnce?
  · rintro rfl
    exact reported

theorem IsCourse.unsent_mem_iff (isCourse : IsCourse attempts trials error) {reason : WaitError} :
    .unsent reason ∈ trials ↔ error = .wait reason := by
  rw [← isCourse.exists_failure_iff rfl]
  simp only [Trial.failure?_eq_wait_iff, exists_eq_right]

theorem IsCourse.failed_mem_iff (isCourse : IsCourse attempts trials error) {message : String} :
    (∃ call, .sent call (some (.refused (.failed message))) ∈ trials) ↔
      error = .failed message := by
  rw [← isCourse.exists_failure_iff rfl]
  simp only [Trial.failure?_eq_failed_iff]
  constructor
  · rintro ⟨call, member⟩
    exact ⟨_, member, call, rfl⟩
  · rintro ⟨trial, member, call, rfl⟩
    exact ⟨call, member⟩

end Course

end FilterQuery
