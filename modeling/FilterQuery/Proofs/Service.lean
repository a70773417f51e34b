import FilterQuery.Proofs.Query.Form
import FilterQuery.Proofs.Session.Trials
import FilterQuery.Proofs.Text.Order
import FilterQuery.Service.Basic

/-!
# What a service answers

A body is compiled into a query that is only shown, or into one that is searched with, and a search
that fails is answered as throttled, or as failed. Main statements: `preview_agrees_iff` says when
the preview of a query agrees with the session; `search_status_iff` says from the trials that were
made which of the two a search that fails is answered as.
-/

set_option autoImplicit false

namespace FilterQuery.Service

open Server Pacing Number FilterQuery.Field FilterQuery.Filter

variable {σ : Type}

/-- A server that refuses all searches in the same way. -/
def refusing (refusal : Refusal) : Server Unit where
  search _ _ state := (.error (.refused refusal), state)
  openScroll _ _ _ state := (.error (.refused refusal), state)
  scroll _ _ state := (.error (.refused refusal), state)
  clearScroll _ state := (.ok (), state)
  fieldCapabilities _ _ state := (.error refusal, state)
  indices _ state := (.error (.refused refusal), state)

/-- A session that has not searched yet. -/
def newcomer : Session Unit :=
  ⟨.standard, "*", .empty, .start Config.standard.pacing ()⟩

section Preview

/-- No query is compiled, and the error is one that is worded for who asked. -/
inductive IsRefused : Except QueryFault Query → Prop where
  | query {error : QueryError} : IsRefused (.error (.query error))
  | timeframe {error : TimeframeError} : IsRefused (.error (.timeframe error))

def Response.IsRefusal (response : Response) : Prop :=
  ∃ detail, response = failed 400 detail

/-- The preview of a body shows the query that the session compiles, and what the session refuses
is refused by the preview and by the search. -/
structure PreviewAgrees (server : Server σ) (clock : WallClock) (session : Session σ)
    (body : SearchBody) (now : Moment) : Prop where
  shows : ∀ query, compile clock session.catalog.cache body.compile =
      .answered 200 (.obj [("query", query.toJson)]) ↔
    session.compile (body.demand now) = .ok query
  refuses : IsRefused (session.compile (body.demand now)) →
    (compile clock session.catalog.cache body.compile).IsRefusal ∧
      (search server clock session body).1.IsRefusal

variable {server : Server σ} {clock : WallClock} {session : Session σ} {cache : Cache}
  {body : SearchBody} {now : Moment} {fault : QueryFault} {query : Query}

theorem isRefusal_queryFailed_iff {detail : String → List (Nat × Error) → Json} :
    (queryFailed detail fault).IsRefusal ↔ IsRefused (.error fault) := by
  cases fault with
  | query error => exact iff_of_true ⟨_, rfl⟩ .query
  | timeframe error => exact iff_of_true ⟨_, rfl⟩ .timeframe
  | broken breakdown => exact iff_of_false nofun nofun

theorem queryFailed_ne_answered {detail : String → List (Nat × Error) → Json} {shown : Json} :
    queryFailed detail fault ≠ .answered 200 shown := by
  cases fault <;> simp [queryFailed, failed]

/-- The query of what a body asks for, without a limit for its size. -/
def SearchBody.build (body : SearchBody) (cache : Cache) (now : Moment) :
    Except QueryFault Query :=
  Query.build body.compile.filters body.compile.size body.compile.timeframe cache now

theorem compile_eq_answered_iff (time : referenceTime clock body.compile.now = .ok now) :
    compile clock cache body.compile = .answered 200 (.obj [("query", query.toJson)]) ↔
      body.build cache now = .ok query := by
  rw [compile, time, SearchBody.build]
  dsimp only
  split
  · next other built =>
      rw [built]
      constructor
      · intro shown
        have forms : other.toJson = query.toJson := by simpa [succeeded] using shown
        rw [Query.toJson_injective forms]
      · intro same
        rw [Except.ok.inj same]
        rfl
  · next fault built =>
      rw [built]
      exact iff_of_false queryFailed_ne_answered nofun

theorem compile_isRefusal_iff (time : referenceTime clock body.compile.now = .ok now) :
    (compile clock cache body.compile).IsRefusal ↔ IsRefused (body.build cache now) := by
  rw [compile, time, SearchBody.build]
  dsimp only
  split
  · next built =>
      rw [built]
      exact iff_of_false nofun nofun
  · next built =>
      rw [built]
      exact isRefusal_queryFailed_iff

theorem search_isRefusal (time : referenceTime clock body.compile.now = .ok now)
    (refused : IsRefused (session.compile (body.demand now))) :
    (search server clock session body).1.IsRefusal := by
  obtain ⟨fault, compiled⟩ : ∃ fault, session.compile (body.demand now) = .error fault := by
    cases compiled : session.compile (body.demand now) with
    | error fault => exact ⟨fault, rfl⟩
    | ok query =>
        rw [compiled] at refused
        cases refused
  have executed : session.execute server (body.demand now) body.index ⟨none, body.timeout⟩ =
      (.error (.query fault), session) := by
    rw [Session.execute, compiled]
  rw [compiled] at refused
  rw [search, time]
  simp only [executed, searchFailed]
  exact isRefusal_queryFailed_iff.mpr refused

theorem compile_of_large (large : session.config.search.maxResults < body.compile.size) :
    session.compile (body.demand now) =
      .error (.ofError (.sizeTooLarge body.compile.size session.config.search.maxResults)) :=
  if_pos large

theorem compile_of_not_large (small : ¬session.config.search.maxResults < body.compile.size) :
    session.compile (body.demand now) = body.build session.catalog.cache now :=
  if_neg small

theorem isRefused_sizeTooLarge_iff {size most : Int} :
    IsRefused (.error (.ofError (.sizeTooLarge size most))) ↔
      isWritable size = true ∧ isWritable most = true := by
  rw [QueryFault.ofError]
  simp only [QueryError.shownIntegers]
  split
  · next none =>
      have both : isWritable size = true ∧ isWritable most = true := by simpa using none
      exact iff_of_true .query both
  · next shown some =>
      refine iff_of_false (fun refused => ?_) fun both => ?_
      · cases refused
      · simp [both.1, both.2] at some

/-- The preview of a body agrees with the session but for a size above the limit of the
configuration: then it agrees if what is asked for is refused for another reason as well. Where the
numbers of the session's refusal cannot be written, it is enough that there is no query. -/
theorem preview_agrees_iff (time : referenceTime clock body.compile.now = .ok now) :
    PreviewAgrees server clock session body now ↔
      (session.config.search.maxResults < body.compile.size →
        (∀ query, body.build session.catalog.cache now ≠ .ok query) ∧
        (isWritable body.compile.size = true → isWritable session.config.search.maxResults = true →
          IsRefused (body.build session.catalog.cache now))) := by
  constructor
  · intro agrees large
    refine ⟨fun query built => ?_, fun size most => ?_⟩
    · have shown := (agrees.shows query).mp ((compile_eq_answered_iff time).mpr built)
      rw [compile_of_large large] at shown
      cases shown
    · have refused := isRefused_sizeTooLarge_iff.mpr ⟨size, most⟩
      rw [← compile_of_large large] at refused
      exact (compile_isRefusal_iff time).mp (agrees.refuses refused).1
  · intro apart
    by_cases large : session.config.search.maxResults < body.compile.size
    · obtain ⟨unbuilt, refused⟩ := apart large
      refine ⟨fun query => iff_of_false (fun shown => ?_) (fun same => ?_), fun refusal => ?_⟩
      · exact unbuilt query ((compile_eq_answered_iff time).mp shown)
      · rw [compile_of_large large] at same
        cases same
      · refine ⟨?_, search_isRefusal time refusal⟩
        rw [compile_of_large large, isRefused_sizeTooLarge_iff] at refusal
        exact (compile_isRefusal_iff time).mpr (refused refusal.1 refusal.2)
    · refine ⟨fun query => ?_, fun refusal => ⟨?_, search_isRefusal time refusal⟩⟩
      · rw [compile_of_not_large large]
        exact compile_eq_answered_iff time
      · rw [compile_of_not_large large] at refusal
        exact (compile_isRefusal_iff time).mpr refusal

/-- The token is refused by both, so it does not matter that the size is above the limit. -/
theorem preview_agrees_badToken :
    let clock : WallClock := ⟨0, ⟨0, 0⟩⟩
    let body : SearchBody := ⟨⟨["status"], 50001, "", none⟩, none, none⟩
    referenceTime clock body.compile.now = .ok ⟨0, 0⟩ ∧
      PreviewAgrees (refusing (.failed "down")) clock newcomer body ⟨0, 0⟩ := by
  intro clock body
  have rejected : body.build newcomer.catalog.cache ⟨0, 0⟩ =
      .error (.query (.filters [(0, ⟨"status", .noOperator⟩)])) :=
    error?_eq_some_iff.mp (by decide +kernel)
  refine ⟨rfl, (preview_agrees_iff rfl).mpr fun _ => ?_⟩
  rw [rejected]
  exact ⟨nofun, fun _ _ => .query⟩

/-- A body above the limit has a preview, although the session and the search refuse it. -/
theorem preview_tooLarge_shown :
    let clock : WallClock := ⟨0, ⟨0, 0⟩⟩
    let body : SearchBody := ⟨⟨[], 50001, "", none⟩, none, none⟩
    compile clock newcomer.catalog.cache body.compile =
        .answered 200 (.obj [("query", (⟨[], 50001⟩ : Query).toJson)]) ∧
      newcomer.compile (body.demand ⟨0, 0⟩) = .error (.query (.sizeTooLarge 50001 50000)) ∧
      (search (refusing (.failed "down")) clock newcomer body).1.IsRefusal := by
  intro clock body
  have built : body.build newcomer.catalog.cache ⟨0, 0⟩ = .ok ⟨[], 50001⟩ := rfl
  have refused : newcomer.compile (body.demand ⟨0, 0⟩) =
      .error (.query (.sizeTooLarge 50001 50000)) :=
    error?_eq_some_iff.mp (by decide +kernel)
  refine ⟨(compile_eq_answered_iff rfl).mpr built, refused, search_isRefusal rfl ?_⟩
  rw [refused]
  exact .query

end Preview

section Throttling

/-- A wait before a request was cancelled, or it took longer than it may. -/
def WaitFails (trials : List Trial) : Prop :=
  .unsent .cancelled ∈ trials ∨ ∃ timeout, .unsent (.timedOut timeout) ∈ trials

/-- A server replied with a failure whose message speaks of exhausted retries. -/
def SaysExhausted (trials : List Trial) : Prop :=
  ∃ message, (∃ call, .sent call (some (.refused (.failed message))) ∈ trials) ∧
    saysExhausted message = true

variable {server : Server σ} {clock : WallClock} {session after : Session σ}
  {body : SearchBody} {now : Moment} {error : RequestError} {attempts : Nat} {trials : List Trial}

theorem saysExhausted_exhausted (last : Option String) :
    saysExhausted (RequestError.exhausted last).message = true := by
  -- The equations of `message` are not used: to make them is slow.
  have worded : (RequestError.exhausted last).message =
      "max retries exceeded: " ++ last.getD "None" := by
    unfold RequestError.message
    dsimp only
  rw [saysExhausted, Text.contains_iff, worded, String.toList_append]
  have phrase : "max retries exceeded: ".toList = "max retries exceeded".toList ++ [':', ' '] := by
    decide
  rw [phrase, List.append_assoc]
  exact (List.prefix_append _ _).isInfix

theorem waitFails_iff (isCourse : IsCourse attempts trials error) (ends : error ≠ .wait .endless) :
    WaitFails trials ↔ ∃ reason, error = .wait reason := by
  simp only [WaitFails, isCourse.unsent_mem_iff]
  constructor
  · rintro (rfl | ⟨timeout, rfl⟩) <;> exact ⟨_, rfl⟩
  · rintro ⟨reason, rfl⟩
    cases reason with
    | cancelled => exact .inl rfl
    | timedOut timeout => exact .inr ⟨timeout, rfl⟩
    | endless => exact absurd rfl ends

theorem saysExhausted_iff (isCourse : IsCourse attempts trials error) :
    SaysExhausted trials ↔ ∃ message, error = .failed message ∧ saysExhausted message = true := by
  simp only [SaysExhausted, isCourse.failed_mem_iff]

theorem search_eq_searchFailed (time : referenceTime clock body.compile.now = .ok now)
    (failed : session.execute server (body.demand now) body.index ⟨none, body.timeout⟩ =
      (.error (.request error), after)) :
    (search server clock session body).1 = searchFailed (.request error) := by
  rw [search, time]
  simp only [failed]

/-- The status of a search that fails tells throttling from other failures, but for a failure whose
message speaks of exhausted retries: it is answered as throttling. -/
theorem search_status_iff (time : referenceTime clock body.compile.now = .ok now)
    (failed : session.execute server (body.demand now) body.index ⟨none, body.timeout⟩ =
      (.error (.request error), after))
    (ends : error ≠ .wait .endless) (wellFormed : ∀ malformed, error ≠ .malformed malformed) :
    ∃ trials ended id status,
      IsCourse session.config.search.maxRetries.toNat trials error ∧
      session.connection.Undergoes server ⟨none, body.timeout⟩ trials ended ∧
      after = { session with connection := ended.release server id } ∧
      (search server clock session body).1 = failedText status error.message ∧
      (status = 429 ∨ status = 502) ∧
      (status = 429 ↔ WaitFails trials ∨
        Exhausts session.config.search.maxRetries.toNat trials ∨ SaysExhausted trials) := by
  obtain ⟨trials, ended, id, isCourse, undergoes, left⟩ := Session.execute_undergoes failed
  rw [search_eq_searchFailed time failed]
  cases error with
  | wait reason =>
      refine ⟨trials, ended, id, 429, isCourse, undergoes, left, rfl, .inl rfl, ?_⟩
      exact iff_of_true rfl (.inl ((waitFails_iff isCourse ends).mpr ⟨reason, rfl⟩))
  | failed message =>
      refine ⟨trials, ended, id, if saysExhausted message then 429 else 502, isCourse, undergoes,
        left, rfl, ?_, ?_⟩
      · split
        · exact .inl rfl
        · exact .inr rfl
      · rw [waitFails_iff isCourse ends, isCourse.exhausts_iff, saysExhausted_iff isCourse]
        cases phrased : saysExhausted message <;> simp [phrased]
  | exhausted last =>
      refine ⟨trials, ended, id, 429, isCourse, undergoes, left, ?_, .inl rfl, ?_⟩
      · have reported : searchFailed (.request (.exhausted last)) =
            failedText (if saysExhausted (RequestError.exhausted last).message then 429 else 502)
              (RequestError.exhausted last).message := rfl
        rw [reported, if_pos (saysExhausted_exhausted last)]
      · exact iff_of_true rfl (.inr (.inl (isCourse.exhausts_iff.mpr ⟨last, rfl⟩)))
  | malformed malformed => exact absurd rfl (wellFormed malformed)

theorem search_status_overloaded :
    let overloaded := refusing (.throttled "busy")
    let clock : WallClock := ⟨0, ⟨0, 0⟩⟩
    let body : SearchBody := ⟨⟨[], 20, "", none⟩, none, none⟩
    ∃ after, newcomer.execute overloaded (body.demand ⟨0, 0⟩) body.index ⟨none, body.timeout⟩ =
        (.error (.request (.exhausted (some "busy"))), after) ∧
      ∃ trials ended id status,
        IsCourse newcomer.config.search.maxRetries.toNat trials (.exhausted (some "busy")) ∧
        newcomer.connection.Undergoes overloaded ⟨none, body.timeout⟩ trials ended ∧
        after = { newcomer with connection := ended.release overloaded id } ∧
        (search overloaded clock newcomer body).1 =
          failedText status "max retries exceeded: busy" ∧
        (status = 429 ∨ status = 502) ∧
        (status = 429 ↔ WaitFails trials ∨
          Exhausts newcomer.config.search.maxRetries.toNat trials ∨ SaysExhausted trials) := by
  intro overloaded clock body
  have compiled : newcomer.compile (body.demand ⟨0, 0⟩) = .ok ⟨[], 20⟩ := rfl
  obtain ⟨after, executed⟩ :
      ∃ after, newcomer.execute overloaded (body.demand ⟨0, 0⟩) body.index ⟨none, body.timeout⟩ =
        (.error (.request (.exhausted (some "busy"))), after) :=
    Session.exists_execute_of_retrieve compiled (error?_eq_some_iff.mp (by decide +kernel))
  exact ⟨after, executed, search_status_iff rfl executed nofun nofun⟩

/-- A failure that quotes the words for exhausted retries is answered as throttling, although no
wait failed and nothing was throttled. -/
theorem search_quotedFailure_throttled :
    let message := "search error: max retries exceeded elsewhere"
    let quoting := refusing (.failed message)
    let body : SearchBody := ⟨⟨[], 20, "", none⟩, none, none⟩
    (search quoting ⟨0, ⟨0, 0⟩⟩ newcomer body).1 = failedText 429 message ∧
      ∃ trials ended, newcomer.connection.Undergoes quoting ⟨none, body.timeout⟩ trials ended ∧
        IsCourse 3 trials (.failed message) ∧ ¬WaitFails trials ∧ ¬Exhausts 3 trials := by
  intro message quoting body
  have compiled : newcomer.compile (body.demand ⟨0, 0⟩) = .ok ⟨[], 20⟩ := rfl
  obtain ⟨after, executed⟩ :
      ∃ after, newcomer.execute quoting (body.demand ⟨0, 0⟩) body.index ⟨none, body.timeout⟩ =
        (.error (.request (.failed message)), after) :=
    Session.exists_execute_of_retrieve compiled (error?_eq_some_iff.mp (by decide +kernel))
  obtain ⟨trials, ended, _, isCourse, undergoes, _⟩ := Session.execute_undergoes executed
  refine ⟨?_, trials, ended, undergoes, isCourse, ?_, ?_⟩
  · have phrased : saysExhausted message = true := by decide
    have reported : searchFailed (.request (.failed message)) =
        failedText (if saysExhausted message then 429 else 502) message := rfl
    rw [search_eq_searchFailed rfl executed, reported, if_pos phrased]
  · rw [waitFails_iff isCourse nofun]
    rintro ⟨reason, same⟩
    cases same
  · intro exhausts
    obtain ⟨last, same⟩ := isCourse.exhausts_iff.mp exhausts
    cases same

end Throttling

end FilterQuery.Service
