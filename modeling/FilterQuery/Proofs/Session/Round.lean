import FilterQuery.Proofs.Session.Exchange
import FilterQuery.Proofs.Session.Sending
import FilterQuery.Proofs.Session.Enactment

/-!
# Rounds of a request

A round is a request with all the attempts that are made of it. How it ends is told by the replies
that a server gives to the call when it is sent again and again. Main statements:
`Connection.request_concludes` and `Connection.Concludes.exhausted_iff`.
-/

set_option autoImplicit false

namespace FilterQuery

open Server Pacing

variable {σ α : Type}

/-- What a server gives out in answer to a search or scroll: documents, the number of all hits when
that is said, and the scroll for the next batch when there is one. -/
structure Delivery where
  documents : List Document
  total : Option Int
  id : Option ScrollId

/-- The reply to a call that came too early. -/
def tooEarly (message : String) : Except Fault Delivery :=
  .error (.refused (.throttled message))

/-- What a request fails with at once when it meets a fault. -/
def Server.Fault.atOnce? : Fault → Option RequestError
  | .refused (.throttled _) => none
  | .refused (.failed message) => some (.failed message)
  | .malformed kind => some (.malformed kind)

namespace Server

/-- The reply to a search or scroll. -/
def reply? (server : Server σ) (state : σ) : Call Query → Option (Except Fault Delivery)
  | .search index query => some ((server.search index query state).1.map fun page =>
      ⟨page.documents, some page.total, none⟩)
  | .openScroll index query keepAlive =>
      some ((server.openScroll index query keepAlive state).1.map fun answer =>
        ⟨answer.1.documents, some answer.1.total, some answer.2⟩)
  | .scroll id keepAlive => some ((server.scroll id keepAlive state).1.map fun answer =>
      ⟨answer.1, none, some answer.2⟩)
  | .clearScroll _ | .fieldCapabilities .. | .indices _ => none

/-- What is given out in answer to calls, in order. -/
def deliveries (server : Server σ) (state : σ) (calls : List (Call Query)) : List Delivery :=
  (server.exchanges state calls).filterMap fun exchange =>
    (server.reply? exchange.state exchange.call).bind Except.toOption

variable (server : Server σ) (state : σ)

theorem isSome_reply? (call : Call Query) : (server.reply? state call).isSome = call.isPaced := by
  cases call <;> rfl

theorem verdict?_eq (call : Call Query) :
    server.verdict? state call = (server.reply? state call).map Verdict.of := by
  have same {β γ : Type} (answer : Except Fault β) (read : β → γ) :
      Verdict.of (answer.map read) = Verdict.of answer := by
    rcases answer with ((_ | _) | _) | _ <;> rfl
  cases call with
  | search | openScroll | scroll => exact congrArg some (same _ _).symm
  | clearScroll | fieldCapabilities | indices => rfl

theorem deliveries_append (calls more : List (Call Query)) :
    server.deliveries state (calls ++ more) =
      server.deliveries state calls ++ server.deliveries (server.afterAll state calls) more := by
  rw [deliveries, exchanges_append, List.filterMap_append]
  rfl

theorem named_eq (calls : List (Call Query)) :
    server.named state calls = (server.deliveries state calls).filterMap Delivery.id := by
  rw [named, deliveries, List.filterMap_filterMap]
  congr 1
  funext exchange
  obtain ⟨call, met⟩ := exchange
  cases call with
  | search index query =>
      simp only [named?, reply?]
      cases (server.search index query met).1 <;> rfl
  | openScroll index query keepAlive =>
      simp only [named?, reply?]
      cases (server.openScroll index query keepAlive met).1 <;> rfl
  | scroll id keepAlive =>
      simp only [named?, reply?]
      cases (server.scroll id keepAlive met).1 <;> rfl
  | clearScroll | fieldCapabilities | indices => rfl

theorem deliveries_of_unpaced {calls : List (Call Query)}
    (unpaced : ∀ call ∈ calls, call.isPaced = false) : server.deliveries state calls = [] := by
  refine List.filterMap_eq_nil_iff.mpr fun exchange member => ?_
  have silent : server.reply? exchange.state exchange.call = none := by
    rw [← Option.not_isSome_iff_eq_none, isSome_reply?,
      unpaced _ (server.call_mem_of_exchange_mem _ member)]
    exact Bool.false_ne_true
  rw [silent]
  rfl

end Server

/-- A search or scroll of a server, and what is read of its answers. -/
structure Inquiry.Delivers (server : Server σ) (inquiry : Inquiry σ (Except Fault α))
    (read : α → Delivery) : Prop where
  isPaced : inquiry.IsPaced server
  reply_eq : ∀ state, server.reply? state inquiry.call = some ((inquiry.send state).1.map read)

namespace Connection

/-- A call is sent a number of times, each time after a wait that does not fail, and these are the
replies. -/
inductive Repeats (server : Server σ) (patience : Patience) (call : Call Query) :
    Connection σ → List (Except Fault Delivery) → Connection σ → Prop where
  | done {connection : Connection σ} : Repeats server patience call connection [] connection
  | sent {connection ready last : Connection σ} {reply : Except Fault Delivery}
      {replies : List (Except Fault Delivery)} :
      connection.await patience = (none, ready) → server.reply? ready.server call = some reply →
      Repeats server patience call (ready.send server call) replies last →
      Repeats server patience call connection (reply :: replies) last

/-- The ways in which a request can end that may be sent a number of times. Some replies say that it
came too early; then it is answered, or it fails, or the wait before the next attempt fails, or no
attempt is left. -/
inductive Concludes (server : Server σ) (terms : Terms) (call : Call Query)
    (first : Connection σ) : Except RequestError Delivery → Nat → Connection σ → Prop where
  | answered {messages : List String} {delivery : Delivery} {last : Connection σ} :
      messages.length < terms.attempts →
      first.Repeats server terms.patience call (messages.map tooEarly ++ [.ok delivery]) last →
      Concludes server terms call first (.ok delivery) (messages.length + 1) last
  | failed {messages : List String} {fault : Fault} {error : RequestError} {last : Connection σ} :
      messages.length < terms.attempts → fault.atOnce? = some error →
      first.Repeats server terms.patience call (messages.map tooEarly ++ [.error fault]) last →
      Concludes server terms call first (.error error) (messages.length + 1) last
  | unsent {messages : List String} {error : WaitError} {ready last : Connection σ} :
      messages.length < terms.attempts →
      first.Repeats server terms.patience call (messages.map tooEarly) ready →
      ready.await terms.patience = (some error, last) →
      Concludes server terms call first (.error (.wait error)) messages.length last
  | exhausted {messages : List String} {last : Connection σ} :
      messages.length = terms.attempts →
      first.Repeats server terms.patience call (messages.map tooEarly) last →
      Concludes server terms call first (.error (.exhausted messages.getLast?)) messages.length last

variable {server : Server σ} {terms : Terms} {patience : Patience} {call : Call Query}
  {first middle last final : Connection σ} {replies others : List (Except Fault Delivery)}

theorem Repeats.trans (before : first.Repeats server patience call replies middle)
    (after : middle.Repeats server patience call others last) :
    first.Repeats server patience call (replies ++ others) last := by
  induction before with
  | done => exact after
  | sent waited replied _ ih => exact .sent waited replied (ih after)

/-- The replies are determined: of two lists of them, the longer one goes on where the shorter one
ends. -/
theorem Repeats.exists_eq_append (repeated : first.Repeats server patience call replies middle)
    (longer : first.Repeats server patience call others last)
    (length : replies.length ≤ others.length) :
    ∃ rest, others = replies ++ rest ∧ middle.Repeats server patience call rest last := by
  induction repeated generalizing others with
  | done => exact ⟨others, rfl, longer⟩
  | sent waited replied _ ih =>
      cases longer with
      | done => cases length
      | sent waitedToo repliedToo longer =>
          cases waited.symm.trans waitedToo
          cases replied.symm.trans repliedToo
          obtain ⟨rest, rfl, continues⟩ := ih longer (Nat.le_of_succ_le_succ length)
          exact ⟨rest, rfl, continues⟩

theorem makes_send (call : Call Query) :
    first.Makes server [call] (first.send server call) := by
  constructor
  · simp [send, Event.call?]
  · rfl

theorem Repeats.makes (repeated : first.Repeats server patience call replies last) :
    first.Makes server (List.replicate replies.length call) last := by
  induction repeated with
  | done => exact .refl
  | @sent connection ready last reply replies waited _ _ ih =>
      have waits : connection.Makes server [] (connection.await patience).2 := makes_await patience
      rw [waited] at waits
      exact waits.trans ((makes_send call).trans ih)

theorem Repeats.deliveries_eq (repeated : first.Repeats server patience call replies last) :
    server.deliveries first.server (List.replicate replies.length call) =
      replies.filterMap Except.toOption := by
  induction repeated with
  | done => rfl
  | @sent connection ready last reply replies waited replied _ ih =>
      have same : ready.server = connection.server :=
        (congrArg (fun result => result.2.server) waited).symm
      have head : server.deliveries connection.server [call] = reply.toOption.toList := by
        rw [← same]
        simp only [deliveries, exchanges, List.filterMap_cons, List.filterMap_nil, replied,
          Option.bind_some]
        cases reply.toOption <;> rfl
      have next : server.afterAll connection.server [call] = (ready.send server call).server := by
        rw [← same]
        rfl
      rw [List.length_cons, List.replicate_succ, ← List.singleton_append, deliveries_append, head,
        next, ih, List.filterMap_cons]
      cases reply.toOption <;> rfl

theorem settings_await (connection : Connection σ) (patience : Patience) :
    (connection.await patience).2.pacer.settings = connection.pacer.settings :=
  Pacer.afterWait_settings _ _

theorem Repeats.settings_eq (repeated : first.Repeats server patience call replies last) :
    last.pacer.settings = first.pacer.settings := by
  induction repeated with
  | done => rfl
  | @sent connection ready last reply replies waited _ _ ih =>
      have waits := connection.settings_await patience
      rw [waited] at waits
      exact ih.trans ((ready.settings_act (.call call)).trans waits)

theorem requestFrom_concludes {inquiry : Inquiry σ (Except Fault α)} {read : α → Delivery}
    (delivers : inquiry.Delivers server read) {attempts : Nat} (left : Nat)
    (messages : List String) (count : messages.length + left = attempts)
    (repeated : first.Repeats server patience inquiry.call (messages.map tooEarly) middle) :
    ∃ sent, first.Concludes server ⟨attempts, patience⟩ inquiry.call
        ((middle.requestFrom patience inquiry left (messages.length + 1) messages.getLast?).1.map
          fun found => read found.1) sent
        (middle.requestFrom patience inquiry left (messages.length + 1) messages.getLast?).2 ∧
      ∀ found, (middle.requestFrom patience inquiry left (messages.length + 1)
        messages.getLast?).1 = .ok found → found.2 = sent := by
  -- The replies so far stay in the statement: that of the next attempt is put behind them.
  induction left generalizing middle messages with
  | zero => exact ⟨messages.length, .exhausted count repeated, fun _ ended => by cases ended⟩
  | succ left ih =>
      have room : messages.length < attempts := by omega
      simp only [requestFrom]
      cases waited : middle.await patience with
      | mk failure ready =>
          cases failure with
          | some error =>
              exact ⟨_, .unsent room repeated waited, fun _ ended => by cases ended⟩
          | none =>
              dsimp only
              cases performed : ready.perform inquiry with
              | mk answer answered =>
                  have reply :
                      server.reply? ready.server inquiry.call = some (answer.map read) := by
                    rw [delivers.reply_eq]
                    exact congrArg (fun result => some (result.1.map read)) performed
                  have sends : middle.Repeats server patience inquiry.call [answer.map read]
                      { answered with pacer := answered.pacer.hear (.of answer) } := by
                    refine .sent waited reply ?_
                    rw [send_of_perform delivers.isPaced performed]
                    exact .done
                  have all := repeated.trans sends
                  rcases answer with ((message | message) | kind) | found
                  · have more : messages.map tooEarly ++ [tooEarly message] =
                        (messages ++ [message]).map tooEarly := by simp
                    have later := ih (messages ++ [message]) (by simp; omega) (more ▸ all)
                    rwa [List.length_append, List.length_singleton, List.getLast?_concat] at later
                  · exact ⟨_, .failed room rfl all, fun _ ended => by cases ended⟩
                  · exact ⟨_, .failed room rfl all, fun _ ended => by cases ended⟩
                  · exact ⟨_, .answered room all, fun _ ended => by cases ended; rfl⟩

theorem request_concludes {inquiry : Inquiry σ (Except Fault α)} {read : α → Delivery}
    (delivers : inquiry.Delivers server read) {result : Except RequestError (α × Nat)}
    (requested : first.request terms inquiry = (result, last)) :
    ∃ sent, first.Concludes server terms inquiry.call (result.map fun found => read found.1) sent
      last ∧ ∀ found, result = .ok found → found.2 = sent := by
  have concludes := requestFrom_concludes delivers terms.attempts [] (Nat.zero_add _)
    (.done : first.Repeats server terms.patience inquiry.call [] first)
  have same : first.requestFrom terms.patience inquiry terms.attempts 1 none = (result, last) :=
    requested
  rwa [List.length_nil, List.getLast?_nil, Nat.zero_add, same] at concludes

theorem tooEarly_injective : Function.Injective tooEarly := by
  intro message other same
  cases same
  rfl

/-- A request always came too early exactly when the call, sent as often as it may be, gets no other
reply; the last of them is reported. -/
theorem Concludes.exhausted_iff {outcome : Except RequestError Delivery} {sent : Nat}
    (concludes : first.Concludes server terms call outcome sent last) (reported : Option String) :
    outcome = .error (.exhausted reported) ↔ ∃ (messages : List String) (final : Connection σ),
      messages.length = terms.attempts ∧ messages.getLast? = reported ∧
        first.Repeats server terms.patience call (messages.map tooEarly) final := by
  constructor
  · intro same
    cases concludes with
    | answered => cases same
    | @failed _ fault _ _ _ atOnce _ =>
        cases same
        rcases fault with (_ | _) | _ <;> cases atOnce
    | unsent => cases same
    | exhausted count repeated =>
        cases same
        exact ⟨_, last, count, rfl, repeated⟩
  · rintro ⟨throttles, final, full, rfl, allThrottled⟩
    cases concludes with
    | @answered messages delivery _ room repeated =>
        obtain ⟨rest, split, -⟩ := repeated.exists_eq_append allThrottled (by simp; omega)
        have among : .ok delivery ∈ throttles.map tooEarly := by simp [split]
        obtain ⟨_, _, impossible⟩ := List.mem_map.mp among
        cases impossible
    | @failed messages fault _ _ room atOnce repeated =>
        obtain ⟨rest, split, -⟩ := repeated.exists_eq_append allThrottled (by simp; omega)
        have among : .error fault ∈ throttles.map tooEarly := by simp [split]
        obtain ⟨_, _, same⟩ := List.mem_map.mp among
        cases same
        cases atOnce
    | @unsent messages error ready _ room repeated stopped =>
        obtain ⟨rest, split, continues⟩ := repeated.exists_eq_append allThrottled (by simp; omega)
        cases continues with
        | done =>
            have length := congrArg List.length split
            simp only [List.length_append, List.length_map, List.length_nil] at length
            omega
        | sent waited => cases waited.symm.trans stopped
    | @exhausted messages _ count repeated =>
        obtain ⟨rest, split, -⟩ := repeated.exists_eq_append allThrottled (by simp; omega)
        have length := congrArg List.length split
        simp only [List.length_append, List.length_map] at length
        have nothing : rest = [] := List.eq_nil_of_length_eq_zero (by omega)
        rw [nothing, List.append_nil] at split
        rw [tooEarly_injective.list_map split]

theorem Repeats.exists_middle
    (repeated : first.Repeats server patience call (replies ++ others) last) :
    ∃ middle, first.Repeats server patience call replies middle ∧
      middle.Repeats server patience call others last := by
  induction replies generalizing first with
  | nil => exact ⟨first, .done, repeated⟩
  | cons reply replies ih =>
      cases repeated with
      | sent waited replied rest =>
          obtain ⟨middle, before, after⟩ := ih rest
          exact ⟨middle, .sent waited replied before, after⟩

theorem filterMap_tooEarly (messages : List String) :
    (messages.map tooEarly).filterMap Except.toOption = [] := by
  refine List.filterMap_eq_nil_iff.mpr fun reply member => ?_
  obtain ⟨message, -, rfl⟩ := List.mem_map.mp member
  rfl

section Conclusion

variable {outcome : Except RequestError Delivery} {sent : Nat}

theorem Concludes.sent_le (concludes : first.Concludes server terms call outcome sent last) :
    sent ≤ terms.attempts := by
  cases concludes with
  | answered room _ => exact room
  | failed room _ _ => exact room
  | unsent room _ _ => exact Nat.le_of_lt room
  | exhausted full _ => exact Nat.le_of_eq full

/-- A request is its call, sent a number of times, and then at most a wait. Nothing is given out but
the answer. -/
theorem Concludes.exists_repeats
    (concludes : first.Concludes server terms call outcome sent last) :
    ∃ replies middle, first.Repeats server terms.patience call replies middle ∧
      replies.length = sent ∧ replies.filterMap Except.toOption = outcome.toOption.toList ∧
      (last = middle ∨ last = (middle.await terms.patience).2) := by
  cases concludes with
  | answered _ repeated =>
      exact ⟨_, last, repeated, by simp, by rw [List.filterMap_append, filterMap_tooEarly]; rfl,
        .inl rfl⟩
  | failed _ _ repeated =>
      exact ⟨_, last, repeated, by simp, by rw [List.filterMap_append, filterMap_tooEarly]; rfl,
        .inl rfl⟩
  | @unsent _ _ ready _ _ repeated waited =>
      exact ⟨_, ready, repeated, by simp, filterMap_tooEarly _,
        .inr (congrArg Prod.snd waited).symm⟩
  | exhausted _ repeated => exact ⟨_, last, repeated, by simp, filterMap_tooEarly _, .inl rfl⟩

theorem Concludes.makes (concludes : first.Concludes server terms call outcome sent last) :
    first.Makes server (List.replicate sent call) last := by
  obtain ⟨replies, middle, repeated, rfl, -, ended⟩ := concludes.exists_repeats
  have waits : middle.Makes server [] last := by
    rcases ended with rfl | rfl
    · exact .refl
    · exact makes_await terms.patience
  have made := repeated.makes.trans waits
  rwa [List.append_nil] at made

theorem Concludes.deliveries_eq (concludes : first.Concludes server terms call outcome sent last) :
    server.deliveries first.server (List.replicate sent call) = outcome.toOption.toList := by
  obtain ⟨replies, _, repeated, rfl, given, -⟩ := concludes.exists_repeats
  rw [repeated.deliveries_eq, given]

theorem Concludes.settings_eq (concludes : first.Concludes server terms call outcome sent last) :
    last.pacer.settings = first.pacer.settings := by
  obtain ⟨_, middle, repeated, -, -, ended⟩ := concludes.exists_repeats
  rw [← repeated.settings_eq]
  rcases ended with rfl | rfl
  · rfl
  · exact settings_await middle terms.patience

/-- Nothing is given out before the last attempt of a request. -/
theorem Concludes.deliveries_of_lt
    (concludes : first.Concludes server terms call outcome sent last) {count : Nat}
    (fewer : count < sent) : server.deliveries first.server (List.replicate count call) = [] := by
  have throttled {messages : List String} {middle : Connection σ}
      (repeated : first.Repeats server terms.patience call (messages.map tooEarly) middle)
      (enough : count ≤ messages.length) :
      server.deliveries first.server (List.replicate count call) = [] := by
    rw [← List.take_append_drop count messages, List.map_append] at repeated
    obtain ⟨_, before, -⟩ := repeated.exists_middle
    have given := before.deliveries_eq
    rwa [List.length_map, List.length_take_of_le enough, filterMap_tooEarly] at given
  cases concludes with
  | answered _ repeated =>
      obtain ⟨_, before, -⟩ := repeated.exists_middle
      exact throttled before (Nat.le_of_lt_succ fewer)
  | failed _ _ repeated =>
      obtain ⟨_, before, -⟩ := repeated.exists_middle
      exact throttled before (Nat.le_of_lt_succ fewer)
  | unsent _ repeated _ => exact throttled repeated (Nat.le_of_lt fewer)
  | exhausted _ repeated => exact throttled repeated (Nat.le_of_lt fewer)

/-- The pacer starts over when a request is answered. -/
theorem Concludes.interval_eq {delivery : Delivery}
    (concludes : first.Concludes server terms call (.ok delivery) sent last) :
    last.pacer.interval = first.pacer.settings.initialDelay := by
  cases concludes with
  | answered _ repeated =>
      rw [← repeated.settings_eq]
      obtain ⟨middle, -, answered⟩ := repeated.exists_middle
      cases answered with
      | @sent _ ready _ _ _ _ replied rest =>
          cases rest
          have heard : server.verdict? ready.server call = some .answered := by
            rw [verdict?_eq, replied]
            rfl
          rw [send, heard]
          rfl

end Conclusion

end Connection

/-- A request of a search: its call, the connection before its first attempt, what it came to, how
often it was sent, and the connection then. -/
structure Round (σ : Type) where
  call : Call Query
  first : Connection σ
  outcome : Except RequestError Delivery
  sent : Nat
  last : Connection σ

namespace Round

/-- A request is always sent by the same call. -/
def calls (round : Round σ) : List (Call Query) :=
  List.replicate round.sent round.call

def delivery? (round : Round σ) : Option Delivery :=
  round.outcome.toOption

def documents (round : Round σ) : List Document :=
  round.delivery?.elim [] Delivery.documents

def IsMade (server : Server σ) (terms : Terms) (round : Round σ) : Prop :=
  round.first.Concludes server terms round.call round.outcome round.sent round.last

end Round

namespace Connection

/-- Requests that are made one after the other. The first one that fails is the last one, and
nothing else fails. -/
inductive Follows (server : Server σ) (terms : Terms) :
    Connection σ → List (Round σ) → Option RequestError → Connection σ → Prop where
  | done {connection : Connection σ} : Follows server terms connection [] none connection
  | fails {round : Round σ} {error : RequestError} :
      round.IsMade server terms → round.outcome = .error error →
      Follows server terms round.first [round] (some error) round.last
  | answered {round : Round σ} {rounds : List (Round σ)} {delivery : Delivery}
      {failure : Option RequestError} {last : Connection σ} :
      round.IsMade server terms → round.outcome = .ok delivery →
      Follows server terms round.last rounds failure last →
      Follows server terms round.first (round :: rounds) failure last

variable {server : Server σ} {terms : Terms} {first last : Connection σ}
  {rounds : List (Round σ)} {failure : Option RequestError}

theorem Follows.isMade (follows : first.Follows server terms rounds failure last) :
    ∀ round ∈ rounds, round.IsMade server terms := by
  induction follows with
  | done => exact fun _ member => absurd member List.not_mem_nil
  | fails isMade _ => exact List.forall_mem_singleton.mpr isMade
  | answered isMade _ _ ih => exact List.forall_mem_cons.mpr ⟨isMade, ih⟩

theorem Follows.makes (follows : first.Follows server terms rounds failure last) :
    first.Makes server (rounds.flatMap Round.calls) last := by
  induction follows with
  | done => exact .refl
  | @fails round _ isMade _ =>
      have made := Concludes.makes isMade
      rwa [List.flatMap_singleton]
  | answered isMade _ _ ih => exact (Concludes.makes isMade).trans ih

theorem Follows.deliveries_eq (follows : first.Follows server terms rounds failure last) :
    server.deliveries first.server (rounds.flatMap Round.calls) =
      rounds.filterMap Round.delivery? := by
  induction follows with
  | done => rfl
  | @fails round _ isMade _ =>
      rw [List.flatMap_singleton, Round.calls, Concludes.deliveries_eq isMade]
      cases given : round.outcome.toOption <;> simp [Round.delivery?, given]
  | @answered round _ _ _ _ isMade _ _ ih =>
      have reached : server.afterAll round.first.server round.calls = round.last.server :=
        (Concludes.makes isMade).reached.symm
      rw [List.flatMap_cons, deliveries_append, reached, ih, Round.calls,
        Concludes.deliveries_eq isMade]
      cases given : round.outcome.toOption <;> simp [Round.delivery?, given]

theorem Follows.settings_eq (follows : first.Follows server terms rounds failure last) :
    last.pacer.settings = first.pacer.settings := by
  induction follows with
  | done => rfl
  | fails isMade _ => exact Concludes.settings_eq isMade
  | answered isMade _ _ ih => exact ih.trans (Concludes.settings_eq isMade)

theorem Follows.eq_of_nil (follows : first.Follows server terms [] failure last) :
    last = first := by
  cases follows with
  | done => rfl

theorem Follows.interval_eq (follows : first.Follows server terms rounds none last)
    (filled : rounds ≠ []) : last.pacer.interval = first.pacer.settings.initialDelay := by
  generalize success : none = failure at follows
  induction follows with
  | done => exact absurd rfl filled
  | fails => cases success
  | @answered round rounds delivery _ last isMade answered follows ih =>
      cases rounds with
      | nil =>
          rw [Round.IsMade, answered] at isMade
          rw [follows.eq_of_nil]
          exact isMade.interval_eq
      | cons next rounds =>
          rw [ih (List.cons_ne_nil _ _) success, Concludes.settings_eq isMade]

end Connection

end FilterQuery
