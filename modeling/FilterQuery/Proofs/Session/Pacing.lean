import FilterQuery.Proofs.Outcome
import FilterQuery.Proofs.Session.Enactment
import FilterQuery.Proofs.Session.Sending

/-!
# Pacing over whole runs

A run of a session is a history of acts, step by step, in which every search and scroll has its
turn. Main statement: `Session.run_isPaced`.
-/

set_option autoImplicit false

namespace FilterQuery

open Server Pacing

variable {σ : Type}

/-- What is demanded of the acts on a connection with some settings. At every moment, that is after
any number of acts, the interval is the one that the verdicts so far lead to. -/
structure Connection.IsPaced (server : Server σ) (settings : Settings) (connection : Connection σ)
    (acts : List Act) : Prop where
  inTurn : connection.InTurn server acts
  remembered : ∀ sending ∈ connection.sendings server acts,
    sending.lastRequest = some sending.clock
  apart : (connection.sendings server acts).IsChain Sending.IsApart
  interval_eq : ∀ count, (connection.replay server (acts.take count)).pacer.interval =
    settings.intervalAfter
      ((connection.sendings server (acts.take count)).map Sending.verdict)

/-- A step of a session comes down to acts. It sends searches and scrolls only when it executes a
demand, and none at a clock at which the cancel time has come. -/
structure Session.IsEnacted (server : Server σ) (session : Session σ) (step : Step)
    (acts : List Act) : Prop where
  replay_eq : (session.step server step).2.connection = session.connection.replay server acts
  allowed : ∀ act ∈ acts, step.Allows act
  patient : ∀ sending ∈ session.connection.sendings server acts,
    ∃ patience, step.patience? = some patience ∧ patience.isOver sending.clock = false

/-- The acts that the steps of a run come down to, step by step. -/
inductive Session.IsHistory (server : Server σ) :
    Session σ → List Step → List (List Act) → Prop where
  | done {session : Session σ} : IsHistory server session [] []
  | step {session : Session σ} {step : Step} {acts : List Act} {steps : List Step}
      {history : List (List Act)} :
      session.IsEnacted server step acts →
      IsHistory server (session.step server step).2 steps history →
      IsHistory server session (step :: steps) (acts :: history)

/-- The acts of a run add up to its connection, with the searches and scrolls of its log, and they
are paced. -/
structure Session.IsPacedRun (server : Server σ) (settings : Settings) (session : Session σ)
    (steps : List Step) (history : List (List Act)) : Prop where
  isHistory : session.IsHistory server steps history
  replay_eq : (session.run server steps).connection =
    session.connection.replay server history.flatten
  sent_eq : (session.run server steps).connection.log.filterMap Event.sent? =
    (session.connection.sendings server history.flatten).map Sending.call
  isPaced : session.connection.IsPaced server settings history.flatten

variable {server : Server σ} {session : Session σ}

theorem Connection.isPaced_start {settings : Settings} {state : σ} {acts : List Act}
    (inTurn : (Connection.start settings state).InTurn server acts) :
    (Connection.start settings state).IsPaced server settings acts where
  inTurn := inTurn
  remembered _ member := lastRequest_of_mem_sendings inTurn member
  apart := (isApart_sendings inTurn).2
  interval_eq _ := interval_replay _

namespace Session

theorem exists_isEnacted (server : Server σ) (session : Session σ) (step : Step) :
    ∃ acts, session.IsEnacted server step acts ∧ session.connection.InTurn server acts := by
  obtain ⟨acts, replay_eq, inTurn, allowed⟩ := session.enacts_step server step
  refine ⟨acts, ⟨replay_eq, allowed, ?_⟩, inTurn⟩
  intro sending member
  obtain ⟨waiting, patience, among, completes, clock, _⟩ :=
    Connection.exists_await_of_mem_sendings inTurn sending member
  refine ⟨patience, allowed _ among, ?_⟩
  rw [clock]
  exact (Connection.await_isReady completes).patient

theorem exists_isHistory (server : Server σ) (session : Session σ) (steps : List Step) :
    ∃ history, session.IsHistory server steps history ∧
      session.connection.InTurn server history.flatten ∧
      (session.run server steps).connection =
        session.connection.replay server history.flatten := by
  induction steps generalizing session with
  | nil => exact ⟨[], .done, .done, rfl⟩
  | cons step steps ih =>
      obtain ⟨acts, enacted, inTurn⟩ := exists_isEnacted server session step
      obtain ⟨history, isHistory, later, replay_eq⟩ := ih (session.step server step).2
      rw [enacted.replay_eq] at later replay_eq
      refine ⟨acts :: history, .step enacted isHistory, inTurn.append later, ?_⟩
      rw [List.flatten_cons, Connection.replay_append]
      exact replay_eq

theorem connection_of_start {config : Config} {index : Option String} {state : σ}
    (started : Session.start config index state = .ok session) :
    session.connection = .start config.pacing state := by
  obtain ⟨_, _, opened⟩ := bind_eq_ok_iff.mp started
  cases opened
  rfl

/-- The searches and scrolls of a run are paced, whatever the steps, the server and the settings:
each one has its turn after a wait, successive ones are apart, the interval follows the verdicts,
and none is sent when the cancel time of its demand has come. -/
theorem run_isPaced {config : Config} {index : Option String} {state : σ}
    (started : Session.start config index state = .ok session) (steps : List Step) :
    ∃ history, session.IsPacedRun server config.pacing steps history := by
  obtain ⟨history, isHistory, inTurn, replay_eq⟩ := exists_isHistory server session steps
  have connection := connection_of_start started
  refine ⟨history, isHistory, replay_eq, ?_, ?_⟩
  · rw [replay_eq, Connection.sent_replay, connection]
    rfl
  · rw [connection] at inTurn ⊢
    exact Connection.isPaced_start inTurn

/-- A server that refuses its first search for coming too early. -/
def busyAtFirst : Server Bool where
  search _ _ busy :=
    if busy then (.error (.refused (.throttled "busy")), false) else (.ok ⟨[], 0⟩, false)
  openScroll _ _ _ busy := (.ok (⟨[], 0⟩, .null), busy)
  scroll _ _ busy := (.ok ([], .null), busy)
  clearScroll _ busy := (.ok (), busy)
  fieldCapabilities _ _ busy := (.ok .null, busy)
  indices _ busy := (.ok [], busy)

/-- The refused search is sent once more, so there are two sendings to keep apart. -/
theorem run_isPaced_busyAtFirst :
    ∃ session history, Session.start .standard none true = .ok session ∧
      session.IsPacedRun busyAtFirst Config.standard.pacing
        [.execute ⟨[], none, some "", ⟨0, 0⟩⟩ none ⟨none, some 5⟩, .switchIndex "logs"] history ∧
      (session.connection.sendings busyAtFirst history.flatten).length = 2 := by
  have accepted : Config.standard.pacing.check = .ok () := by decide +kernel
  have started : Session.start .standard none true =
      .ok ⟨.standard, "*", .empty, .start Config.standard.pacing true⟩ := by
    rw [Session.start, accepted]
    rfl
  obtain ⟨history, isPacedRun⟩ := run_isPaced started
    [.execute ⟨[], none, some "", ⟨0, 0⟩⟩ none ⟨none, some 5⟩, .switchIndex "logs"]
  refine ⟨_, history, started, isPacedRun, ?_⟩
  rw [← List.length_map Sending.call, ← isPacedRun.sent_eq]
  decide +kernel

end Session

end FilterQuery
