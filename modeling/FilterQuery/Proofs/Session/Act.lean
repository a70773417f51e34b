import FilterQuery.Proofs.Pacing.Wait
import FilterQuery.Session.Connection

/-!
# Acts on a connection

What happens on a connection, one act at a time: it waits for its pacer, makes a call or lets time
pass. A list of acts is replayed on a connection, and the searches and scrolls among them are its
sendings, each with the state of the connection in which it is sent.
-/

set_option autoImplicit false

namespace FilterQuery

open Server Pacing

/-- How a call is answered, as far as a pacer is concerned. -/
inductive Verdict where
  | answered
  | throttled
  | failed
  deriving DecidableEq

def Verdict.of {α : Type} : Except Fault α → Verdict
  | .ok _ => .answered
  | .error (.refused (.throttled _)) => .throttled
  | .error _ => .failed

namespace Pacing

/-- The interval after a verdict: the initial one, a longer one up to the bound, or the same. -/
def Settings.next (settings : Settings) (interval : Binary64) : Verdict → Binary64
  | .answered => settings.initialDelay
  | .throttled =>
      if settings.maxDelay < interval * settings.multiplier then settings.maxDelay
      else interval * settings.multiplier
  | .failed => interval

def Settings.intervalAfter (settings : Settings) (verdicts : List Verdict) : Binary64 :=
  verdicts.foldl settings.next settings.initialDelay

def Pacer.hear (pacer : Pacer) : Verdict → Pacer
  | .answered => pacer.recover
  | .throttled => pacer.slowDown
  | .failed => pacer

namespace Pacer

variable (pacer : Pacer) (verdict : Verdict)

@[simp] theorem hear_settings : (pacer.hear verdict).settings = pacer.settings := by
  cases verdict <;> rfl

@[simp] theorem hear_lastRequest : (pacer.hear verdict).lastRequest = pacer.lastRequest := by
  cases verdict <;> rfl

@[simp] theorem hear_interval :
    (pacer.hear verdict).interval = pacer.settings.next pacer.interval verdict := by
  cases verdict <;> rfl

@[simp] theorem afterWait_settings (wait : Wait) :
    (pacer.afterWait wait).settings = pacer.settings := by
  simp only [afterWait]
  split <;> rfl

@[simp] theorem afterWait_interval (wait : Wait) :
    (pacer.afterWait wait).interval = pacer.interval := by
  simp only [afterWait]
  split <;> rfl

end Pacer

end Pacing

namespace Server

variable {σ : Type}

/-- Searches and scrolls are kept apart by a pacer. -/
def Call.isPaced : Call Query → Bool
  | .search .. | .openScroll .. | .scroll .. => true
  | .clearScroll _ | .fieldCapabilities .. | .indices _ => false

/-- The verdict on a call that a pacer keeps apart. -/
def verdict? (server : Server σ) (state : σ) : Call Query → Option Verdict
  | .search index query => some (.of (server.search index query state).1)
  | .openScroll index query keepAlive =>
      some (.of (server.openScroll index query keepAlive state).1)
  | .scroll id keepAlive => some (.of (server.scroll id keepAlive state).1)
  | .clearScroll _ | .fieldCapabilities .. | .indices _ => none

/-- The state of a server after a call. -/
def after (server : Server σ) (state : σ) : Call Query → σ
  | .search index query => (server.search index query state).2
  | .openScroll index query keepAlive => (server.openScroll index query keepAlive state).2
  | .scroll id keepAlive => (server.scroll id keepAlive state).2
  | .clearScroll id => (server.clearScroll id state).2
  | .fieldCapabilities index fields => (server.fieldCapabilities index fields state).2
  | .indices pattern => (server.indices pattern state).2

theorem isSome_verdict? (server : Server σ) (state : σ) (call : Call Query) :
    (server.verdict? state call).isSome = call.isPaced := by
  cases call <;> rfl

theorem verdict?_of_unpaced (server : Server σ) (state : σ) {call : Call Query}
    (unpaced : call.isPaced = false) : server.verdict? state call = none := by
  rw [← Option.not_isSome_iff_eq_none, isSome_verdict?, unpaced]
  decide

end Server

/-- Something that happens on a connection. -/
inductive Act where
  | wait (patience : Patience)
  | call (call : Call Query)
  | lapse (seconds : Binary64)

/-- A search or scroll: the clock, the pacer's memory and interval when it is sent, and the verdict
on it. -/
structure Sending where
  call : Call Query
  clock : Binary64
  lastRequest : Option Binary64
  interval : Binary64
  verdict : Verdict

/-- The search or scroll that an event is. -/
def Event.sent? : Event → Option (Call Query)
  | .call made => if made.isPaced then some made else none
  | .pause _ => none

theorem filterMap_sent?_pauses (pauses : List Binary64) :
    (pauses.map Event.pause).filterMap Event.sent? = [] := by
  simp [List.filterMap_map, Function.comp_def, Event.sent?]

namespace Connection

variable {σ : Type}

/-- The connection after a call that is made at once. The pacer hears the verdict, if there is
one. -/
def send (server : Server σ) (call : Call Query) (connection : Connection σ) : Connection σ :=
  { connection with
    pacer := (server.verdict? connection.server call).elim connection.pacer connection.pacer.hear
    server := server.after connection.server call
    log := connection.log ++ [.call call] }

def act (server : Server σ) (connection : Connection σ) : Act → Connection σ
  | .wait patience => (connection.await patience).2
  | .call call => connection.send server call
  | .lapse seconds => { connection with clock := connection.clock + seconds }

def replay (server : Server σ) (connection : Connection σ) (acts : List Act) : Connection σ :=
  acts.foldl (act server) connection

/-- The search or scroll that an act is. -/
def sending? (server : Server σ) (connection : Connection σ) : Act → Option Sending
  | .call call =>
      (server.verdict? connection.server call).map fun verdict =>
        ⟨call, connection.clock, connection.pacer.lastRequest, connection.pacer.interval, verdict⟩
  | .wait _ | .lapse _ => none

/-- The searches and scrolls among acts, in order. -/
def sendings (server : Server σ) : Connection σ → List Act → List Sending
  | _, [] => []
  | connection, act :: acts =>
      (connection.sending? server act).toList ++ sendings server (connection.act server act) acts

/-- Each search or scroll comes right after a wait that does not fail, and each wait that does not
fail comes right before a search or scroll. -/
inductive InTurn (server : Server σ) : Connection σ → List Act → Prop where
  | done {connection : Connection σ} : InTurn server connection []
  | sent {connection : Connection σ} {patience : Patience} {call : Call Query} {acts : List Act} :
      (connection.await patience).1 = none → call.isPaced = true →
      InTurn server ((connection.await patience).2.send server call) acts →
      InTurn server connection (.wait patience :: .call call :: acts)
  | refused {connection : Connection σ} {patience : Patience} {acts : List Act} :
      (connection.await patience).1 ≠ none →
      InTurn server (connection.await patience).2 acts →
      InTurn server connection (.wait patience :: acts)
  | aside {connection : Connection σ} {call : Call Query} {acts : List Act} :
      call.isPaced = false → InTurn server (connection.send server call) acts →
      InTurn server connection (.call call :: acts)
  | lapsed {connection : Connection σ} {seconds : Binary64} {acts : List Act} :
      InTurn server { connection with clock := connection.clock + seconds } acts →
      InTurn server connection (.lapse seconds :: acts)

variable {server : Server σ} {connection : Connection σ}

theorem replay_append (first second : List Act) :
    connection.replay server (first ++ second) =
      (connection.replay server first).replay server second :=
  List.foldl_append

/-- A search or scroll that is sent is what it adds to the log. -/
theorem sent_send (call : Call Query) :
    (connection.send server call).log.filterMap Event.sent? =
      connection.log.filterMap Event.sent? ++
        (connection.sending? server (.call call)).toList.map Sending.call := by
  have known := server.isSome_verdict? connection.server call
  simp only [send, List.filterMap_append, List.filterMap_cons, List.filterMap_nil, sending?]
  cases heard : server.verdict? connection.server call with
  | none =>
      have unpaced : call.isPaced = false := by rw [← known, heard]; rfl
      simp [Event.sent?, unpaced]
  | some verdict =>
      have paced : call.isPaced = true := by rw [← known, heard]; rfl
      simp [Event.sent?, paced]

theorem InTurn.append {first second : List Act} (before : connection.InTurn server first)
    (after : (connection.replay server first).InTurn server second) :
    connection.InTurn server (first ++ second) := by
  induction before with
  | done => exact after
  | sent completes paced _ ih => exact .sent completes paced (ih after)
  | refused fails _ ih => exact .refused fails (ih after)
  | aside unpaced _ ih => exact .aside unpaced (ih after)
  | lapsed _ ih => exact .lapsed (ih after)

theorem sent_act (act : Act) :
    (connection.act server act).log.filterMap Event.sent? =
      connection.log.filterMap Event.sent? ++
        (connection.sending? server act).toList.map Sending.call := by
  cases act with
  | wait patience =>
      simp only [Connection.act, await, List.filterMap_append, filterMap_sent?_pauses]
      rfl
  | call call => exact sent_send call
  | lapse seconds => exact (List.append_nil _).symm

/-- The searches and scrolls in the log are those that are sent, in order. -/
theorem sent_replay (acts : List Act) :
    (connection.replay server acts).log.filterMap Event.sent? =
      connection.log.filterMap Event.sent? ++
        (connection.sendings server acts).map Sending.call := by
  induction acts generalizing connection with
  | nil => exact (List.append_nil _).symm
  | cons act acts ih =>
      calc ((connection.act server act).replay server acts).log.filterMap Event.sent?
        _ = (connection.act server act).log.filterMap Event.sent? ++
              ((connection.act server act).sendings server acts).map Sending.call := ih
        _ = _ := by rw [sent_act, List.append_assoc, ← List.map_append]; rfl

end Connection

end FilterQuery
