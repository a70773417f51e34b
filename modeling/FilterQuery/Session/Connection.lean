import FilterQuery.Pacing.Pacer
import FilterQuery.Server.Basic

/-!
# Connections

A connection to a server sends requests one at a time. Before each one it waits for its pacer;
requests that come too early are repeated, a limited number of times, at growing intervals. Other
calls are made at once. What happens is logged.
-/

set_option autoImplicit false

namespace FilterQuery

open Server Pacing

/-- What happens on a connection: a pause of some seconds, or a call. -/
inductive Event where
  | pause (seconds : Binary64)
  | call (call : Call Query)

structure Connection (σ : Type) where
  pacer : Pacer
  clock : Binary64
  server : σ
  log : List Event

inductive RequestError where
  | wait (error : WaitError)
  | failed (message : String)
  /-- It came too early every time; what was said last, if it was sent at all. -/
  | exhausted (last : Option String)
  | malformed (malformed : Malformed)
  deriving DecidableEq

def RequestError.message : RequestError → String
  | .wait error => error.message
  | .failed message => message
  | .exhausted last => "max retries exceeded: " ++ last.getD "None"
  | .malformed _ => "malformed answer"

/-- How requests are made: how many times at most, and how long a wait may take. -/
structure Terms where
  attempts : Nat
  patience : Patience

/-- A way to get an answer of some type from a server: the call and what answers it. -/
structure Inquiry (σ α : Type) where
  call : Call Query
  send : σ → α × σ

namespace Connection

variable {σ α : Type}

def start (settings : Settings) (server : σ) : Connection σ :=
  ⟨.start settings, 0, server, []⟩

def await (patience : Patience) (connection : Connection σ) :
    Option WaitError × Connection σ :=
  let wait := connection.pacer.wait patience connection.clock
  (wait.failure, { connection with
    pacer := connection.pacer.afterWait wait
    clock := wait.clock
    log := connection.log ++ wait.pauses.map Event.pause })

def perform (inquiry : Inquiry σ α) (connection : Connection σ) : α × Connection σ :=
  let (answer, server) := inquiry.send connection.server
  (answer, { connection with server, log := connection.log ++ [.call inquiry.call] })

/-- Requests come too early: the interval grows. -/
def slowDown (connection : Connection σ) : Connection σ :=
  { connection with pacer := connection.pacer.slowDown }

/-- A request was answered: the interval is the initial one again. -/
def recover (connection : Connection σ) : Connection σ :=
  { connection with pacer := connection.pacer.recover }

/-- Makes a request at most `left` times until it does not come too early. The result counts the
attempts from `attempt` on. -/
def requestFrom (patience : Patience) (inquiry : Inquiry σ (Except Fault α)) :
    (left attempt : Nat) → (last : Option String) → Connection σ →
      Except RequestError (α × Nat) × Connection σ
  | 0, _, last, connection => (.error (.exhausted last), connection)
  | left + 1, attempt, _, connection =>
      match connection.await patience with
      | (some error, connection) => (.error (.wait error), connection)
      | (none, connection) =>
          match connection.perform inquiry with
          | (.ok answer, connection) => (.ok (answer, attempt), connection.recover)
          | (.error (.refused (.throttled message)), connection) =>
              requestFrom patience inquiry left (attempt + 1) (some message) connection.slowDown
          | (.error (.refused (.failed message)), connection) =>
              (.error (.failed message), connection)
          | (.error (.malformed malformed), connection) =>
              (.error (.malformed malformed), connection)

/-- Makes a request. The result comes with the number of attempts. -/
def request (terms : Terms) (inquiry : Inquiry σ (Except Fault α)) (connection : Connection σ) :
    Except RequestError (α × Nat) × Connection σ :=
  connection.requestFrom terms.patience inquiry terms.attempts 1 none

end Connection

end FilterQuery
