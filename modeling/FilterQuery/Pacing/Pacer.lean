import FilterQuery.Pacing.Settings

/-!
# Pacers

A pacer keeps requests apart. It remembers when the last request was sent and the interval that has
to pass before the next one, which grows while requests are refused. A caller waits until the
interval has passed, unless a cancel time or a timeout comes first. Time is read off a clock in
seconds that only pauses move forward.
-/

set_option autoImplicit false

namespace FilterQuery.Pacing

inductive WaitError where
  | cancelled
  | timedOut (timeout : Binary64)
  /-- Pauses do not bring the clock any closer to the time of the next request. -/
  | endless
  deriving DecidableEq

def WaitError.message : WaitError → String
  | .cancelled => "rate limiter wait cancelled"
  | .timedOut timeout => s!"rate limiter wait exceeded timeout of {timeout.fixedText 3}s"
  | .endless => "rate limiter wait never ends"

/-- A wait: its pauses in seconds, in order, the clock at its end, and why it failed, if it did. -/
structure Wait where
  pauses : List Binary64
  clock : Binary64
  failure : Option WaitError
  deriving DecidableEq

def Wait.after (pause : Binary64) (wait : Wait) : Wait :=
  { wait with pauses := pause :: wait.pauses }

/-- How long a caller waits: until a cancel time, and for a number of seconds at most. -/
structure Patience where
  cancelAt : Option Binary64
  timeout : Option Binary64
  deriving DecidableEq

namespace Patience

/-- Waits as long as it takes. -/
def unlimited : Patience := ⟨none, none⟩

def isOver (patience : Patience) (clock : Binary64) : Bool :=
  patience.cancelAt.any fun cancel => cancel ≤ clock

/-- The clock after a pause. A cancel time that comes first ends the pause. -/
def pause (patience : Patience) (clock seconds : Binary64) : Binary64 :=
  match patience.cancelAt with
  | some cancel => if clock < cancel ∧ cancel ≤ clock + seconds then cancel else clock + seconds
  | none => clock + seconds

end Patience

/-- The end of a caller's patience: the timeout and the clock at which it expires. -/
structure Deadline where
  timeout : Binary64
  expiry : Binary64
  deriving DecidableEq

def Patience.deadline? (patience : Patience) (start : Binary64) : Option Deadline :=
  patience.timeout.map fun timeout => ⟨timeout, start + timeout⟩

/-- Whether a deadline has passed or is closer than a number of seconds. -/
def Deadline.isTooClose (deadline : Deadline) (clock seconds : Binary64) : Bool :=
  let left := deadline.expiry - clock
  left ≤ 0 || left < seconds

def Deadline.giveUp (deadline : Deadline) (patience : Patience) (clock : Binary64) : Wait :=
  let left := deadline.expiry - clock
  if 0 < left then ⟨[left], patience.pause clock left, some (.timedOut deadline.timeout)⟩
  else ⟨[], clock, some (.timedOut deadline.timeout)⟩

structure Pacer where
  settings : Settings
  lastRequest : Option Binary64
  interval : Binary64
  deriving DecidableEq

namespace Pacer

def start (settings : Settings) : Pacer := ⟨settings, none, settings.initialDelay⟩

def remaining (pacer : Pacer) (clock : Binary64) : Binary64 :=
  match pacer.lastRequest with
  | none => 0
  | some last => last + pacer.interval - clock

/-- Waits for the next request. A pause that does not move the clock is repeated for ever, so the
wait ends there. A pause may have any length: the limit that a platform sets to the length of one is
left out. -/
def waitFrom (pacer : Pacer) (patience : Patience) (deadline? : Option Deadline)
    (clock : Binary64) : Wait :=
  let seconds := pacer.remaining clock
  if patience.isOver clock then ⟨[], clock, some .cancelled⟩
  else if seconds ≤ 0 then ⟨[], clock, none⟩
  else
    match deadline?.filter fun deadline => deadline.isTooClose clock seconds with
    | some deadline => deadline.giveUp patience clock
    | none =>
        let later := patience.pause clock seconds
        if clock < later then (waitFrom pacer patience deadline? later).after seconds
        else ⟨[seconds], later, some .endless⟩
termination_by clock.headroom
decreasing_by
  rename_i progress
  exact Binary64.headroom_lt progress

def wait (pacer : Pacer) (patience : Patience) (clock : Binary64) : Wait :=
  pacer.waitFrom patience (patience.deadline? clock) clock

/-- The pacer after a wait: a request is sent when the wait has not failed, and only then. -/
def afterWait (pacer : Pacer) (wait : Wait) : Pacer :=
  match wait.failure with
  | none => { pacer with lastRequest := some wait.clock }
  | some _ => pacer

/-- The pacer after a refused request: the interval grows, up to its bound. -/
def slowDown (pacer : Pacer) : Pacer :=
  let grown := pacer.interval * pacer.settings.multiplier
  let most := pacer.settings.maxDelay
  { pacer with interval := if most < grown then most else grown }

/-- The pacer after an answered request: the interval is the initial one again. -/
def recover (pacer : Pacer) : Pacer :=
  { pacer with interval := pacer.settings.initialDelay }

end Pacer

end FilterQuery.Pacing
