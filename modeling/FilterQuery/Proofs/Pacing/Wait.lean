import FilterQuery.Pacing.Pacer
import FilterQuery.Proofs.Number.Difference

/-!
# Ends of waits

A wait consists of turns: each looks at the clock and ends the wait, or pauses. A wait that does not
fail ends before the cancel time and when the interval since the last request has passed. A wait
lasts for ever only when one of its pauses is not finite. Main statements: `Pacer.wait_isReady` and
`Pacer.wait_ne_endless`.
-/

set_option autoImplicit false

namespace FilterQuery.Pacing

/-- A request may be sent at a clock: the cancel time has not come and the interval has passed. -/
structure Pacer.IsReady (pacer : Pacer) (patience : Patience) (clock : Binary64) : Prop where
  patient : patience.isOver clock = false
  passed : ∀ last, pacer.lastRequest = some last → last + pacer.interval ≤ clock

/-- What the last turn of a wait makes of a clock. -/
inductive Pacer.LastTurn (pacer : Pacer) (patience : Patience) (deadline? : Option Deadline)
    (clock : Binary64) : Wait → Prop where
  | cancelled :
      patience.isOver clock = true →
      LastTurn pacer patience deadline? clock ⟨[], clock, some .cancelled⟩
  | free :
      patience.isOver clock = false → pacer.remaining clock ≤ 0 →
      LastTurn pacer patience deadline? clock ⟨[], clock, none⟩
  | late {deadline : Deadline} :
      patience.isOver clock = false → ¬pacer.remaining clock ≤ 0 →
      deadline?.filter (·.isTooClose clock (pacer.remaining clock)) = some deadline →
      LastTurn pacer patience deadline? clock (deadline.giveUp patience clock)

/-- A wait that begins at a clock has an end: a last turn, or a pause before a wait that has one.
Nothing is said of how far a pause moves the clock. -/
inductive Pacer.EndsIn (pacer : Pacer) (patience : Patience) (deadline? : Option Deadline) :
    Binary64 → Wait → Prop where
  | last {clock : Binary64} {wait : Wait} :
      pacer.LastTurn patience deadline? clock wait →
      EndsIn pacer patience deadline? clock wait
  | pause {clock : Binary64} {wait : Wait} :
      patience.isOver clock = false → ¬pacer.remaining clock ≤ 0 →
      deadline?.filter (·.isTooClose clock (pacer.remaining clock)) = none →
      EndsIn pacer patience deadline? (patience.pause clock (pacer.remaining clock)) wait →
      EndsIn pacer patience deadline? clock (wait.after (pacer.remaining clock))

theorem Deadline.giveUp_failure (deadline : Deadline) (patience : Patience) (clock : Binary64) :
    (deadline.giveUp patience clock).failure = some (.timedOut deadline.timeout) := by
  simp only [Deadline.giveUp]
  split <;> rfl

theorem Patience.lt_pause {patience : Patience} {clock seconds : Binary64}
    (moves : clock < clock + seconds) : clock < patience.pause clock seconds := by
  cases cancel : patience.cancelAt with
  | none =>
      simp only [Patience.pause, cancel]
      exact moves
  | some cancel =>
      simp only [Patience.pause, cancel]
      split
      · next ahead => exact ahead.1
      · exact moves

namespace Pacer

variable {pacer : Pacer} {patience : Patience} {deadline? : Option Deadline} {clock : Binary64}

theorem passed_of_remaining (elapsed : pacer.remaining clock ≤ 0) {last : Binary64}
    (sent : pacer.lastRequest = some last) : last + pacer.interval ≤ clock := by
  simp only [remaining, sent] at elapsed
  exact Binary64.le_of_sub_le_zero elapsed

theorem exists_lastRequest_of_pending (pending : ¬pacer.remaining clock ≤ 0) :
    ∃ last, pacer.lastRequest = some last ∧
      pacer.remaining clock = last + pacer.interval - clock := by
  cases sent : pacer.lastRequest with
  | none =>
      simp only [remaining, sent] at pending
      exact absurd Binary64.zero_le_zero pending
  | some last => exact ⟨last, rfl, by simp only [remaining, sent]⟩

/-- A finite pause moves the clock. -/
theorem lt_pause_remaining (pending : ¬pacer.remaining clock ≤ 0)
    (finite : (pacer.remaining clock).isFinite = true) :
    clock < patience.pause clock (pacer.remaining clock) := by
  obtain ⟨last, -, same⟩ := exists_lastRequest_of_pending pending
  rw [same] at pending finite ⊢
  exact Patience.lt_pause (Binary64.lt_add_sub finite pending)

section Pending

variable (patient : ¬patience.isOver clock = true) (pending : ¬pacer.remaining clock ≤ 0)
include patient pending

theorem waitFrom_of_close {deadline : Deadline}
    (close : deadline?.filter (·.isTooClose clock (pacer.remaining clock)) = some deadline) :
    pacer.waitFrom patience deadline? clock = deadline.giveUp patience clock := by
  rw [waitFrom, if_neg patient, if_neg pending, close]

theorem waitFrom_of_moves
    (far : deadline?.filter (·.isTooClose clock (pacer.remaining clock)) = none)
    (moves : clock < patience.pause clock (pacer.remaining clock)) :
    pacer.waitFrom patience deadline? clock =
      (pacer.waitFrom patience deadline? (patience.pause clock (pacer.remaining clock))).after
        (pacer.remaining clock) := by
  rw [waitFrom, if_neg patient, if_neg pending, far]
  exact if_pos moves

theorem waitFrom_of_rests
    (far : deadline?.filter (·.isTooClose clock (pacer.remaining clock)) = none)
    (rests : ¬clock < patience.pause clock (pacer.remaining clock)) :
    pacer.waitFrom patience deadline? clock =
      ⟨[pacer.remaining clock], patience.pause clock (pacer.remaining clock), some .endless⟩ := by
  rw [waitFrom, if_neg patient, if_neg pending, far]
  exact if_neg rests

end Pending

/-- Unless a pause does not move the clock, a wait goes through its turns up to a last one. -/
theorem waitFrom_endsIn
    (ends : (pacer.waitFrom patience deadline? clock).failure ≠ some .endless) :
    pacer.EndsIn patience deadline? clock (pacer.waitFrom patience deadline? clock) := by
  induction clock using Pacer.waitFrom.induct pacer patience deadline? with
  | case1 clock impatient =>
      rw [waitFrom, if_pos impatient]
      exact .last (.cancelled impatient)
  | case2 clock seconds patient elapsed =>
      rw [waitFrom, if_neg patient, if_pos elapsed]
      exact .last (.free (eq_false_of_ne_true patient) elapsed)
  | case3 clock seconds patient pending deadline close =>
      rw [waitFrom_of_close patient pending close]
      exact .last (.late (eq_false_of_ne_true patient) pending close)
  | case4 clock seconds patient pending far later progress ih =>
      rw [waitFrom_of_moves patient pending far progress] at ends ⊢
      exact .pause (eq_false_of_ne_true patient) pending far (ih ends)
  | case5 clock seconds patient pending far later stuck =>
      rw [waitFrom_of_rests patient pending far stuck] at ends
      exact absurd rfl ends

/-- The last turn alone decides when and how a wait ends. -/
theorem EndsIn.exists_lastTurn {wait : Wait} (ends : pacer.EndsIn patience deadline? clock wait) :
    ∃ moment last, pacer.LastTurn patience deadline? moment last ∧ last.clock = wait.clock ∧
      last.failure = wait.failure := by
  induction ends with
  | last turn => exact ⟨_, _, turn, rfl, rfl⟩
  | pause _ _ _ _ ih => exact ih

theorem LastTurn.isReady {last : Wait} (turn : pacer.LastTurn patience deadline? clock last)
    (completes : last.failure = none) : pacer.IsReady patience last.clock := by
  cases turn with
  | cancelled _ => cases completes
  | free patient elapsed => exact ⟨patient, fun _ sent => passed_of_remaining elapsed sent⟩
  | late _ _ _ =>
      rw [Deadline.giveUp_failure] at completes
      cases completes

theorem waitFrom_isReady (completes : (pacer.waitFrom patience deadline? clock).failure = none) :
    pacer.IsReady patience (pacer.waitFrom patience deadline? clock).clock := by
  have ends := waitFrom_endsIn (by rw [completes]; simp)
  obtain ⟨moment, last, turn, sameClock, sameFailure⟩ := ends.exists_lastTurn
  rw [← sameClock]
  exact turn.isReady (sameFailure.trans completes)

/-- A wait that lasts for ever has come to a clock that its pause does not move. -/
theorem exists_stuck (endless : (pacer.waitFrom patience deadline? clock).failure = some .endless) :
    ∃ moment, (moment = clock ∨ clock < moment) ∧ ¬pacer.remaining moment ≤ 0 ∧
      ¬moment < patience.pause moment (pacer.remaining moment) ∧
      pacer.remaining moment ∈ (pacer.waitFrom patience deadline? clock).pauses := by
  induction clock using Pacer.waitFrom.induct pacer patience deadline? with
  | case1 clock impatient =>
      rw [waitFrom, if_pos impatient] at endless
      cases endless
  | case2 clock seconds patient elapsed =>
      rw [waitFrom, if_neg patient, if_pos elapsed] at endless
      cases endless
  | case3 clock seconds patient pending deadline close =>
      rw [waitFrom_of_close patient pending close, Deadline.giveUp_failure] at endless
      cases endless
  | case4 clock seconds patient pending far later progress ih =>
      rw [waitFrom_of_moves patient pending far progress] at endless ⊢
      obtain ⟨moment, reached, pendingThere, stuck, member⟩ := ih endless
      refine ⟨moment, .inr ?_, pendingThere, stuck, List.mem_cons_of_mem _ member⟩
      rcases reached with rfl | after
      · exact progress
      · exact Binary64.lt_trans progress after
  | case5 clock seconds patient pending far later stuck =>
      rw [waitFrom_of_rests patient pending far stuck]
      exact ⟨clock, .inl rfl, pending, stuck, List.mem_singleton_self _⟩

theorem waitFrom_ne_endless
    (finite : ∀ seconds ∈ (pacer.waitFrom patience deadline? clock).pauses,
      seconds.isFinite = true) :
    (pacer.waitFrom patience deadline? clock).failure ≠ some .endless := by
  intro endless
  obtain ⟨moment, -, pending, stuck, member⟩ := exists_stuck endless
  exact stuck (lt_pause_remaining pending (finite _ member))

theorem wait_isReady (completes : (pacer.wait patience clock).failure = none) :
    pacer.IsReady patience (pacer.wait patience clock).clock :=
  waitFrom_isReady completes

end Pacer

end FilterQuery.Pacing
