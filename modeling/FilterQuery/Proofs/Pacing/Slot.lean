import FilterQuery.Proofs.Pacing.Wait

/-!
# Claimed slots

A wait that completes claims a slot for a request, at a clock at which the slot is free. A wait that
fails leaves the pacer as it is, and it does not fail before there is a reason to. Main statement:
`Pacer.wait_claimsOrKeeps`.
-/

set_option autoImplicit false

namespace FilterQuery.Pacing

theorem Patience.isOver_iff {patience : Patience} {clock : Binary64} :
    patience.isOver clock = true ↔ ∃ cancel, patience.cancelAt = some cancel ∧ cancel ≤ clock := by
  simp only [Patience.isOver, Option.any_eq_true, decide_eq_true_eq]

/-- The numbers that a pacer keeps are finite. -/
structure Pacer.IsFinite (pacer : Pacer) : Prop where
  lastRequest : ∀ last, pacer.lastRequest = some last → last.isFinite = true
  interval : pacer.interval.isFinite = true

namespace Pacer

variable {pacer : Pacer} {patience : Patience} {deadline? : Option Deadline} {clock : Binary64}

/-- A free slot is claimed at once. A deadline is not looked at. -/
theorem IsReady.waitFrom_eq (ready : pacer.IsReady patience clock) (time : clock.isFinite = true) :
    pacer.waitFrom patience deadline? clock = ⟨[], clock, none⟩ := by
  have elapsed : pacer.remaining clock ≤ 0 := by
    cases sent : pacer.lastRequest with
    | none =>
        simp only [remaining, sent]
        exact Binary64.zero_le_zero
    | some last =>
        simp only [remaining, sent]
        exact Binary64.sub_le_zero_of_le time (ready.passed last sent)
  rw [waitFrom, if_neg (by simp [ready.patient]), if_pos elapsed]

/-- A deadline that is too close for a slot is before the slot, although both distances are
rounded. -/
theorem IsFinite.expiry_lt (finite : pacer.IsFinite) {deadline : Deadline}
    (pending : ¬pacer.remaining clock ≤ 0)
    (close : deadline.isTooClose clock (pacer.remaining clock) = true) :
    ∃ last, pacer.lastRequest = some last ∧ deadline.expiry < last + pacer.interval := by
  obtain ⟨last, sent, same⟩ := exists_lastRequest_of_pending pending
  refine ⟨last, sent, ?_⟩
  rw [same] at pending close
  simp only [Deadline.isTooClose, Bool.or_eq_true, decide_eq_true_eq] at close
  rcases close with passed | shorter
  · exact Binary64.lt_of_sub_le_zero passed pending
      (Binary64.add_ne_nan (finite.lastRequest last sent) finite.interval)
  · exact Binary64.lt_of_sub_lt_sub shorter

theorem LastTurn.isOver {last : Wait} (turn : pacer.LastTurn patience deadline? clock last)
    (cancelled : last.failure = some .cancelled) : patience.isOver last.clock = true := by
  cases turn with
  | cancelled impatient => exact impatient
  | free _ _ => cases cancelled
  | late _ _ _ =>
      rw [Deadline.giveUp_failure] at cancelled
      cases cancelled

theorem LastTurn.expiry_lt {last : Wait} {timeout : Binary64} (finite : pacer.IsFinite)
    (turn : pacer.LastTurn patience deadline? clock last)
    (expired : last.failure = some (.timedOut timeout)) :
    ∃ deadline, deadline? = some deadline ∧ deadline.timeout = timeout ∧
      ∃ last, pacer.lastRequest = some last ∧ deadline.expiry < last + pacer.interval := by
  cases turn with
  | cancelled _ => cases expired
  | free _ _ => cases expired
  | @late deadline _ pending close =>
      rw [Deadline.giveUp_failure] at expired
      obtain ⟨found, tooClose⟩ := Option.filter_eq_some_iff.mp close
      cases expired
      exact ⟨deadline, found, rfl, finite.expiry_lt pending tooClose⟩

/-- A wait that completes claims the slot at the clock at its end, which is before the cancel time
and not before the slot is free. A wait that fails changes nothing; it is cancelled only once the
cancel time has come, and times out only if its deadline is before the slot. A slot that is free at
the start is claimed at once, whatever the timeout is. -/
theorem wait_claimsOrKeeps (patience : Patience) (finite : pacer.IsFinite)
    (time : clock.isFinite = true) :
    ((pacer.wait patience clock).failure = none →
      pacer.afterWait (pacer.wait patience clock) =
          { pacer with lastRequest := some (pacer.wait patience clock).clock } ∧
        pacer.IsReady patience (pacer.wait patience clock).clock) ∧
    ((pacer.wait patience clock).failure ≠ none →
      pacer.afterWait (pacer.wait patience clock) = pacer) ∧
    ((pacer.wait patience clock).failure = some .cancelled →
      ∃ cancel, patience.cancelAt = some cancel ∧
        cancel ≤ (pacer.wait patience clock).clock) ∧
    (∀ timeout, (pacer.wait patience clock).failure = some (.timedOut timeout) →
      patience.timeout = some timeout ∧
        ∃ last, pacer.lastRequest = some last ∧ clock + timeout < last + pacer.interval) ∧
    (pacer.IsReady patience clock → pacer.wait patience clock = ⟨[], clock, none⟩) := by
  refine ⟨fun completes => ⟨?_, wait_isReady completes⟩, fun fails => ?_, fun cancelled => ?_,
    fun timeout expired => ?_, fun ready => ready.waitFrom_eq time⟩
  · rw [afterWait, completes]
  · rw [afterWait]
    split
    · next completes => exact absurd completes fails
    · rfl
  · have ends : (pacer.wait patience clock).failure ≠ some .endless := by simp [cancelled]
    obtain ⟨_, last, turn, sameClock, sameFailure⟩ := (waitFrom_endsIn ends).exists_lastTurn
    have reached := turn.isOver (sameFailure.trans cancelled)
    rw [sameClock] at reached
    exact Patience.isOver_iff.mp reached
  · have ends : (pacer.wait patience clock).failure ≠ some .endless := by simp [expired]
    obtain ⟨_, last, turn, -, sameFailure⟩ := (waitFrom_endsIn ends).exists_lastTurn
    obtain ⟨deadline, found, rfl, early⟩ := turn.expiry_lt finite (sameFailure.trans expired)
    obtain ⟨timeout, given, rfl⟩ := Option.map_eq_some_iff.mp found
    exact ⟨given, early⟩

/-- A tenth and two tenths of a second, whose sum is rounded up. -/
def afterThreeTenths : Pacer :=
  ⟨.standard, some (.ofRatio false 1 10), .ofRatio false 2 10⟩

/-- The caller has given up before, but the slot is free. -/
theorem wait_claimsOrKeeps_lateCaller :
    afterThreeTenths.IsFinite ∧
      (Binary64.ofRatio false 30000000000000004 (10 ^ 17)).isFinite = true ∧
      afterThreeTenths.IsReady ⟨some 1, some (-1)⟩ (.ofRatio false 30000000000000004 (10 ^ 17)) ∧
      afterThreeTenths.wait ⟨some 1, some (-1)⟩ (.ofRatio false 30000000000000004 (10 ^ 17)) =
        ⟨[], .ofRatio false 30000000000000004 (10 ^ 17), none⟩ := by
  have finite : afterThreeTenths.IsFinite := by
    refine ⟨fun last sent => ?_, by decide +kernel⟩
    obtain rfl := Option.some.inj sent
    decide +kernel
  have time : (Binary64.ofRatio false 30000000000000004 (10 ^ 17)).isFinite = true := by
    decide +kernel
  have ready : afterThreeTenths.IsReady ⟨some 1, some (-1)⟩
      (.ofRatio false 30000000000000004 (10 ^ 17)) := by
    refine ⟨by decide +kernel, fun last sent => ?_⟩
    obtain rfl := Option.some.inj sent
    decide +kernel
  obtain ⟨-, -, -, -, atOnce⟩ := wait_claimsOrKeeps ⟨some 1, some (-1)⟩ finite time
  exact ⟨finite, time, ready, atOnce ready⟩

end Pacer

end FilterQuery.Pacing
