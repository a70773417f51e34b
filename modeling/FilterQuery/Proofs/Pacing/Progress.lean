import FilterQuery.Proofs.Pacing.Wait

/-!
# Every wait ends

The time that is left is rounded, and so is the clock when it is moved by it, but each pause moves
the clock on towards a finite time. Only finitely many numbers are greater than the clock. Main
statement: `Pacer.wait_endsIn`.
-/

set_option autoImplicit false

namespace FilterQuery.Pacing

/-- The next request may be sent at once or from a finite time on. -/
def Pacer.HasFiniteDue (pacer : Pacer) : Prop :=
  ∀ last, pacer.lastRequest = some last → (last + pacer.interval).isFinite = true

namespace Pacer

variable {pacer : Pacer} {patience : Patience} {deadline? : Option Deadline} {clock : Binary64}

theorem HasFiniteDue.lt_pause (due : pacer.HasFiniteDue) (known : .infinite true < clock)
    (pending : ¬pacer.remaining clock ≤ 0) :
    clock < patience.pause clock (pacer.remaining clock) := by
  obtain ⟨last, sent, same⟩ := exists_lastRequest_of_pending pending
  rw [same] at pending ⊢
  exact Patience.lt_pause (Binary64.lt_add_sub_of_isFinite known (due last sent) pending)

theorem HasFiniteDue.waitFrom_ne_endless (due : pacer.HasFiniteDue)
    (known : .infinite true < clock) :
    (pacer.waitFrom patience deadline? clock).failure ≠ some .endless := by
  intro endless
  obtain ⟨moment, reached, pending, stuck, -⟩ := exists_stuck endless
  refine stuck (due.lt_pause ?_ pending)
  rcases reached with rfl | after
  · exact known
  · exact Binary64.infinite_lt_of_lt after

theorem LastTurn.eq_waitFrom {last : Wait} (turn : pacer.LastTurn patience deadline? clock last) :
    last = pacer.waitFrom patience deadline? clock := by
  cases turn with
  | cancelled impatient => rw [waitFrom, if_pos impatient]
  | free patient elapsed => rw [waitFrom, if_neg (by simp [patient]), if_pos elapsed]
  | late patient pending close => rw [waitFrom_of_close (by simp [patient]) pending close]

/-- Turns leave no choice: there is one end at most. -/
theorem EndsIn.eq_waitFrom {wait : Wait} (due : pacer.HasFiniteDue)
    (ends : pacer.EndsIn patience deadline? clock wait) (known : .infinite true < clock) :
    wait = pacer.waitFrom patience deadline? clock := by
  induction ends with
  | last turn => exact turn.eq_waitFrom
  | pause patient pending far _ ih =>
      have progress : _ < patience.pause _ _ := due.lt_pause known pending
      rw [waitFrom_of_moves (by simp [patient]) pending far progress,
        ih (Binary64.infinite_lt_of_lt progress)]

/-- From a finite clock on a wait ends, in one way only, and not because its pauses lead nowhere,
whatever its cancel time and its timeout are. -/
theorem wait_endsIn (patience : Patience) (time : clock.isFinite = true)
    (due : pacer.HasFiniteDue) :
    pacer.EndsIn patience (patience.deadline? clock) clock (pacer.wait patience clock) ∧
      (pacer.wait patience clock).failure ≠ some .endless ∧
      ∀ wait, pacer.EndsIn patience (patience.deadline? clock) clock wait →
        wait = pacer.wait patience clock := by
  have known := Binary64.infinite_lt_of_isFinite time
  have ends : (pacer.wait patience clock).failure ≠ some .endless :=
    due.waitFrom_ne_endless known
  exact ⟨waitFrom_endsIn ends, ends, fun wait found => found.eq_waitFrom due known⟩

/-- Rounding leaves the first pause of ten seconds a little short, so that there is a second one. -/
def almostInTime : Pacer :=
  ⟨.standard, some (.ofRatio false 36 100), .ofRatio false 99 10⟩

theorem wait_endsIn_almostInTime :
    (Binary64.ofRatio false 133 1000).isFinite = true ∧ almostInTime.HasFiniteDue ∧
      almostInTime.wait .unlimited (.ofRatio false 133 1000) =
        ⟨[.ofRatio false 10126999999999999 1000000000000000, .ofRatio false 1 (2 ^ 49)],
          .ofRatio false 1026 100, none⟩ := by
  have time : (Binary64.ofRatio false 133 1000).isFinite = true := by decide +kernel
  have due : almostInTime.HasFiniteDue := by
    intro last sent
    obtain rfl := Option.some.inj sent
    decide +kernel
  obtain ⟨-, -, only⟩ := wait_endsIn .unlimited time due
  refine ⟨time, due, (only _ ?_).symm⟩
  have patient (clock : Binary64) : Patience.unlimited.isOver clock = false := rfl
  have pending : ¬almostInTime.remaining (.ofRatio false 133 1000) ≤ 0 := by decide +kernel
  have first : almostInTime.remaining (.ofRatio false 133 1000) =
      .ofRatio false 10126999999999999 1000000000000000 := by decide +kernel
  have later : ¬almostInTime.remaining (.ofRatio false 133 1000 +
      .ofRatio false 10126999999999999 1000000000000000) ≤ 0 := by decide +kernel
  have second : almostInTime.remaining (.ofRatio false 133 1000 +
      .ofRatio false 10126999999999999 1000000000000000) = .ofRatio false 1 (2 ^ 49) := by
    decide +kernel
  have arrival : Binary64.ofRatio false 133 1000 + .ofRatio false 10126999999999999
      1000000000000000 + .ofRatio false 1 (2 ^ 49) = .ofRatio false 1026 100 := by decide +kernel
  have free : almostInTime.remaining (.ofRatio false 1026 100) ≤ 0 := by decide +kernel
  -- The numbers are made variables, so that they are not computed again.
  generalize Binary64.ofRatio false 1026 100 = finish at arrival free ⊢
  generalize Binary64.ofRatio false 133 1000 = start at pending first later second arrival ⊢
  generalize Binary64.ofRatio false 10126999999999999 1000000000000000 = long at *
  generalize Binary64.ofRatio false 1 (2 ^ 49) = short at *
  subst arrival second first
  exact .pause (patient _) pending rfl
    (.pause (patient _) later rfl (.last (.free (patient _) free)))

end Pacer

end FilterQuery.Pacing
