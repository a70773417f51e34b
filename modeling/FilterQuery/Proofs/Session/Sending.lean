import FilterQuery.Proofs.Session.Act
import Mathlib.Data.List.Chain

/-!
# Searches and scrolls in turn

What holds of the sendings of acts that are in turn: the wait before each one remembers its clock,
successive ones are apart, and the interval is the one that the verdicts so far lead to.
-/

set_option autoImplicit false

namespace FilterQuery

open Server Pacing

/-- The second sending comes no sooner after the first than its interval demands. -/
def Sending.IsApart (first second : Sending) : Prop :=
  first.clock + second.interval ≤ second.clock

namespace Connection

variable {σ : Type} {server : Server σ} {connection : Connection σ} {patience : Patience}
  {call : Call Query} {acts : List Act}

theorem await_refused (fails : (connection.await patience).1 ≠ none) :
    (connection.await patience).2.pacer = connection.pacer := by
  obtain ⟨error, failure⟩ := Option.ne_none_iff_exists'.mp fails
  simp only [await] at failure ⊢
  simp only [Pacer.afterWait, failure]

theorem await_completes (completes : (connection.await patience).1 = none) :
    (connection.await patience).2.pacer =
      { connection.pacer with lastRequest := some (connection.await patience).2.clock } := by
  simp only [await] at completes ⊢
  simp only [Pacer.afterWait, completes]

theorem await_isReady (completes : (connection.await patience).1 = none) :
    connection.pacer.IsReady patience (connection.await patience).2.clock :=
  Pacer.wait_isReady completes

@[simp] theorem sendings_wait :
    connection.sendings server (.wait patience :: acts) =
      (connection.await patience).2.sendings server acts :=
  rfl

theorem sendings_paced (server : Server σ) (connection : Connection σ) (acts : List Act)
    (paced : call.isPaced = true) :
    ∃ verdict, connection.sendings server (.call call :: acts) =
        ⟨call, connection.clock, connection.pacer.lastRequest, connection.pacer.interval,
          verdict⟩ :: (connection.send server call).sendings server acts ∧
      (connection.send server call).pacer = connection.pacer.hear verdict := by
  obtain ⟨verdict, heard⟩ :=
    Option.isSome_iff_exists.mp ((server.isSome_verdict? connection.server call).trans paced)
  refine ⟨verdict, ?_, by simp only [send, heard, Option.elim_some]⟩
  simp only [sendings, sending?, heard, Option.map_some, Option.toList_some]
  rfl

theorem sendings_unpaced (server : Server σ) (connection : Connection σ) (acts : List Act)
    (unpaced : call.isPaced = false) :
    connection.sendings server (.call call :: acts) =
        (connection.send server call).sendings server acts ∧
      (connection.send server call).pacer = connection.pacer := by
  have unheard := server.verdict?_of_unpaced connection.server unpaced
  refine ⟨?_, by simp only [send, unheard, Option.elim_none]⟩
  simp only [sendings, sending?, unheard, Option.map_none, Option.toList_none]
  rfl

/-- Each sending has the clock at which a wait among the acts ended, which the pacer remembers. -/
theorem exists_await_of_mem_sendings (inTurn : connection.InTurn server acts) :
    ∀ sending ∈ connection.sendings server acts, ∃ (waiting : Connection σ) (patience : Patience),
      .wait patience ∈ acts ∧ (waiting.await patience).1 = none ∧
        sending.clock = (waiting.await patience).2.clock ∧
        sending.lastRequest = (waiting.await patience).2.pacer.lastRequest := by
  induction inTurn with
  | done => exact fun _ member => absurd member List.not_mem_nil
  | @sent connection patience call acts completes paced _ ih =>
      obtain ⟨verdict, first, _⟩ :=
        sendings_paced server (connection.await patience).2 acts paced
      intro sending member
      rw [sendings_wait, first] at member
      rcases List.mem_cons.mp member with rfl | member
      · exact ⟨connection, patience, List.mem_cons_self, completes, rfl, rfl⟩
      · obtain ⟨waiting, waits, among, found⟩ := ih sending member
        exact ⟨waiting, waits, List.mem_cons_of_mem _ (List.mem_cons_of_mem _ among), found⟩
  | refused fails _ ih =>
      intro sending member
      obtain ⟨waiting, waits, among, found⟩ := ih sending member
      exact ⟨waiting, waits, List.mem_cons_of_mem _ among, found⟩
  | aside unpaced _ ih =>
      intro sending member
      rw [(sendings_unpaced server _ _ unpaced).1] at member
      obtain ⟨waiting, waits, among, found⟩ := ih sending member
      exact ⟨waiting, waits, List.mem_cons_of_mem _ among, found⟩
  | lapsed _ ih =>
      intro sending member
      obtain ⟨waiting, waits, among, found⟩ := ih sending member
      exact ⟨waiting, waits, List.mem_cons_of_mem _ among, found⟩

theorem lastRequest_of_mem_sendings (inTurn : connection.InTurn server acts) {sending : Sending}
    (member : sending ∈ connection.sendings server acts) :
    sending.lastRequest = some sending.clock := by
  obtain ⟨waiting, patience, _, completes, clock, remembered⟩ :=
    exists_await_of_mem_sendings inTurn sending member
  rw [remembered, await_completes completes, clock]

/-- Sendings are apart from each other, and the first one from the last request before them. -/
theorem isApart_sendings (inTurn : connection.InTurn server acts) :
    (∀ first ∈ (connection.sendings server acts).head?, ∀ last,
        connection.pacer.lastRequest = some last → last + first.interval ≤ first.clock) ∧
      (connection.sendings server acts).IsChain Sending.IsApart := by
  induction inTurn with
  | done =>
      refine ⟨?_, List.isChain_nil⟩
      intro first absent
      cases absent
  | @sent connection patience call acts completes paced _ ih =>
      obtain ⟨verdict, first, heard⟩ :=
        sendings_paced server (connection.await patience).2 acts paced
      have ready := await_isReady completes
      have after := await_completes completes
      rw [sendings_wait, first]
      constructor
      · intro sending head last sent
        cases head
        simp only [after]
        exact ready.passed last sent
      · refine List.isChain_cons.mpr ⟨fun second head => ?_, ih.2⟩
        refine ih.1 second head _ ?_
        rw [heard, Pacer.hear_lastRequest, after]
  | refused fails _ ih =>
      rw [await_refused fails] at ih
      exact ih
  | aside unpaced _ ih =>
      obtain ⟨same, pacer⟩ := sendings_unpaced server _ _ unpaced
      rw [pacer] at ih
      rw [same]
      exact ih
  | lapsed _ ih => exact ih

theorem settings_act (act : Act) :
    (connection.act server act).pacer.settings = connection.pacer.settings := by
  cases act with
  | wait patience => exact Pacer.afterWait_settings _ _
  | call call =>
      simp only [Connection.act, send]
      cases server.verdict? connection.server call with
      | none => rfl
      | some verdict => exact Pacer.hear_settings _ _
  | lapse seconds => rfl

/-- Nothing but the verdict on a sending changes the interval. -/
theorem interval_act (act : Act) :
    (connection.act server act).pacer.interval =
      ((connection.sending? server act).toList.map Sending.verdict).foldl
        connection.pacer.settings.next connection.pacer.interval := by
  cases act with
  | wait patience => exact Pacer.afterWait_interval _ _
  | call call =>
      simp only [Connection.act, send, sending?]
      cases server.verdict? connection.server call with
      | none => rfl
      | some verdict => exact Pacer.hear_interval _ _
  | lapse seconds => rfl

/-- The interval is the one that the verdicts on the sendings lead to, one after the other. -/
theorem interval_replay (acts : List Act) :
    (connection.replay server acts).pacer.interval =
      ((connection.sendings server acts).map Sending.verdict).foldl
        connection.pacer.settings.next connection.pacer.interval := by
  induction acts generalizing connection with
  | nil => rfl
  | cons act acts ih =>
      calc ((connection.act server act).replay server acts).pacer.interval
        _ = (((connection.act server act).sendings server acts).map Sending.verdict).foldl
              (connection.act server act).pacer.settings.next
              (connection.act server act).pacer.interval := ih
        _ = _ := by
          rw [settings_act, interval_act, ← List.foldl_append, ← List.map_append, sendings]

end Connection

end FilterQuery
