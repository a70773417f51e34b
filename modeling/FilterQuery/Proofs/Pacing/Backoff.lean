import FilterQuery.Proofs.Config.Loading
import FilterQuery.Proofs.Number.Product

/-!
# Backoff

The interval of a pacer starts at its least value, grows while requests are refused and does not
pass its bound, however a pacer is used. No comparison refuses an undefined number, so settings that
are accepted may still not say how far the interval may grow. Main statement:
`load_boundsIntervals_iff` says that the settings of a configuration that is loaded bound the
interval exactly when all three of them are defined.
-/

set_option autoImplicit false

namespace FilterQuery

open Config

namespace Pacing

/-- What happens to a pacer: a wait that begins at a clock, a refused request or an answered one. -/
inductive Move where
  | wait (patience : Patience) (clock : Binary64)
  | slowDown
  | recover

namespace Pacer

def move (pacer : Pacer) : Move → Pacer
  | .wait patience clock => pacer.afterWait (pacer.wait patience clock)
  | .slowDown => pacer.slowDown
  | .recover => pacer.recover

def afterMoves (pacer : Pacer) (moves : List Move) : Pacer :=
  moves.foldl move pacer

end Pacer

namespace Settings

/-- No setting is an undefined number. -/
structure AreDefined (settings : Settings) : Prop where
  initialDelay : settings.initialDelay ≠ .nan
  maxDelay : settings.maxDelay ≠ .nan
  multiplier : settings.multiplier ≠ .nan

/-- The settings do what they are for: the interval is positive, it can grow, and it has a bound that
is not below its least value. -/
structure AreInRange (settings : Settings) : Prop where
  positive : 0 < settings.initialDelay
  order : settings.initialDelay ≤ settings.maxDelay
  multiplier : 1 < settings.multiplier

/-- The interval of a pacer lies between positive bounds, a refused request does not make it
shorter, and an answered one makes it the least. -/
structure Bounds (settings : Settings) (pacer : Pacer) : Prop where
  positive : 0 < settings.initialDelay
  least : settings.initialDelay ≤ pacer.interval
  most : pacer.interval ≤ settings.maxDelay
  multiplier : 1 < settings.multiplier
  slowDown : pacer.interval ≤ pacer.slowDown.interval
  recover : pacer.recover.interval = settings.initialDelay

variable {settings : Settings} {pacer : Pacer}

theorem check_eq_ok_iff :
    settings.check = .ok () ↔
      ¬settings.initialDelay ≤ 0 ∧ ¬settings.maxDelay ≤ 0 ∧ ¬settings.multiplier ≤ 1 ∧
        ¬settings.maxDelay < settings.initialDelay := by
  simp only [check]
  split
  · simp_all
  · split
    · simp_all
    · split
      · simp_all
      · split <;> simp_all

theorem AreDefined.areInRange (defined : settings.AreDefined)
    (accepted : settings.check = .ok ()) : settings.AreInRange := by
  obtain ⟨initialDelay, -, multiplier, order⟩ := check_eq_ok_iff.mp accepted
  rw [Binary64.le_iff_not_lt defined.initialDelay Binary64.zero_ne_nan, not_not] at initialDelay
  rw [Binary64.le_iff_not_lt defined.multiplier Binary64.one_ne_nan, not_not] at multiplier
  exact ⟨initialDelay, (Binary64.le_iff_not_lt defined.initialDelay defined.maxDelay).mpr order,
    multiplier⟩

theorem Bounds.areDefined (bounds : settings.Bounds pacer) : settings.AreDefined :=
  ⟨(Binary64.ne_nan_of_lt bounds.positive).2, (Binary64.ne_nan_of_le bounds.most).2,
    (Binary64.ne_nan_of_lt bounds.multiplier).2⟩

end Settings

namespace Pacer

variable {pacer : Pacer}

def IsBetween (pacer : Pacer) : Prop :=
  pacer.settings.initialDelay ≤ pacer.interval ∧ pacer.interval ≤ pacer.settings.maxDelay

theorem settings_move (move : Move) : (pacer.move move).settings = pacer.settings := by
  cases move with
  | wait patience clock =>
      simp only [Pacer.move, afterWait]
      split <;> rfl
  | slowDown => rfl
  | recover => rfl

theorem isBetween_start {settings : Settings} (inRange : settings.AreInRange) :
    (Pacer.start settings).IsBetween := by
  have defined := (Binary64.ne_nan_of_le inRange.order).1
  exact ⟨(Binary64.le_iff_rank_le defined defined).mpr (Int.le_refl _), inRange.order⟩

section Moves

variable (between : pacer.IsBetween) (inRange : pacer.settings.AreInRange)
include between inRange

theorem IsBetween.le_grown : pacer.interval ≤ pacer.interval * pacer.settings.multiplier := by
  refine Binary64.le_mul ?_ inRange.multiplier
  have positive := inRange.positive
  have least := between.1
  have settingDefined := (Binary64.ne_nan_of_le least).1
  have intervalDefined := (Binary64.ne_nan_of_le least).2
  rw [Binary64.le_iff_rank_le settingDefined intervalDefined] at least
  rw [Binary64.lt_iff_rank_lt Binary64.zero_ne_nan settingDefined] at positive
  rw [Binary64.lt_iff_rank_lt Binary64.zero_ne_nan intervalDefined]
  omega

/-- A refused request makes the interval longer, if anything, and no longer than its bound. -/
theorem IsBetween.slowDown :
    pacer.interval ≤ pacer.slowDown.interval ∧ pacer.slowDown.IsBetween := by
  have grown := between.le_grown inRange
  obtain ⟨least, most⟩ := between
  have settingDefined := (Binary64.ne_nan_of_le least).1
  have grownDefined := (Binary64.ne_nan_of_le grown).2
  have mostDefined := (Binary64.ne_nan_of_le most).2
  have intervalDefined := (Binary64.ne_nan_of_le most).1
  rw [IsBetween, Pacer.slowDown]
  dsimp only
  rw [Binary64.le_iff_rank_le settingDefined intervalDefined] at least
  split
  · exact ⟨most, inRange.order, (Binary64.le_iff_rank_le mostDefined mostDefined).mpr
      (Int.le_refl _)⟩
  · next within =>
      refine ⟨grown, ?_⟩
      rw [Binary64.le_iff_rank_le intervalDefined grownDefined] at grown
      rw [Binary64.le_iff_rank_le settingDefined grownDefined,
        Binary64.le_iff_not_lt grownDefined mostDefined]
      exact ⟨by omega, within⟩

theorem IsBetween.move (move : Move) : (pacer.move move).IsBetween := by
  cases move with
  | wait patience clock =>
      simp only [Pacer.move, afterWait]
      split <;> exact between
  | slowDown => exact (between.slowDown inRange).2
  | recover => exact isBetween_start inRange

theorem IsBetween.afterMoves (moves : List Move) :
    (pacer.afterMoves moves).settings = pacer.settings ∧ (pacer.afterMoves moves).IsBetween := by
  induction moves generalizing pacer with
  | nil => exact ⟨rfl, between⟩
  | cons move rest ih =>
      have same : (pacer.move move).settings = pacer.settings := settings_move move
      have next := between.move inRange move
      rw [← same] at inRange
      obtain ⟨kept, ends⟩ := ih next inRange
      exact ⟨kept.trans same, ends⟩

theorem IsBetween.bounds : pacer.settings.Bounds pacer :=
  ⟨inRange.positive, between.1, between.2, inRange.multiplier, (between.slowDown inRange).1, rfl⟩

end Moves

end Pacer

theorem Settings.AreInRange.bounds {settings : Settings} (inRange : settings.AreInRange)
    (moves : List Move) : settings.Bounds ((Pacer.start settings).afterMoves moves) := by
  have started : (Pacer.start settings).IsBetween := Pacer.isBetween_start inRange
  obtain ⟨same, between⟩ := started.afterMoves inRange moves
  replace same : ((Pacer.start settings).afterMoves moves).settings = settings := same
  have kept : ((Pacer.start settings).afterMoves moves).settings.AreInRange := by rwa [same]
  have bounds := between.bounds kept
  rwa [same] at bounds

end Pacing

namespace Config

open Pacing

/-- The interval of a pacer with the settings of a configuration that is loaded is bounded,
whatever happens to the pacer, unless one of the settings is undefined. -/
theorem load_boundsIntervals_iff {source : ConfigSource} {config : Config}
    (loaded : load source = .ok config) :
    (∀ moves, config.pacing.Bounds ((Pacer.start config.pacing).afterMoves moves)) ↔
      config.pacing.AreDefined := by
  obtain ⟨_, _, _, checked⟩ := load_eq_ok_iff.mp loaded
  obtain ⟨accepted, -⟩ := check_eq_ok_iff.mp checked
  constructor
  · intro bounds
    exact (bounds []).areDefined
  · intro defined moves
    exact (defined.areInRange accepted).bounds moves

/-- A variable names the undefined number. It is accepted as an initial delay. -/
def undefinedDelay : ConfigSource where
  file := none
  environment := [("FILTER_DSL_RATE_LIMIT_INITIAL_RETRY_DELAY", "nan")]

def readFromUndefinedDelay : Config :=
  { standard with pacing.initialDelay := .nan }

theorem load_undefinedDelay_not_bounds :
    load undefinedDelay = .ok readFromUndefinedDelay ∧
      ¬readFromUndefinedDelay.pacing.Bounds (Pacer.start readFromUndefinedDelay.pacing) := by
  constructor
  · exact toOption_eq_some_iff.mp (by decide +kernel)
  · exact fun bounds => bounds.areDefined.initialDelay rfl

/-- A document without a bound for the interval, which grows to infinity at the first refusal. -/
def unlimitedDelay : ConfigSource where
  file := some ("settings.yaml", .ok (.map [(.str "rate_limit", .map [
    (.str "max_retry_delay", .float (.infinite false)), (.str "retry_multiplier", .str " +Inf ")])]))
  environment := []

def readFromUnlimitedDelay : Config :=
  { standard with pacing := ⟨1, .infinite false, .infinite false⟩ }

theorem load_boundsIntervals_iff_unlimitedDelay :
    load unlimitedDelay = .ok readFromUnlimitedDelay ∧ ∀ moves, readFromUnlimitedDelay.pacing.Bounds
      ((Pacer.start readFromUnlimitedDelay.pacing).afterMoves moves) := by
  have loaded : load unlimitedDelay = .ok readFromUnlimitedDelay :=
    toOption_eq_some_iff.mp (by decide +kernel)
  have defined : readFromUnlimitedDelay.pacing.AreDefined :=
    ⟨Binary64.one_ne_nan, by simp [readFromUnlimitedDelay], by simp [readFromUnlimitedDelay]⟩
  exact ⟨loaded, (load_boundsIntervals_iff loaded).mpr defined⟩

end Config

end FilterQuery
