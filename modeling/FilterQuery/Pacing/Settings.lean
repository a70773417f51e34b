import FilterQuery.Number.Shortest

/-!
# Pacing settings

How far apart requests are kept: an interval to start with, the factor by which it grows when a
request is refused for coming too early, and its upper bound.
-/

set_option autoImplicit false

namespace FilterQuery.Pacing

/-- The settings of a pacer, in seconds. -/
structure Settings where
  initialDelay : Binary64
  maxDelay : Binary64
  multiplier : Binary64
  deriving DecidableEq

inductive SettingsError where
  | initialDelay (value : Binary64)
  | maxDelay (value : Binary64)
  | multiplier (value : Binary64)
  | order (initialDelay maxDelay : Binary64)
  deriving DecidableEq

def SettingsError.message : SettingsError → String
  | .initialDelay value => s!"initial_delay must be > 0, got {value.shown}"
  | .maxDelay value => s!"max_delay must be > 0, got {value.shown}"
  | .multiplier value => s!"retry_multiplier must be > 1.0, got {value.shown}"
  | .order initial most =>
      s!"initial_delay ({initial.shown}) must be <= max_delay ({most.shown})"

namespace Settings

/-- A tenth of a second, doubled on every refusal up to five seconds. -/
def standard : Settings := ⟨.ofRatio false 1 10, 5, 2⟩

/-- Refuses delays that are zero or negative, a factor that does not grow the interval, and an
initial delay above the upper bound. No comparison refuses an undefined number. -/
def check (settings : Settings) : Except SettingsError Unit :=
  if settings.initialDelay ≤ 0 then .error (.initialDelay settings.initialDelay)
  else if settings.maxDelay ≤ 0 then .error (.maxDelay settings.maxDelay)
  else if settings.multiplier ≤ 1 then .error (.multiplier settings.multiplier)
  else if settings.maxDelay < settings.initialDelay then
    .error (.order settings.initialDelay settings.maxDelay)
  else .ok ()

end Settings

end FilterQuery.Pacing
