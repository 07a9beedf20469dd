/-
This file holds the settings of a container. There is one: how long the end of each stop phase is
awaited. It must be positive.
-/

import PhasedLifecycle.Error

namespace PhasedLifecycle

/-- The settings of a container, its `LifecycleProperties`; the timeout of a stop phase counts
milliseconds. -/
structure Settings where
  timeout : Nat := 30000
  deriving DecidableEq

namespace Settings

/-- The section that holds the settings in what sources make up. -/
def sectionName : String := "lifecycle"

/-- The key of the timeout in it. -/
def timeoutKey : String := "timeout_per_shutdown_phase_ms"

/-- The rule that settings must keep. -/
def rule : String := "lifecycle.timeout_per_shutdown_phase_ms 必须大于 0"

/-- Accepts settings that keep the rule. -/
def validate (settings : Settings) : Except ConfigError Unit :=
  if settings.timeout = 0 then .error (.invalid rule) else .ok ()

/-- The timeout in whole seconds and the nanoseconds beyond them. -/
def duration (settings : Settings) : Nat × Nat :=
  (settings.timeout / 1000, settings.timeout % 1000 * 1000000)

/-- The settings with all their fields. -/
def diagnostic (settings : Settings) : String :=
  Text.record "LifecycleProperties"
    [("timeout_per_shutdown_phase_ms", toString settings.timeout)]

theorem validate_eq_ok_iff (settings : Settings) :
    settings.validate = .ok () ↔ 0 < settings.timeout := by
  unfold validate
  split <;> simp_all [Nat.pos_iff_ne_zero]

end Settings

end PhasedLifecycle
