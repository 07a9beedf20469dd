/-
This file holds what remains between passes: the timeout of a stop phase, whether the last pass
left the components running, and whether there is a registry to take components from.
-/

import PhasedLifecycle.Error
import PhasedLifecycle.Text.Duration

namespace PhasedLifecycle

/-- What an orchestrator of passes remembers: the fields of a `DefaultLifecycleProcessor`. -/
structure Orchestrator where
  timeout : Nat := 30000
  isRunning : Bool := false
  isAttached : Bool := false
  deriving DecidableEq

namespace Orchestrator

/-- Sets the timeout in milliseconds; a word of 64 bits holds it, and more counts as the most that
fits. -/
def setTimeout (orchestrator : Orchestrator) (timeout : Nat) : Orchestrator :=
  { orchestrator with timeout := min timeout 0xffffffffffffffff }

/-- The refusal of a pass without a registry. -/
def noRegistry : LifecycleError :=
  .registryUnavailable "生命周期处理器尚未关联组件注册表"

/-- The orchestrator with all its fields. -/
def diagnostic (orchestrator : Orchestrator) : String :=
  Text.record "DefaultLifecycleProcessor"
    [("timeout_per_shutdown_phase", Text.duration orchestrator.timeout),
      ("running", toString orchestrator.isRunning),
      ("registry_attached", toString orchestrator.isAttached)]

end Orchestrator

end PhasedLifecycle
