/-
This file models a container around a set of components: a status, figures about its life, and the
report of its stop. A container is refreshed at most once and closed at most once. Both take time,
during which the components run and may call back, so each is two steps: one that is accepted or
rejected by the status, and one that notes the outcome.
-/

import PhasedLifecycle.Instant
import PhasedLifecycle.Report
import PhasedLifecycle.Settings

namespace PhasedLifecycle

/-! ### Status -/

/-- The stages of a container's life. -/
inductive ContainerStatus where
  | initialized
  | starting
  | running
  | stopping
  | stopped
  | failed
  deriving DecidableEq

namespace ContainerStatus

/-- All stages. -/
def all : List ContainerStatus :=
  [.initialized, .starting, .running, .stopping, .stopped, .failed]

/-- The name of the stage. -/
def label : ContainerStatus → String
  | .initialized => "Initialized"
  | .starting => "Starting"
  | .running => "Running"
  | .stopping => "Stopping"
  | .stopped => "Stopped"
  | .failed => "Failed"

/-- The stage of a name. -/
def ofLabel? (label : String) : Option ContainerStatus :=
  all.find? (·.label == label)

theorem ofLabel?_label (status : ContainerStatus) : ofLabel? status.label = some status := by
  cases status <;> rfl

/-- Whether a refresh may begin. -/
def allowsRefresh (status : ContainerStatus) : Bool :=
  status == .initialized

/-- Whether a close may begin. -/
def allowsClose (status : ContainerStatus) : Bool :=
  status == .initialized || status == .running || status == .failed

end ContainerStatus

/-! ### Figures -/

/-- Figures about the life of a container: its `ContainerMetrics`. Durations count milliseconds. -/
structure Metrics where
  startTime : Option Instant := none
  stopTime : Option Instant := none
  startupDuration : Option Int := none
  shutdownDuration : Option Int := none
  registered : Nat := 0
  running : Nat := 0
  stopFailures : Nat := 0
  timedOutPhases : Nat := 0
  deriving DecidableEq

/-- The milliseconds from the start to the stop or, before the stop, to the present. -/
def Metrics.uptime (metrics : Metrics) (now : Instant) : Option Int :=
  metrics.startTime.map fun start => start.millisecondsUntil (metrics.stopTime.getD now)

/-! ### The container -/

/-- A container: its settings, its status, its figures and the report of its stop. It is a
`LifecycleContainer` without its registry and its processor. -/
structure Container where
  settings : Settings
  status : ContainerStatus := .initialized
  metrics : Metrics := {}
  lastReport : Option StopReport := none
  deriving DecidableEq

namespace Container

/-- A new container around so many registered components. -/
def create (settings : Settings) (registered : Nat) : Container :=
  { settings, metrics := { registered } }

/-- The refusal of an operation by the status. -/
def refusal (status : ContainerStatus) (operation : String) : InfrastructureError :=
  .invalidState ("容器当前状态为 " ++ status.label ++ "，无法" ++ operation)

/-- Begins a `refresh`, which only a new container accepts. -/
def beginRefresh (container : Container) (now : Instant) (registered : Nat) :
    Except InfrastructureError Container :=
  if container.status.allowsRefresh then
    .ok
      { container with
        status := .starting
        metrics := { container.metrics with startTime := some now, registered } }
  else .error (refusal container.status "刷新")

/-- Notes the outcome of a refresh. -/
def finishRefresh (container : Container) (elapsed : Int) (running : Nat)
    (outcome : Except LifecycleError Unit) : Container :=
  { container with
    status := match outcome with
      | .ok _ => .running
      | .error _ => .failed
    metrics := { container.metrics with startupDuration := some elapsed, running } }

/-- Begins a `close`, which a new, a running and a failed container accept. -/
def beginClose (container : Container) : Except InfrastructureError Container :=
  if container.status.allowsClose then .ok { container with status := .stopping }
  else .error (refusal container.status "关闭")

/-- Notes the outcome of a close: the report of the stop pass, or why there was none. -/
def finishClose (container : Container) (now : Instant) (elapsed : Int) (running : Nat)
    (outcome : Except LifecycleError StopReport) : Container :=
  match outcome with
  | .error _ => { container with status := .failed }
  | .ok report =>
    { container with
      status := .stopped
      lastReport := some report
      metrics :=
        { container.metrics with
          stopTime := some now
          shutdownDuration := some elapsed
          running
          stopFailures := report.failures.length
          timedOutPhases := report.timeouts.length } }

end Container

end PhasedLifecycle
