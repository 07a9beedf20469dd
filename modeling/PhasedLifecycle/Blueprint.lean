/-
This file builds containers from blueprints. A build chooses the settings, registers the
components in order, records the dependencies, and may check that these run in no circle. It stops
at the first failure, and what it had done to a given registry until then stays done.
-/

import PhasedLifecycle.Container
import PhasedLifecycle.Notice
import PhasedLifecycle.Registry

namespace PhasedLifecycle

/-- Where settings come from when none are given: the outcome of the `bind` of a binder, with what was
reported on the way. -/
structure SettingsSource where
  outcome : Except ConfigError Settings
  notices : List Notice := []

/-- What a container is to be built from: a `ContainerBuilder`. -/
structure Blueprint where
  members : List Member := []
  /-- Pairs of a name and a name it depends on. -/
  dependencies : List (String × String) := []
  settings : Option Settings := none
  source : Option SettingsSource := none
  validates : Bool := true

/-- A build under way or done: its outcome, the registry it worked on, and what it reported. -/
structure Build (Outcome : Type) where
  outcome : Except InfrastructureError Outcome
  registry : Registry
  notices : List Notice := []

namespace Build

variable {First Second : Type}

/-- The build goes on from its outcome, unless it failed. -/
def andThen (build : Build First) (next : First → Registry → Build Second) : Build Second :=
  match build.outcome with
  | .error error => { build with outcome := .error error }
  | .ok value =>
    let rest := next value build.registry
    { rest with notices := build.notices ++ rest.notices }

/-- Two builds end alike and leave the same registry, whatever they reported. -/
def EndsLike (build other : Build First) : Prop :=
  build.outcome = other.outcome ∧ build.registry = other.registry

theorem EndsLike.trans {build other another : Build First} (first : build.EndsLike other)
    (second : other.EndsLike another) : build.EndsLike another :=
  ⟨first.1.trans second.1, first.2.trans second.2⟩

variable {build : Build First} {next : First → Registry → Build Second}

theorem endsLike_andThen_of_ok {value : First} (ended : build.outcome = .ok value) :
    (build.andThen next).EndsLike (next value build.registry) := by
  unfold andThen EndsLike
  rw [ended]
  exact ⟨rfl, rfl⟩

theorem endsLike_andThen_of_error {error : InfrastructureError} (ended : build.outcome = .error error) :
    (build.andThen next).EndsLike { outcome := .error error, registry := build.registry } := by
  unfold andThen EndsLike
  rw [ended]
  exact ⟨rfl, rfl⟩

/-- A build that goes on ends well only if both of its parts do. -/
theorem outcome_andThen_eq_ok {result : Second} (ended : (build.andThen next).outcome = .ok result) :
    ∃ value, build.outcome = .ok value ∧ (next value build.registry).outcome = .ok result := by
  cases first : build.outcome with
  | error error =>
    rw [(endsLike_andThen_of_error first).1] at ended
    cases ended
  | ok value => exact ⟨value, rfl, (endsLike_andThen_of_ok first).1.symm.trans ended⟩

end Build

namespace Blueprint

/-- The settings of a build: the given ones, else those of the source, else the default. Whichever
they are, they must keep the rule. -/
def chooseSettings (blueprint : Blueprint) (registry : Registry) : Build Settings :=
  let chosen : SettingsSource :=
    match blueprint.settings, blueprint.source with
    | some settings, _ => { outcome := .ok settings }
    | none, some source => source
    | none, none => { outcome := .ok {} }
  { outcome := do
      let settings ← chosen.outcome.mapError .config
      settings.validate.mapError .config
      return settings
    registry
    notices := chosen.notices }

/-- Registers components in order, up to the first whose name is taken: those of `add_component`. -/
def registerAll (registry : Registry) : List Member → Build Unit
  | [] => { outcome := .ok (), registry }
  | member :: members =>
    match registry.register member.name member.component with
    | .error error => { outcome := .error (.dependency error), registry }
    | .ok registry =>
      let rest := registerAll registry members
      { rest with
        notices := .registered member.name member.component.capability.label :: rest.notices }

/-- Records dependencies in order, those of `add_dependency`; those on record already are not reported. -/
def recordAll (registry : Registry) : List (String × String) → Build Unit
  | [] => { outcome := .ok (), registry }
  | (dependent, dependency) :: pairs =>
    let rest := recordAll (registry.record dependent dependency) pairs
    if registry.isRecorded dependent dependency then rest
    else { rest with notices := .dependencyRecorded dependent dependency :: rest.notices }

/-- Checks, where the blueprint asks for it by `enable_validation`, that dependencies run in no circle. -/
def check (blueprint : Blueprint) (registry : Registry) : Build Unit :=
  if !blueprint.validates then { outcome := .ok (), registry }
  else match registry.circle? with
    | none => { outcome := .ok (), registry, notices := [.checkingCycles] }
    | some circle =>
      { outcome := .error (.dependency (.circular circle.chain))
        registry
        notices := [.checkingCycles, .cycleFound circle.chain] }

/-- Builds a container on a registry. -/
def build (blueprint : Blueprint) (registry : Registry) : Build Container :=
  let build := (blueprint.chooseSettings registry).andThen fun settings registry =>
    (registerAll registry blueprint.members).andThen fun _ registry =>
    (recordAll registry blueprint.dependencies).andThen fun _ registry =>
    (blueprint.check registry).andThen fun _ registry =>
      { outcome := .ok (Container.create settings registry.size)
        registry
        notices := [.built registry.size settings.timeout] }
  { build with notices := .building :: build.notices }

/-- A build that ends well ends with a new container. -/
theorem container_of_build {blueprint : Blueprint} {registry : Registry} {container : Container}
    (built : (blueprint.build registry).outcome = .ok container) :
    ∃ settings registered, container = .create settings registered := by
  obtain ⟨settings, -, registering⟩ := Build.outcome_andThen_eq_ok built
  obtain ⟨-, -, recording⟩ := Build.outcome_andThen_eq_ok registering
  obtain ⟨-, -, checking⟩ := Build.outcome_andThen_eq_ok recording
  obtain ⟨-, -, creating⟩ := Build.outcome_andThen_eq_ok checking
  exact ⟨_, _, (Except.ok.inj creating).symm⟩

end Blueprint

end PhasedLifecycle
