/-
This file says how a build ends, from what the blueprint asks for and what the given registry holds. A
build goes through four checks in a row, and each of them leaves the registry in a state of its own when
it fails: untouched if the settings will not do, with the components before the first taken name if a
name is taken, and with everything in it if the dependencies run in a circle. The circle may lead over
components and dependencies that were there before.
-/

import PhasedLifecycle.Proofs.CircleOrder
import PhasedLifecycle.Proofs.Courses
import PhasedLifecycle.Proofs.RegistryModel

namespace PhasedLifecycle

/-! ### The steps of a build -/

/-- The registry with more members. -/
def Registry.joined (registry : Registry) (members : List Member) : Registry :=
  { registry with members := registry.members ++ members }

/-- The registry with more dependencies. -/
def Registry.linked (registry : Registry) (pairs : List (String × String)) : Registry :=
  pairs.foldl (fun registry pair => registry.record pair.1 pair.2) registry

namespace Registry

theorem names_joined (registry : Registry) (members : List Member) :
    (registry.joined members).names = registry.names ++ members.map (·.name) :=
  List.map_append

theorem members_linked (registry : Registry) (pairs : List (String × String)) :
    (registry.linked pairs).members = registry.members := by
  unfold linked
  induction pairs generalizing registry with
  | nil => rfl
  | cons pair pairs inductionHypothesis =>
    rw [List.foldl_cons, inductionHypothesis, members_record]

/-- Components and dependencies do not get in each other's way. -/
theorem linked_joined (registry : Registry) (members : List Member) (pairs : List (String × String)) :
    (registry.joined members).linked pairs = (registry.linked pairs).joined members := by
  unfold linked
  induction pairs generalizing registry with
  | nil => rfl
  | cons pair pairs inductionHypothesis =>
    have first : (registry.joined members).record pair.1 pair.2 =
        (registry.record pair.1 pair.2).joined members := by
      unfold record
      rw [show (registry.joined members).isRecorded pair.1 pair.2 = registry.isRecorded pair.1 pair.2
        from rfl]
      split <;> rfl
    rw [List.foldl_cons, first, inductionHypothesis, List.foldl_cons]

end Registry

namespace Blueprint

/-- As long as names are free, components are registered one after the other. -/
theorem endsLike_registerAll {registry : Registry} {earlier : List Member}
    (free : (registry.names ++ earlier.map (·.name)).Nodup) (later : List Member) :
    (registerAll registry (earlier ++ later)).EndsLike (registerAll (registry.joined earlier) later) := by
  induction earlier generalizing registry with
  | nil =>
    rw [Registry.joined, List.append_nil]
    exact ⟨rfl, rfl⟩
  | cons member earlier inductionHypothesis =>
    have fresh : ¬ registry.contains member.name = true := by
      rw [Registry.contains_iff]
      exact fun there => (List.nodup_append.mp free).2.2 _ there _ List.mem_cons_self rfl
    have registers : registry.register member.name member.component =
        .ok (registry.joined [member]) := if_neg fresh
    have rest := @inductionHypothesis (registry.joined [member]) (by
      rw [Registry.names_joined, List.append_assoc]
      exact free)
    have both : (registry.joined [member]).joined earlier = registry.joined (member :: earlier) := by
      simp [Registry.joined]
    rw [both] at rest
    rw [List.cons_append, registerAll, registers]
    exact rest

/-- The first name that is taken ends the registrations. -/
theorem endsLike_registerAll_of_taken {registry : Registry} {earlier later : List Member}
    {member : Member} (free : (registry.names ++ earlier.map (·.name)).Nodup)
    (taken : member.name ∈ registry.names ++ earlier.map (·.name)) :
    (registerAll registry (earlier ++ member :: later)).EndsLike
      { outcome := .error (.dependency (.registration member.name "组件名称已存在"))
        registry := registry.joined earlier } := by
  refine (endsLike_registerAll free (member :: later)).trans ?_
  rw [← Registry.names_joined] at taken
  have refuses : (registry.joined earlier).register member.name member.component =
      .error (.registration member.name "组件名称已存在") :=
    if_pos ((Registry.contains_iff _ _).mpr taken)
  rw [registerAll, refuses]
  exact ⟨rfl, rfl⟩

theorem endsLike_recordAll (registry : Registry) (pairs : List (String × String)) :
    (recordAll registry pairs).EndsLike { outcome := .ok (), registry := registry.linked pairs } := by
  induction pairs generalizing registry with
  | nil => exact ⟨rfl, rfl⟩
  | cons pair pairs inductionHypothesis =>
    obtain ⟨outcome, left⟩ := inductionHypothesis (registry.record pair.1 pair.2)
    rw [recordAll]
    split <;> exact ⟨outcome, left⟩

/-- What a build goes by: the given settings, else what their source tells, else the default. -/
def chosen (blueprint : Blueprint) : Except ConfigError Settings :=
  match blueprint.settings, blueprint.source with
  | some settings, _ => .ok settings
  | none, some source => source.outcome
  | none, none => .ok {}

theorem outcome_chooseSettings (blueprint : Blueprint) (registry : Registry) :
    (blueprint.chooseSettings registry).outcome = (do
      let settings ← blueprint.chosen.mapError .config
      settings.validate.mapError .config
      return settings) := by
  unfold chooseSettings chosen
  cases blueprint.settings with
  | some settings => rfl
  | none => cases blueprint.source <;> rfl

/-- The registry that a build leaves if all its names are free. -/
def filled (blueprint : Blueprint) (registry : Registry) : Registry :=
  (registry.joined blueprint.members).linked blueprint.dependencies

/-- A build with settings that will do begins with the registrations. -/
theorem endsLike_build_of_chosen {blueprint : Blueprint} {settings : Settings}
    (chosen : blueprint.chosen = .ok settings) (positive : 0 < settings.timeout) (registry : Registry) :
    (blueprint.build registry).EndsLike
      ((registerAll registry blueprint.members).andThen fun _ registry =>
        (recordAll registry blueprint.dependencies).andThen fun _ registry =>
        (blueprint.check registry).andThen fun _ registry =>
          { outcome := .ok (Container.create settings registry.size)
            registry
            notices := [.built registry.size settings.timeout] }) := by
  refine Build.endsLike_andThen_of_ok ?_
  rw [outcome_chooseSettings, chosen]
  show (do
    (settings.validate.mapError InfrastructureError.config)
    pure settings) = .ok settings
  rw [(Settings.validate_eq_ok_iff settings).mpr positive]
  rfl

/-- A build whose settings cannot be had or break the rule goes no further. -/
theorem endsLike_build_of_fault {blueprint : Blueprint} {error : ConfigError}
    (fault : blueprint.chosen = .error error ∨
      ∃ settings, blueprint.chosen = .ok settings ∧ settings.validate = .error error)
    (registry : Registry) :
    (blueprint.build registry).EndsLike { outcome := .error (.config error), registry } := by
  refine Build.endsLike_andThen_of_error ?_
  rw [outcome_chooseSettings]
  rcases fault with unbound | ⟨settings, chosen, invalid⟩
  · rw [unbound]
    rfl
  · rw [chosen]
    show (do
      settings.validate.mapError InfrastructureError.config
      pure settings) = .error (.config error)
    rw [invalid]
    rfl

/-- A build whose names are all free leaves everything in the registry, and fails only by the check. -/
theorem endsLike_build_of_free {blueprint : Blueprint} {settings : Settings} {registry : Registry}
    (chosen : blueprint.chosen = .ok settings) (positive : 0 < settings.timeout)
    (free : (registry.names ++ blueprint.members.map (·.name)).Nodup) :
    (blueprint.build registry).EndsLike
      ((blueprint.check (blueprint.filled registry)).andThen fun _ registry =>
        { outcome := .ok (Container.create settings registry.size)
          registry
          notices := [.built registry.size settings.timeout] }) := by
  refine (endsLike_build_of_chosen chosen positive registry).trans ?_
  obtain ⟨registers, joined⟩ := endsLike_registerAll free []
  rw [List.append_nil] at registers joined
  refine (Build.endsLike_andThen_of_ok registers).trans ?_
  rw [joined]
  obtain ⟨records, linked⟩ :=
    endsLike_recordAll (registry.joined blueprint.members) blueprint.dependencies
  refine (Build.endsLike_andThen_of_ok records).trans ?_
  rw [linked]
  exact ⟨rfl, rfl⟩

end Blueprint

/-! ### What is in the registry then -/

namespace Blueprint

variable {blueprint : Blueprint} {registry : Registry}

/-- The first name that is taken, if one is. -/
theorem exists_taken_of_not_nodup (once : registry.names.Nodup) {members : List Member}
    (twice : ¬ (registry.names ++ members.map (·.name)).Nodup) :
    ∃ earlier member later, members = earlier ++ member :: later ∧
      (registry.names ++ earlier.map (·.name)).Nodup ∧
      member.name ∈ registry.names ++ earlier.map (·.name) := by
  induction members using List.reverseRecOn with
  | nil => exact absurd (by simpa using once) twice
  | append_singleton members member inductionHypothesis =>
    by_cases free : (registry.names ++ members.map (·.name)).Nodup
    · refine ⟨members, member, [], rfl, free, ?_⟩
      by_contra absent
      rw [List.map_append, List.map_singleton, ← List.append_assoc] at twice
      refine twice (List.nodup_append.mpr
        ⟨free, List.nodup_singleton _, fun name there other last same => ?_⟩)
      rw [List.mem_singleton] at last
      exact absent (last ▸ same ▸ there)
    · obtain ⟨earlier, taken, later, rfl, rest⟩ := inductionHypothesis free
      exact ⟨earlier, taken, later ++ [member], by simp, rest⟩

theorem members_filled : (blueprint.filled registry).members = registry.members ++ blueprint.members :=
  Registry.members_linked _ _

end Blueprint

/-- What is on record after some more dependencies were recorded is what was, and these. -/
theorem Registry.Holds.linked {registry : Registry} {recorded : List Dependency}
    (holds : registry.Holds recorded) (pairs : List (String × String)) :
    ∃ all, (registry.linked pairs).Holds all ∧
      ∀ name dependency, ⟨name, dependency⟩ ∈ all ↔
        ⟨name, dependency⟩ ∈ recorded ∨ (name, dependency) ∈ pairs := by
  induction pairs generalizing registry recorded with
  | nil => exact ⟨recorded, holds, fun name dependency => by simp⟩
  | cons pair pairs inductionHypothesis =>
    obtain ⟨all, later, same⟩ := inductionHypothesis (holds.record pair.1 pair.2)
    refine ⟨all, later, fun name dependency => ?_⟩
    have first : ⟨name, dependency⟩ ∈ (if ⟨pair.1, pair.2⟩ ∈ recorded then recorded
        else recorded ++ [⟨pair.1, pair.2⟩]) ↔
          ⟨name, dependency⟩ ∈ recorded ∨ (name, dependency) = pair := by
      obtain ⟨dependent, needed⟩ := pair
      split
      · rename_i known
        refine ⟨Or.inl, fun either => either.elim id fun its => ?_⟩
        obtain ⟨rfl, rfl⟩ := Prod.mk.inj its
        exact known
      · simp
    rw [same, first, List.mem_cons, or_assoc]

/-- How a build ends on a registry, and what it leaves of it. -/
structure Blueprint.BuildsOn (blueprint : Blueprint) (before : Registry) (built : Build Container) :
    Prop where
  /-- Given settings win, and no source is asked then. -/
  given : ∀ settings, blueprint.settings = some settings → ∀ source,
    blueprint.chosen = .ok settings ∧ built = { blueprint with source }.build before
  /-- Settings that cannot be had, or break the rule, leave the registry as it was. -/
  fault : ∀ error, (blueprint.chosen = .error error ∨
      ∃ settings, blueprint.chosen = .ok settings ∧ settings.timeout = 0 ∧
        error = .invalid Settings.rule) →
    built.outcome = .error (.config error) ∧ built.registry = before
  /-- If a name is taken, there before or by the build itself, the first such name is refused, and the
  components before it stay. -/
  taken : ∀ settings, blueprint.chosen = .ok settings → 0 < settings.timeout →
    ¬ (before.names ++ blueprint.members.map (·.name)).Nodup →
    ∃ earlier member later, blueprint.members = earlier ++ member :: later ∧
      (before.names ++ earlier.map (·.name)).Nodup ∧
      member.name ∈ before.names ++ earlier.map (·.name) ∧
      built.outcome = .error (.dependency (.registration member.name "组件名称已存在")) ∧
      built.registry = { before with members := before.members ++ earlier }
  /-- If all names are free, everything is in the registry, and only a circle makes the build fail. -/
  free : ∀ settings, blueprint.chosen = .ok settings → 0 < settings.timeout →
    (before.names ++ blueprint.members.map (·.name)).Nodup →
    built.registry = blueprint.filled before ∧
    ((blueprint.validates = true ∧
        ∃ name, OnCircle built.registry.dependenciesOf built.registry.names name) →
      ∃ circle, built.registry.circle? = some circle ∧
        built.outcome = .error (.dependency (.circular circle.chain))) ∧
    (¬ (blueprint.validates = true ∧
        ∃ name, OnCircle built.registry.dependenciesOf built.registry.names name) →
      ∃ container, built.outcome = .ok container ∧ container.status = .initialized ∧
        container.settings = settings ∧ container = .create settings built.registry.size)
  /-- What is in the registry if all names are free. -/
  members : (blueprint.filled before).members = before.members ++ blueprint.members
  dependencies : ∀ name dependency, dependency ∈ (blueprint.filled before).dependenciesOf name ↔
    dependency ∈ before.dependenciesOf name ∨ (name, dependency) ∈ blueprint.dependencies
  dependents : ∀ name dependent, dependent ∈ (blueprint.filled before).dependentsOf name ↔
    dependent ∈ before.dependentsOf name ∨ (dependent, name) ∈ blueprint.dependencies
  /-- Which builds end well. -/
  succeeds : (∃ container, built.outcome = .ok container) ↔
    ∃ settings, blueprint.chosen = .ok settings ∧ 0 < settings.timeout ∧
      (before.names ++ blueprint.members.map (·.name)).Nodup ∧
      (blueprint.validates = true → ∀ name,
        ¬ OnCircle (blueprint.filled before).dependenciesOf (blueprint.filled before).names name)

namespace Blueprint

variable {blueprint : Blueprint} {before : Registry} {settings : Settings}

theorem build_of_given (given : blueprint.settings = some settings) (source : Option SettingsSource)
    (registry : Registry) :
    blueprint.chosen = .ok settings ∧
      blueprint.build registry = { blueprint with source }.build registry := by
  obtain ⟨members, dependencies, _, _, validates⟩ := blueprint
  obtain rfl : _ = some settings := given
  exact ⟨rfl, rfl⟩

theorem build_of_taken {earlier later : List Member} {member : Member}
    (chosen : blueprint.chosen = .ok settings) (positive : 0 < settings.timeout)
    (place : blueprint.members = earlier ++ member :: later)
    (free : (before.names ++ earlier.map (·.name)).Nodup)
    (taken : member.name ∈ before.names ++ earlier.map (·.name)) :
    (blueprint.build before).EndsLike
      { outcome := .error (.dependency (.registration member.name "组件名称已存在"))
        registry := before.joined earlier } := by
  refine (endsLike_build_of_chosen chosen positive before).trans ?_
  have registers := @endsLike_registerAll_of_taken before earlier later member free taken
  rw [← place] at registers
  obtain ⟨refused, left⟩ := registers
  refine (Build.endsLike_andThen_of_error refused).trans ?_
  rw [left]
  exact ⟨rfl, rfl⟩

/-- The check fails just if the blueprint asks for it and there is a circle. -/
theorem endsLike_check {Result : Type} (registry : Registry) (next : Unit → Registry → Build Result) :
    ((blueprint.validates = true ∧ ∃ name, OnCircle registry.dependenciesOf registry.names name) →
      ∃ circle, registry.circle? = some circle ∧
        ((blueprint.check registry).andThen next).EndsLike
          { outcome := .error (.dependency (.circular circle.chain)), registry }) ∧
    (¬ (blueprint.validates = true ∧
        ∃ name, OnCircle registry.dependenciesOf registry.names name) →
      ((blueprint.check registry).andThen next).EndsLike (next () registry)) := by
  have none := registry.circle?_eq_none_iff
  cases asked : blueprint.validates with
  | false =>
    have checked : blueprint.check registry = { outcome := .ok (), registry } := by
      rw [check, asked]
      rfl
    rw [checked]
    exact ⟨fun both => Bool.noConfusion both.1, fun _ => Build.endsLike_andThen_of_ok rfl⟩
  | true =>
    cases found : registry.circle? with
    | none =>
      have checked : blueprint.check registry =
          { outcome := .ok (), registry, notices := [.checkingCycles] } := by
        rw [check, asked, found]
        rfl
      rw [checked]
      exact ⟨fun both => absurd both.2 (not_exists.mpr (none.mp found)),
        fun _ => Build.endsLike_andThen_of_ok rfl⟩
    | some circle =>
      have checked : blueprint.check registry =
          { outcome := .error (.dependency (.circular circle.chain))
            registry
            notices := [.checkingCycles, .cycleFound circle.chain] } := by
        rw [check, asked, found]
        rfl
      rw [checked]
      refine ⟨fun _ => ⟨circle, rfl, Build.endsLike_andThen_of_error rfl⟩, fun straight => ?_⟩
      rw [none.mpr fun name circle => straight ⟨rfl, name, circle⟩] at found
      cases found

theorem build_of_free (chosen : blueprint.chosen = .ok settings) (positive : 0 < settings.timeout)
    (free : (before.names ++ blueprint.members.map (·.name)).Nodup) :
    ((blueprint.validates = true ∧ ∃ name, OnCircle (blueprint.filled before).dependenciesOf
        (blueprint.filled before).names name) →
      ∃ circle, (blueprint.filled before).circle? = some circle ∧
        (blueprint.build before).EndsLike
          { outcome := .error (.dependency (.circular circle.chain))
            registry := blueprint.filled before }) ∧
    (¬ (blueprint.validates = true ∧ ∃ name, OnCircle (blueprint.filled before).dependenciesOf
        (blueprint.filled before).names name) →
      (blueprint.build before).EndsLike
        { outcome := .ok (.create settings (blueprint.filled before).size)
          registry := blueprint.filled before }) := by
  have goes := endsLike_build_of_free chosen positive free
  obtain ⟨round, straight⟩ := @endsLike_check blueprint _ (blueprint.filled before)
    fun _ registry =>
      { outcome := .ok (Container.create settings registry.size)
        registry
        notices := [.built registry.size settings.timeout] }
  refine ⟨fun both => ?_, fun neither => goes.trans (straight neither)⟩
  obtain ⟨circle, found, fails⟩ := round both
  exact ⟨circle, found, goes.trans fails⟩

/-- A build ends well just if none of its four checks fails. Whatever check fails, the outcome is an
error then, and no container. -/
theorem exists_container_iff (once : before.names.Nodup) :
    (∃ container, (blueprint.build before).outcome = .ok container) ↔
      ∃ settings, blueprint.chosen = .ok settings ∧ 0 < settings.timeout ∧
        (before.names ++ blueprint.members.map (·.name)).Nodup ∧
        (blueprint.validates = true → ∀ name,
          ¬ OnCircle (blueprint.filled before).dependenciesOf (blueprint.filled before).names name) := by
  constructor
  · rintro ⟨container, built⟩
    have fails : ∀ {error left},
        (blueprint.build before).EndsLike ⟨.error error, left, []⟩ → False :=
      fun ends => by
        rw [ends.1] at built
        cases built
    cases chosen : blueprint.chosen with
    | error error => exact (fails (endsLike_build_of_fault (.inl chosen) before)).elim
    | ok settings =>
      have positive : 0 < settings.timeout := by
        refine Nat.pos_of_ne_zero fun zero => ?_
        have invalid : settings.validate = .error (.invalid Settings.rule) := if_pos zero
        exact fails (endsLike_build_of_fault (.inr ⟨settings, chosen, invalid⟩) before)
      have free : (before.names ++ blueprint.members.map (·.name)).Nodup := by
        by_contra twice
        obtain ⟨earlier, member, later, place, free, taken⟩ := exists_taken_of_not_nodup once twice
        exact fails (build_of_taken chosen positive place free taken)
      refine ⟨settings, rfl, positive, free, fun asked name circle => ?_⟩
      obtain ⟨_, -, ends⟩ := (build_of_free chosen positive free).1 ⟨asked, name, circle⟩
      exact fails ends
  · rintro ⟨settings, chosen, positive, free, straight⟩
    have ends := (build_of_free chosen positive free).2 fun ⟨asked, name, circle⟩ =>
      straight asked name circle
    exact ⟨_, ends.1⟩

/-- Every build on a registry that can be reached ends in one of these ways. What is on record does not
depend on the members, which may hold a name twice here. -/
theorem buildsOn (operations : List Operation) (blueprint : Blueprint) :
    blueprint.BuildsOn (Registry.after operations) (blueprint.build (Registry.after operations)) := by
  have holds := Registry.holds_after operations
  generalize Registry.after operations = before at holds
  generalize recordedBy operations = recorded at holds
  obtain ⟨all, linked, same⟩ := holds.linked blueprint.dependencies
  have filled : blueprint.filled before = (before.linked blueprint.dependencies).joined blueprint.members :=
    Registry.linked_joined _ _ _
  constructor
  · exact fun settings given source => build_of_given given source before
  · intro error fault
    refine endsLike_build_of_fault (fault.imp_right fun ⟨settings, chosen, zero, same⟩ => ?_) before
    refine ⟨settings, chosen, ?_⟩
    rw [same, Settings.validate, if_pos zero]
  · intro settings chosen positive twice
    obtain ⟨earlier, member, later, place, free, taken⟩ := exists_taken_of_not_nodup holds.once twice
    obtain ⟨refused, left⟩ := build_of_taken chosen positive place free taken
    exact ⟨earlier, member, later, place, free, taken, refused, left⟩
  · intro settings chosen positive free
    obtain ⟨round, straight⟩ := build_of_free chosen positive free
    have left : (blueprint.build before).registry = blueprint.filled before := by
      by_cases both : blueprint.validates = true ∧ ∃ name,
          OnCircle (blueprint.filled before).dependenciesOf (blueprint.filled before).names name
      · obtain ⟨_, -, ends⟩ := round both
        exact ends.2
      · exact (straight both).2
    rw [left]
    refine ⟨rfl, fun both => ?_, fun neither => ⟨_, (straight neither).1, rfl, rfl, rfl⟩⟩
    obtain ⟨circle, found, ends⟩ := round both
    exact ⟨circle, found, ends.1⟩
  · exact members_filled
  · intro name dependency
    rw [filled, holds.mem_dependenciesOf, ← same]
    exact linked.mem_dependenciesOf name dependency
  · intro name dependent
    rw [filled, holds.mem_dependentsOf, ← same]
    exact linked.mem_dependentsOf name dependent
  · exact exists_container_iff holds.once

end Blueprint

/-! ### Builds in the world -/

namespace Rehearsal

/-- What a script asks to be built. -/
def BuildScript.blueprint (script : BuildScript) (world : World) : Blueprint where
  members := script.roles.map world.member
  dependencies := script.dependencies
  settings := script.settings
  source := script.source
  validates := script.validates.getD true

/-- The registry that a script builds on. -/
def BuildScript.ground (script : BuildScript) (world : World) : Registry :=
  if script.fresh then {} else world.presentRegistry

/-- What a build makes of the world around it. -/
structure BuildScript.Enacts (script : BuildScript) (world : World) (built : Build Container) : Prop where
  /-- A build that fails adds no container, and leaves what it did to a registry that was there. -/
  failed : ∀ error, built.outcome = .error error →
    (world.build script).1 = .infrastructureError error ∧
    (world.build script).2.housings = world.housings ∧
    (script.fresh = false → (world.build script).2.presentRegistry = built.registry)
  /-- A build that ends well adds its container, around the registry it worked on, with an orchestrator
  that has a registry, does not run, and has the timeout of the settings. -/
  ended : ∀ container, built.outcome = .ok container →
    (world.build script).1 = .done ∧
    ∃ housing : Housing, (world.build script).2.housings = world.housings ++ [housing] ∧
      housing.container = container ∧
      (world.build script).2.registryAt housing.registry = built.registry ∧
      housing.orchestrator.isAttached = true ∧ housing.orchestrator.isRunning = false ∧
      (container.settings.timeout < 0x10000000000000000 →
        housing.orchestrator.timeout = container.settings.timeout)

theorem BuildScript.enacts (script : BuildScript) {world : World}
    (present : world.registry < world.registries.length) :
    script.Enacts world ((script.blueprint world).build (script.ground world)) := by
  constructor
  · intro error failed
    unfold World.build
    dsimp only
    split
    · rename_i same
      obtain rfl := Except.error.inj (failed.symm.trans same)
      refine ⟨rfl, ?_, fun given => ?_⟩
      · split <;> rfl
      · rw [given, if_neg Bool.false_ne_true]
        show (world.registries.set world.registry _).getD world.registry {} = _
        rw [List.getD_eq_getElem?_getD, List.getElem?_set_self present, ground, given]
        rfl
    · rename_i same
      cases failed.symm.trans same
  · intro container ended
    unfold World.build
    dsimp only
    split
    · rename_i same
      cases ended.symm.trans same
    · rename_i same
      obtain rfl := Except.ok.inj (ended.symm.trans same)
      refine ⟨rfl, ⟨container,
        { isAttached := true : Orchestrator }.setTimeout container.settings.timeout,
        if script.fresh then world.registries.length else world.registry⟩, ?_, rfl, ?_, rfl, rfl, ?_⟩
      · split <;> rfl
      · cases given : script.fresh with
        | true =>
          show (world.registries ++ [_]).getD world.registries.length {} = _
          rw [List.getD_eq_getElem?_getD, List.getElem?_concat_length, ground, given]
          rfl
        | false =>
          show (world.registries.set world.registry _).getD world.registry {} = _
          rw [List.getD_eq_getElem?_getD, List.getElem?_set_self present, ground, given]
          rfl
      · exact fun fits => Nat.min_eq_left (Nat.le_of_lt_succ fits)

end Rehearsal

/-- Builds succeed exactly when they should, and leave a trace that tells how far they came.

Whatever was done to a registry before, and whatever a blueprint asks for: the given settings win, and no
source is asked then. Settings that cannot be had or whose timeout is zero leave the registry as it was.
Otherwise the first name that is taken, in the registry or by the build, is refused, and the components
before it stay registered, without a new dependency. Otherwise all components and dependencies are on
record, and the build fails just if it checks for circles and a registered name lies on one, be it over
old components and old dependencies. Otherwise there is a new container with the settings.

In a world, a build that fails adds no container; one that ends well adds its container around the
registry it worked on, with an orchestrator that has the timeout of the settings, a word of 64 bits. -/
theorem builds_succeed_or_leave_a_trace :
    (∀ (operations : List Operation) (blueprint : Blueprint),
      blueprint.BuildsOn (Registry.after operations) (blueprint.build (Registry.after operations))) ∧
    ∀ (script : Rehearsal.BuildScript) (world : Rehearsal.World),
      world.registry < world.registries.length →
      script.Enacts world ((script.blueprint world).build (script.ground world)) :=
  ⟨Blueprint.buildsOn, fun script _ present => script.enacts present⟩

/-- A registry with a queue that depends on a site to come. -/
def queueFirst : List Operation :=
  [.register "queue" ⟨"queue", .smart⟩, .dependsOn "queue" "site"]

/-- The site, which depends on the queue. -/
def siteNext (validates : Bool) : Blueprint where
  members := [⟨"site", ⟨"site", .plain⟩⟩]
  dependencies := [("site", "queue")]
  settings := some { timeout := 500 }
  source := some { outcome := .error (.unreadable "") }
  validates := validates

/-- A world with a component and an empty registry. -/
def siteAlone : Rehearsal.World :=
  { actors := [{ id := "site", kind := .plain }] }

def siteScript : Rehearsal.BuildScript :=
  { roles := [⟨"site", "site"⟩], settings := some { timeout := 500 } }

theorem site_closes_circle_of_queue :
    (∃ circle, ((siteNext true).build (Registry.after queueFirst)).registry.circle? = some circle ∧
      ((siteNext true).build (Registry.after queueFirst)).outcome =
        .error (.dependency (.circular circle.chain))) ∧
    (∃ container, ((siteNext false).build (Registry.after queueFirst)).outcome = .ok container ∧
      container.status = .initialized ∧ container.settings = { timeout := 500 }) ∧
    ((siteNext true).build (Registry.after [.register "site" ⟨"other", .plain⟩])).outcome =
      .error (.dependency (.registration "site" "组件名称已存在")) ∧
    ∃ housing : Rehearsal.Housing, (siteAlone.build siteScript).2.housings = [housing] ∧
      housing.orchestrator.timeout = 500 := by
  obtain ⟨builds, worlds⟩ := builds_succeed_or_leave_a_trace
  obtain ⟨-, circular, -⟩ := (builds queueFirst (siteNext true)).free { timeout := 500 } rfl (by decide)
    (by decide)
  obtain ⟨-, -, fine⟩ := (builds queueFirst (siteNext false)).free { timeout := 500 } rfl (by decide)
    (by decide)
  obtain ⟨container, built, status, settings, -⟩ := fine fun both => Bool.noConfusion both.1
  obtain ⟨earlier, member, later, place, -, -, refused, -⟩ :=
    (builds [.register "site" ⟨"other", .plain⟩] (siteNext true)).taken { timeout := 500 } rfl
      (by decide) (by decide)
  have only : member ∈ (siteNext true).members :=
    place ▸ List.mem_append_right _ List.mem_cons_self
  rw [List.mem_singleton.mp only] at refused
  have circle : OnCircle ((siteNext true).build (Registry.after queueFirst)).registry.dependenciesOf
      ((siteNext true).build (Registry.after queueFirst)).registry.names "queue" :=
    .tail (.single ⟨by decide, by decide, (by decide : "site" ∈ _)⟩)
      ⟨by decide, by decide, by decide⟩
  have ended := (worlds siteScript siteAlone (by decide)).ended
    (.create { timeout := 500 } 1) (by rfl)
  obtain ⟨-, housing, housings, -, -, -, -, timeout⟩ := ended
  exact ⟨circular ⟨rfl, "queue", circle⟩, ⟨container, built, status, settings⟩, refused, housing,
    housings, timeout (by decide)⟩

end PhasedLifecycle
