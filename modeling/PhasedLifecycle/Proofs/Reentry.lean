/-
This file follows a container through a rehearsal, in which its components may refresh and close it again
while they are called, in passes nested as deep as they like. Whatever happens in the world unfolds into
moments of the container: calls that are refused, and refreshes and closes with everything that happens
within their passes. Everything else leaves the container alone.

So what is known of any life of a container is known of rehearsals.
-/

import PhasedLifecycle.Proofs.ContainerLife
import PhasedLifecycle.Proofs.Courses

namespace PhasedLifecycle.Rehearsal

/-- Whether the step calls a container. -/
def Step.callsContainer : Step → Bool
  | .refresh _ | .close _ => true
  | _ => false

namespace World

/-! ### Housings -/

/-- The container of a number is there after what happens as it was before, and has taken on no
status. -/
structure KeepsHousing (number : Nat) (before after : World) : Prop where
  statuses : after.statusesOf number = before.statusesOf number
  housing : ∀ housing, before.housings[number]? = some housing →
    ∃ later, after.housings[number]? = some later ∧ later.container = housing.container ∧
      later.registry = housing.registry ∧
      later.orchestrator.isAttached = housing.orchestrator.isAttached

theorem keepsHousing_of_housings {number : Nat} {before after : World}
    (same : after.housings = before.housings)
    (statuses : after.statusesOf number = before.statusesOf number) :
    KeepsHousing number before after :=
  ⟨statuses, fun housing there => ⟨housing, same ▸ there, rfl, rfl, rfl⟩⟩

theorem Aside.milestonesOf {before after : World} (aside : Aside before after) (seat : Seat) :
    after.milestonesOf seat = before.milestonesOf seat := by
  rw [World.milestonesOf, aside.history, World.milestonesOf]

theorem Aside.keepsHousing {before after : World} (aside : Aside before after) (number : Nat) :
    KeepsHousing number before after :=
  keepsHousing_of_housings aside.housings (congrArg _ (aside.milestonesOf _))

/-- A change of a container that is there replaces it, and is a milestone. -/
theorem changeContainer_of_there {world : World} {number : Nat} {housing : Housing}
    (there : world.housings[number]? = some housing) (change : Container → Container) :
    world.changeContainer number change =
      { world with
        housings := world.housings.set number
          { housing with container := change housing.container } }.mark
        (.housing number) (.became (change housing.container).status) := by
  rw [changeContainer, there]

theorem getElem?_changeContainer {world : World} {number : Nat} {housing : Housing}
    (there : world.housings[number]? = some housing) (change : Container → Container) :
    (world.changeContainer number change).housings[number]? =
      some { housing with container := change housing.container } := by
  rw [changeContainer_of_there there]
  exact List.getElem?_set_self (List.getElem?_eq_some_iff.mp there).1

theorem milestonesOf_changeContainer {world : World} {number : Nat} {housing : Housing}
    (there : world.housings[number]? = some housing) (change : Container → Container) :
    (world.changeContainer number change).milestonesOf (.housing number) =
      world.milestonesOf (.housing number) ++ [.became (change housing.container).status] := by
  rw [changeContainer_of_there there]
  exact milestonesOf_mark _ _ _

theorem statusesOf_changeContainer {world : World} {number : Nat} {housing : Housing}
    (there : world.housings[number]? = some housing) (change : Container → Container) :
    (world.changeContainer number change).statusesOf number =
      world.statusesOf number ++ [(change housing.container).status] := by
  rw [changeContainer_of_there there]
  exact statusesOf_mark _ _ _

/-- The change of a container leaves the others, and their milestones, alone. -/
theorem changeContainer_of_ne {number other : Nat} (different : other ≠ number) (world : World)
    (change : Container → Container) :
    (world.changeContainer other change).housings[number]? = world.housings[number]? ∧
      (world.changeContainer other change).milestonesOf (.housing number) =
        world.milestonesOf (.housing number) := by
  cases there : world.housings[other]? with
  | none =>
    rw [changeContainer, there]
    exact ⟨rfl, rfl⟩
  | some housing =>
    have apart : Seat.housing other ≠ .housing number := fun same => different (Seat.housing.inj same)
    rw [changeContainer_of_there there]
    exact ⟨List.getElem?_set_ne different, milestonesOf_mark_of_ne apart _ _⟩

theorem keepsHousing_changeContainer {number other : Nat} (different : other ≠ number)
    (world : World) (change : Container → Container) :
    KeepsHousing number world (world.changeContainer other change) := by
  obtain ⟨housings, milestones⟩ := changeContainer_of_ne different world change
  exact ⟨congrArg _ milestones, fun housing there => ⟨housing, housings.trans there, rfl, rfl, rfl⟩⟩

/-- Noting whether it runs, an orchestrator leaves its container alone, and stays attached. -/
theorem keepsHousing_changeOrchestrator (number : Nat) (seat : Seat) (world : World) (running : Bool) :
    KeepsHousing number world (world.changeOrchestrator seat fun orchestrator =>
      { orchestrator with isRunning := running }) := by
  cases seat with
  | setUp => exact keepsHousing_of_housings rfl rfl
  | housing other =>
    refine ⟨rfl, fun housing there => ?_⟩
    by_cases same : other = number
    · subst same
      refine ⟨{ housing with
        orchestrator := { housing.orchestrator with isRunning := running } }, ?_, rfl, rfl, rfl⟩
      rw [changeOrchestrator, List.getElem?_modify_eq, there]
      rfl
    · refine ⟨housing, ?_, rfl, rfl, rfl⟩
      rw [changeOrchestrator, List.getElem?_modify_ne _ _ same, there]

/-- Passes that orchestrators enter and leave change no container. -/
theorem keepsHousing_mark (number : Nat) (seat : Seat) (world : World) {milestone : Milestone}
    (pass : milestone.status? = none) : KeepsHousing number world (world.mark seat milestone) := by
  refine keepsHousing_of_housings rfl ?_
  by_cases same : seat = .housing number
  · subst same
    rw [statusesOf_mark, pass]
    exact List.append_nil _
  · exact congrArg _ (milestonesOf_mark_of_ne same _ _)

theorem milestonesOf_build (script : BuildScript) (world : World) (seat : Seat) :
    (world.build script).2.milestonesOf seat = world.milestonesOf seat := by
  have history : (world.build script).2.history = world.history := by
    unfold World.build
    dsimp only
    split
    · split <;> rfl
    · split <;> rfl
  rw [milestonesOf, history, milestonesOf]

theorem keepsHousing_build (number : Nat) (script : BuildScript) (world : World) :
    KeepsHousing number world (world.build script).2 := by
  have milestones := milestonesOf_build script world
  rcases housings_build script world with ⟨same, -⟩ | ⟨added, -, -, more⟩
  · exact keepsHousing_of_housings same (congrArg _ (milestones _))
  · refine ⟨congrArg _ (milestones _), fun housing there => ⟨housing, ?_, rfl, rfl, rfl⟩⟩
    rw [more, List.getElem?_append_left (List.getElem?_eq_some_iff.mp there).1, there]

/-- A container is new when it is built, and its orchestrator has its registry. -/
theorem housing_of_build {script : BuildScript} {world built : World}
    (builds : world.build script = (.done, built)) :
    ∃ housing settings registered, built.housings[world.housings.length]? = some housing ∧
      housing.container = .create settings registered ∧ housing.orchestrator.isAttached = true := by
  rcases housings_build script world with ⟨same, failed⟩ | ⟨housing, attached, new, more⟩
  · exact absurd (congrArg Prod.fst builds) failed
  · obtain ⟨settings, registered, created⟩ := new
    rw [builds] at more
    refine ⟨housing, settings, registered, ?_, created, attached⟩
    rw [more, List.getElem?_concat_length]

/-! ### Refreshes and closes -/

/-- The world when a refresh was accepted. -/
def refreshBegun (world : World) (number : Nat) (container : Container) : World :=
  (world.changeContainer number fun _ => container).report [.refreshing]

/-- The world when a close was accepted. -/
def closeBegun (world : World) (number : Nat) (container : Container) : World :=
  (world.changeContainer number fun _ => container).report [.closing]

theorem getElem?_refreshBegun {world : World} {number : Nat} {housing : Housing}
    (there : world.housings[number]? = some housing) (container : Container) :
    (world.refreshBegun number container).housings[number]? = some { housing with container } :=
  getElem?_changeContainer there fun _ => container

theorem getElem?_closeBegun {world : World} {number : Nat} {housing : Housing}
    (there : world.housings[number]? = some housing) (container : Container) :
    (world.closeBegun number container).housings[number]? = some { housing with container } :=
  getElem?_changeContainer there fun _ => container

/-- What a refresh returns after its pass. -/
def refreshResult : Except LifecycleError Unit → Result
  | .ok () => .done
  | .error error => .infrastructureError (.lifecycle error)

section

variable {take : Taker} {number : Nat} {housing : Housing} {world passed : World}
  {container : Container} {error : InfrastructureError}

/-- A refresh that is refused does nothing. -/
theorem refresh_of_refused
    (refused : housing.container.beginRefresh world.instant
      (world.registryAt housing.registry).size = .error error) :
    world.refresh take number housing = (.infrastructureError error, world) := by
  rw [refresh, refused]

/-- A refresh that is accepted is one pass, and notes its outcome. -/
theorem refresh_of_accepted {outcome : Except LifecycleError Unit}
    (accepted : housing.container.beginRefresh world.instant
      (world.registryAt housing.registry).size = .ok container)
    (pass : (world.refreshBegun number container).conductRefresh take (.housing number) =
      (outcome, passed)) :
    ∃ notices, world.refresh take number housing = (refreshResult outcome,
      (passed.changeContainer number (·.finishRefresh ↑(passed.clock - world.clock)
        (passed.runningMembers housing.registry) outcome)).report notices) := by
  rw [refreshBegun] at pass
  rw [refresh, accepted]
  dsimp only
  rw [pass]
  cases outcome with
  | ok done => exact ⟨_, rfl⟩
  | error error => exact ⟨_, rfl⟩

/-- A close that is refused does nothing. -/
theorem close_of_refused (refused : housing.container.beginClose = .error error) :
    world.close take number housing = (.infrastructureError error, world) := by
  rw [close, refused]

/-- A close that is accepted is one pass, and notes its report. -/
theorem close_of_accepted {report : StopReport}
    (accepted : housing.container.beginClose = .ok container)
    (pass : (world.closeBegun number container).conductClose take (.housing number) =
      (.ok report, passed)) :
    ∃ notices, world.close take number housing = (.report report,
      (passed.changeContainer number (·.finishClose passed.instant ↑(passed.clock - world.clock)
        (passed.runningMembers housing.registry) (.ok report))).report notices) := by
  rw [closeBegun] at pass
  rw [close, accepted]
  dsimp only
  rw [pass]
  exact ⟨_, rfl⟩

/-- Where its orchestrator has its registry, a close that is accepted ends its pass with a report. -/
theorem closePass_of_accepted (take : Taker) (there : world.housings[number]? = some housing)
    (attached : housing.orchestrator.isAttached = true) (container : Container) :
    ∃ report passed, (world.closeBegun number container).conductClose take (.housing number) =
      (.ok report, passed) := by
  have its : ((((world.closeBegun number container).mark (.housing number) (.entered .close)).report
      [.closePass]).orchestrator (.housing number)).isAttached = true := by
    rw [orchestrator_housing, report, mark, getElem?_closeBegun there]
    exact attached
  unfold conductClose conductStop
  dsimp only
  rw [its]
  exact ⟨_, _, rfl⟩

end

/-! ### Unfolding -/

/-- What happens in the world unfolds into moments of the container of a number: calls that are refused,
and calls that are accepted, each with one pass and what happens within it. What else happens leaves the
container alone. -/
inductive Unfolds (number : Nat) : World → List Moment → World → Prop
  | aside {before after : World} (keeps : KeepsHousing number before after) :
    Unfolds number before [] after
  | next {before middle after : World} {first second : List Moment}
    (earlier : Unfolds number before first middle) (later : Unfolds number middle second after) :
    Unfolds number before (first ++ second) after
  | refreshRefused {take : Taker} {world : World} {housing : Housing} {error : InfrastructureError}
    (there : world.housings[number]? = some housing)
    (refused : housing.container.beginRefresh world.instant
      (world.registryAt housing.registry).size = .error error)
    (returns : world.refresh take number housing = (.infrastructureError error, world)) :
    Unfolds number world [.refreshRefused error] world
  | closeRefused {take : Taker} {world : World} {housing : Housing} {error : InfrastructureError}
    (there : world.housings[number]? = some housing)
    (refused : housing.container.beginClose = .error error)
    (returns : world.close take number housing = (.infrastructureError error, world)) :
    Unfolds number world [.closeRefused error] world
  | refresh {take : Taker} {world passed after : World} {housing : Housing} {container : Container}
    {outcome : Except LifecycleError Unit} {moments : List Moment}
    (there : world.housings[number]? = some housing)
    (accepted : housing.container.beginRefresh world.instant
      (world.registryAt housing.registry).size = .ok container)
    (pass : (world.refreshBegun number container).conductRefresh take (.housing number) =
      (outcome, passed))
    (within : Unfolds number (world.refreshBegun number container) moments passed)
    (returns : world.refresh take number housing = (refreshResult outcome, after)) :
    Unfolds number world
      (.refreshBegins world.instant (world.registryAt housing.registry).size :: moments ++
        [.refreshEnds ↑(passed.clock - world.clock) (passed.runningMembers housing.registry) outcome])
      after
  | close {take : Taker} {world passed after : World} {housing : Housing} {container : Container}
    {report : StopReport} {moments : List Moment}
    (there : world.housings[number]? = some housing)
    (accepted : housing.container.beginClose = .ok container)
    (pass : (world.closeBegun number container).conductClose take (.housing number) =
      (.ok report, passed))
    (within : Unfolds number (world.closeBegun number container) moments passed)
    (returns : world.close take number housing = (.report report, after)) :
    Unfolds number world
      (.closeBegins :: moments ++ [.closeEnds passed.instant ↑(passed.clock - world.clock)
        (passed.runningMembers housing.registry) report])
      after

theorem statusesOf_refreshBegun {world : World} {number : Nat} {housing : Housing}
    (there : world.housings[number]? = some housing) (container : Container) :
    (world.refreshBegun number container).statusesOf number =
      world.statusesOf number ++ [container.status] :=
  statusesOf_changeContainer there fun _ => container

theorem statusesOf_closeBegun {world : World} {number : Nat} {housing : Housing}
    (there : world.housings[number]? = some housing) (container : Container) :
    (world.closeBegun number container).statusesOf number =
      world.statusesOf number ++ [container.status] :=
  statusesOf_changeContainer there fun _ => container

/-- What unfolds from a housing is a life of its container, beside whatever is under way, and the history
tells its statuses. -/
theorem Unfolds.life {number : Nat} {before after : World} {moments : List Moment} {housing : Housing}
    (unfolds : Unfolds number before moments after)
    (there : before.housings[number]? = some housing) :
    ∃ later, after.housings[number]? = some later ∧ later.registry = housing.registry ∧
      later.orchestrator.isAttached = housing.orchestrator.isAttached ∧
      after.statusesOf number = before.statusesOf number ++ moments.filterMap Moment.status? ∧
      ∀ refreshing closing, Life { container := housing.container, refreshing, closing } moments
        { container := later.container, refreshing, closing } := by
  induction unfolds generalizing housing with
  | aside keeps =>
    obtain ⟨later, present, container, registry, attached⟩ := keeps.housing housing there
    exact ⟨later, present, registry, attached, keeps.statuses.trans (List.append_nil _).symm,
      fun _ _ => container ▸ .done _⟩
  | next _ _ earlier later =>
    obtain ⟨middle, present, registry, attached, statuses, life⟩ := earlier there
    obtain ⟨last, presentLast, registryLast, attachedLast, statusesLast, lifeLast⟩ := later present
    refine ⟨last, presentLast, registryLast.trans registry, attachedLast.trans attached, ?_,
      fun refreshing closing => (life refreshing closing).append (lifeLast refreshing closing)⟩
    rw [statusesLast, statuses, List.filterMap_append, List.append_assoc]
  | refreshRefused same refused =>
    obtain rfl := Option.some.inj (there.symm.trans same)
    exact ⟨housing, there, rfl, rfl, (List.append_nil _).symm,
      fun _ _ => .single (.refreshRefused refused)⟩
  | closeRefused same refused =>
    obtain rfl := Option.some.inj (there.symm.trans same)
    exact ⟨housing, there, rfl, rfl, (List.append_nil _).symm,
      fun _ _ => .single (.closeRefused refused)⟩
  | @refresh take world passed after _ container outcome moments same accepted pass _ returns
      inductionHypothesis =>
    obtain rfl := Option.some.inj (there.symm.trans same)
    obtain ⟨later, present, registry, attached, statuses, life⟩ :=
      inductionHypothesis (getElem?_refreshBegun there container)
    obtain ⟨notices, result⟩ := refresh_of_accepted accepted pass
    obtain rfl := (Prod.mk.inj (returns.symm.trans result)).2
    refine ⟨_, getElem?_changeContainer present (·.finishRefresh ↑(passed.clock - world.clock)
      (passed.runningMembers housing.registry) outcome), registry, attached, ?_,
      fun refreshing closing => ?_⟩
    · have starts : container.status = .starting := by
        rw [(Container.beginRefresh_eq_ok_iff.mp accepted).2]
      have ends := statusesOf_changeContainer present (·.finishRefresh ↑(passed.clock - world.clock)
        (passed.runningMembers housing.registry) outcome)
      refine ends.trans ?_
      rw [statuses, statusesOf_refreshBegun there, starts]
      cases outcome <;> simp [Moment.status?, Container.finishRefresh]
    · exact .next (.refreshBegins accepted) ((life (refreshing + 1) closing).append
        (.single (.refreshEnds _ _ _)))
  | @close take world passed after _ container report moments same accepted pass _ returns
      inductionHypothesis =>
    obtain rfl := Option.some.inj (there.symm.trans same)
    obtain ⟨later, present, registry, attached, statuses, life⟩ :=
      inductionHypothesis (getElem?_closeBegun there container)
    obtain ⟨notices, result⟩ := close_of_accepted accepted pass
    obtain rfl := (Prod.mk.inj (returns.symm.trans result)).2
    refine ⟨_, getElem?_changeContainer present (·.finishClose passed.instant
      ↑(passed.clock - world.clock) (passed.runningMembers housing.registry) (.ok report)), registry,
      attached, ?_, fun refreshing closing => ?_⟩
    · have stopping : container.status = .stopping := by
        rw [(Container.beginClose_eq_ok_iff.mp accepted).2]
      have ends := statusesOf_changeContainer present (·.finishClose passed.instant
        ↑(passed.clock - world.clock) (passed.runningMembers housing.registry) (.ok report))
      refine ends.trans ?_
      rw [statuses, statusesOf_closeBegun there, stopping]
      simp [Moment.status?, Container.finishClose]
    · exact .next (.closeBegins accepted) ((life refreshing (closing + 1)).append
        (.single (.closeEnds _ _ _ _)))

/-! ### Everything unfolds -/

/-- There is a container of the number, and its orchestrator has its registry. -/
def HasAttached (number : Nat) (world : World) : Prop :=
  ∃ housing, world.housings[number]? = some housing ∧ housing.orchestrator.isAttached = true

/-- No actor calls a container while it is called. -/
def LeavesContainers (world : World) : Prop :=
  ∀ step ∈ world.ownSteps, step.callsContainer = false

theorem HasAttached.isAttached {number : Nat} {world : World} {housing : Housing}
    (attached : world.HasAttached number) (there : world.housings[number]? = some housing) :
    housing.orchestrator.isAttached = true := by
  obtain ⟨other, same, its⟩ := attached
  obtain rfl := Option.some.inj (there.symm.trans same)
  exact its

theorem Unfolds.hasAttached {number : Nat} {before after : World} {moments : List Moment}
    (unfolds : Unfolds number before moments after) (attached : before.HasAttached number) :
    after.HasAttached number := by
  obtain ⟨housing, there, its⟩ := attached
  obtain ⟨later, present, -, same, -, -⟩ := unfolds.life there
  exact ⟨later, present, same.trans its⟩

/-- What happens unfolds into moments of the container of a number, none of them if no container is
called. -/
def Unfolding (number : Nat) (before after : World) : Prop :=
  after.ownSteps = before.ownSteps ∧ (before.HasAttached number →
    ∃ moments, Unfolds number before moments after ∧ (before.LeavesContainers → moments = []))

namespace Unfolding

variable {number : Nat} {before middle after : World}

theorem of_keeps (ownSteps : after.ownSteps = before.ownSteps)
    (keeps : KeepsHousing number before after) : Unfolding number before after :=
  ⟨ownSteps, fun _ => ⟨[], .aside keeps, fun _ => rfl⟩⟩

theorem trans (first : Unfolding number before middle) (second : Unfolding number middle after) :
    Unfolding number before after := by
  refine ⟨second.1.trans first.1, fun attached => ?_⟩
  obtain ⟨earlier, unfolds, none⟩ := first.2 attached
  obtain ⟨later, unfoldsLater, noneLater⟩ := second.2 (unfolds.hasAttached attached)
  refine ⟨earlier ++ later, unfolds.next unfoldsLater, fun leaves => ?_⟩
  have leavesLater : middle.LeavesContainers := by
    rw [LeavesContainers, first.1]
    exact leaves
  rw [none leaves, noneLater leavesLater]
  rfl

theorem course {take : Taker}
    (own : ∀ {world : World} {step : Step}, step ∈ world.ownSteps →
      Unfolding number world (take step world).2) : Course (Unfolding number) take where
  trans := trans
  aside := fun aside => of_keeps aside.ownSteps (aside.keepsHousing number)
  ownSteps := And.left
  own := own

/-- As far as steps unfold down to a depth, passes do whose components take such steps. -/
theorem course_takeStep {depth : Nat}
    (unfolds : ∀ (step : Step) (world : World), world.HasAttached number →
      ∃ moments, Unfolds number world moments (takeStep depth step world).2 ∧
        (world.LeavesContainers → step.callsContainer = false → moments = [])) :
    Course (Unfolding number) (takeStep depth) :=
  course fun {world step} own => ⟨ownSteps_takeStep depth step world, fun attached => by
    obtain ⟨moments, unfolds, none⟩ := unfolds step world attached
    exact ⟨moments, unfolds, fun leaves => none leaves (leaves step own)⟩⟩

theorem flag (seat : Seat) (running : Bool) (world : World) :
    Unfolding number world (world.changeOrchestrator seat fun orchestrator =>
      { orchestrator with isRunning := running }) :=
  of_keeps (ownSteps_changeOrchestrator _ _ _) (keepsHousing_changeOrchestrator _ _ _ _)

theorem mark (seat : Seat) (world : World) {milestone : Milestone} (pass : milestone.status? = none) :
    Unfolding number world (world.mark seat milestone) :=
  of_keeps rfl (keepsHousing_mark _ _ _ pass)

end Unfolding

/-- A refresh of the container unfolds into moments. -/
theorem exists_unfolds_refresh {take : Taker} {number : Nat} {housing : Housing} {world : World}
    (course : Course (Unfolding number) take) (attached : world.HasAttached number)
    (there : world.housings[number]? = some housing) :
    ∃ moments, Unfolds number world moments (world.refresh take number housing).2 := by
  cases accepted : housing.container.beginRefresh world.instant
      (world.registryAt housing.registry).size with
  | error error =>
    have returns := @refresh_of_refused take number housing world error accepted
    rw [returns]
    exact ⟨_, .refreshRefused there accepted returns⟩
  | ok container =>
    have its := attached.isAttached there
    have begun : (world.refreshBegun number container).HasAttached number :=
      ⟨_, getElem?_refreshBegun there container, its⟩
    obtain ⟨moments, within, -⟩ := (course.conductRefresh (Unfolding.flag (.housing number) true)
      (Unfolding.mark _)
      (world.refreshBegun number container)).2 begun
    obtain ⟨notices, returns⟩ := @refresh_of_accepted take number housing world _ container _ accepted rfl
    rw [returns]
    exact ⟨_, within.refresh there accepted rfl returns⟩

/-- A close of the container unfolds into moments. -/
theorem exists_unfolds_close {take : Taker} {number : Nat} {housing : Housing} {world : World}
    (course : Course (Unfolding number) take) (attached : world.HasAttached number)
    (there : world.housings[number]? = some housing) :
    ∃ moments, Unfolds number world moments (world.close take number housing).2 := by
  cases accepted : housing.container.beginClose with
  | error error =>
    have returns := @close_of_refused take number housing world error accepted
    rw [returns]
    exact ⟨_, .closeRefused there accepted returns⟩
  | ok container =>
    have its := attached.isAttached there
    have begun : (world.closeBegun number container).HasAttached number :=
      ⟨_, getElem?_closeBegun there container, its⟩
    obtain ⟨report, passed, pass⟩ := closePass_of_accepted take there its container
    obtain ⟨moments, within, -⟩ := (course.conductClose (Unfolding.flag (.housing number) false)
      (Unfolding.mark _)
      (world.closeBegun number container)).2 begun
    rw [pass] at within
    obtain ⟨notices, returns⟩ := close_of_accepted accepted pass
    rw [returns]
    exact ⟨_, within.close there accepted pass returns⟩

/-- What is done with a container unfolds into moments of the container of a number, whether it is that
one or another. -/
theorem exists_unfolds_withHousing {number : Nat} {world : World} {container : Option Nat}
    {action : Nat → Housing → Result × World} (attached : world.HasAttached number)
    (own : ∀ housing, world.housings[number]? = some housing →
      ∃ moments, Unfolds number world moments (action number housing).2)
    (others : ∀ chosen housing, chosen ≠ number →
      Unfolding number world (action chosen housing).2) :
    ∃ moments, Unfolds number world moments (world.withHousing container action).2 := by
  rcases withHousing_cases world container action with same | ⟨chosen, housing, there, same⟩
  · rw [same]
    exact ⟨[], .aside (keepsHousing_of_housings rfl rfl)⟩
  · rw [same]
    by_cases its : chosen = number
    · subst its
      exact own housing there
    · obtain ⟨moments, unfolds, -⟩ := (others chosen housing its).2 attached
      exact ⟨moments, unfolds⟩

/-- Each step of a rehearsal unfolds into moments of the container, however deep the steps of actors
nest. -/
theorem unfolding_takeStep (number depth : Nat) (step : Step) (world : World)
    (attached : world.HasAttached number) :
    ∃ moments, Unfolds number world moments (takeStep depth step world).2 ∧
      (world.LeavesContainers → step.callsContainer = false → moments = []) := by
  induction depth generalizing step world with
  | zero => exact ⟨[], .aside (keepsHousing_of_housings rfl rfl), fun _ _ => rfl⟩
  | succ depth inductionHypothesis =>
    have course := Unfolding.course_takeStep inductionHypothesis
    have along : ∀ {after : World}, Unfolding number world after →
        ∃ moments, Unfolds number world moments after ∧
          (world.LeavesContainers → step.callsContainer = false → moments = []) := by
      intro after unfolding
      obtain ⟨moments, unfolds, none⟩ := unfolding.2 attached
      exact ⟨moments, unfolds, fun leaves _ => none leaves⟩
    cases concerns : step.concernsOffices with
    | false => exact along (course.takeWith concerns world)
    | true =>
      cases step with
      | start => exact along (snd_startResult _ ▸ course.conductStart (Unfolding.flag _ _) _ _)
      | refreshPass =>
        exact along (snd_startResult _ ▸ course.conductRefresh (Unfolding.flag _ _) (Unfolding.mark _) _)
      | stop => exact along (snd_stopResult _ ▸ course.conductStop (Unfolding.flag _ _) _)
      | closePass =>
        exact along (snd_stopResult _ ▸ course.conductClose (Unfolding.flag _ _) (Unfolding.mark _) _)
      | attach => exact along (.of_keeps rfl (keepsHousing_of_housings rfl rfl))
      | setTimeout timeout => exact along (.of_keeps rfl (keepsHousing_of_housings rfl rfl))
      | build script =>
        exact along (.of_keeps (ownSteps_build script world) (keepsHousing_build number script world))
      | refresh container =>
        obtain ⟨moments, unfolds⟩ := exists_unfolds_withHousing attached
          (fun housing there => exists_unfolds_refresh course attached there)
          fun chosen housing other => course.refresh (Unfolding.flag _ _) (Unfolding.mark _)
            (fun _ _ => .of_keeps (ownSteps_changeContainer _ _ _)
              (keepsHousing_changeContainer other _ _)) housing world
        exact ⟨moments, unfolds, fun _ => nofun⟩
      | close container =>
        obtain ⟨moments, unfolds⟩ := exists_unfolds_withHousing attached
          (fun housing there => exists_unfolds_close course attached there)
          fun chosen housing other => course.close (Unfolding.flag _ _) (Unfolding.mark _)
            (fun _ _ => .of_keeps (ownSteps_changeContainer _ _ _)
              (keepsHousing_changeContainer other _ _)) housing world
        exact ⟨moments, unfolds, fun _ => nofun⟩
      | _ => cases concerns

/-- A script leads through the worlds after each of its steps. -/
theorem snd_play (steps : List Step) (world : World) :
    (play steps world).2 =
      steps.foldl (fun world step => (take step { world with events := [] }).2) world := by
  unfold play
  dsimp only
  exact (List.foldl_hom Prod.snd fun _ _ => rfl).symm

/-- A whole script unfolds into moments of the container. -/
theorem exists_unfolds_play {number : Nat} (steps : List Step) {world : World}
    (attached : world.HasAttached number) :
    ∃ moments, Unfolds number world moments (play steps world).2 := by
  rw [snd_play]
  induction steps generalizing world with
  | nil => exact ⟨[], .aside (keepsHousing_of_housings rfl rfl)⟩
  | cons step steps inductionHypothesis =>
    have cleared : Unfolds number world [] { world with events := [] } :=
      .aside (keepsHousing_of_housings rfl rfl)
    obtain ⟨moments, unfolds, -⟩ := unfolding_takeStep number
      (3 * world.actors.length + 1) step _ (cleared.hasAttached attached)
    have first := cleared.next unfolds
    obtain ⟨later, unfoldsLater⟩ := inductionHypothesis (first.hasAttached attached)
    exact ⟨_, first.next unfoldsLater⟩

end World

end PhasedLifecycle.Rehearsal
