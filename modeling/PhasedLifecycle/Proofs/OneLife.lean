/-
This file says what a container can go through, and that this is one life: a refresh or none, then a close
or none. The status that an accepted call writes before its pass turns away every other call until the one
after the pass is written, so nothing slips in between, whoever calls the container from within the pass.

The history of the world tells the milestones of each container: the statuses it took on, and the passes
that its orchestrator entered and left. Each step of a rehearsal adds a passage to it, and passages go
together to a passage.
-/

import PhasedLifecycle.Proofs.Reentry

namespace PhasedLifecycle.Rehearsal

/-! ### Passages -/

/-- The milestones of a refresh that leaves a container with a status. -/
def refreshMilestones (last : ContainerStatus) : List Milestone :=
  [.became .starting, .entered .refresh, .left .refresh, .became last]

/-- The milestones of a close. -/
def closeMilestones : List Milestone :=
  [.became .stopping, .entered .close, .left .close, .became .stopped]

/-- What a container can go through from one time to another: nothing, one refresh, one close, or one
refresh and then one close. -/
inductive Passage : Container → List Milestone → Container → Prop
  | stays (container : Container) : Passage container [] container
  | refreshed {before after : Container} (new : before.status = .initialized)
    (ended : after.status = .running ∨ after.status = .failed) :
    Passage before (refreshMilestones after.status) after
  | closed {before after : Container}
    (closable : before.status = .initialized ∨ before.status = .running ∨ before.status = .failed)
    (ended : after.status = .stopped) : Passage before closeMilestones after
  | refreshedAndClosed {before middle after : Container} (new : before.status = .initialized)
    (ended : middle.status = .running ∨ middle.status = .failed) (stopped : after.status = .stopped) :
    Passage before (refreshMilestones middle.status ++ closeMilestones) after

namespace Passage

variable {before middle after : Container} {earlier later milestones : List Milestone}

/-- A container that accepts no close goes through nothing. -/
theorem eq_of_unclosable (passage : Passage before milestones after)
    (unclosable : before.status.allowsClose = false) : milestones = [] ∧ after = before := by
  cases passage with
  | stays => exact ⟨rfl, rfl⟩
  | refreshed new ended =>
    rw [new] at unclosable
    cases unclosable
  | closed closable ended =>
    rw [(ContainerStatus.allowsClose_iff _).mpr closable] at unclosable
    cases unclosable
  | refreshedAndClosed new ended stopped =>
    rw [new] at unclosable
    cases unclosable

/-- Nothing but a close follows on a refresh, and nothing follows on a close. -/
theorem trans (first : Passage before earlier middle) (second : Passage middle later after) :
    Passage before (earlier ++ later) after := by
  cases first with
  | stays => exact second
  | refreshed new ended =>
    have old : middle.status ≠ .initialized := fun again => by
      rw [again] at ended
      rcases ended with running | failed <;> contradiction
    cases second with
    | stays =>
      rw [List.append_nil]
      exact .refreshed new ended
    | refreshed again _ => exact absurd again old
    | closed closable stopped => exact .refreshedAndClosed new ended stopped
    | refreshedAndClosed again _ _ => exact absurd again old
  | closed closable ended =>
    obtain ⟨rfl, rfl⟩ := second.eq_of_unclosable (by rw [ended]; rfl)
    rw [List.append_nil]
    exact .closed closable ended
  | refreshedAndClosed new ended stopped =>
    obtain ⟨rfl, rfl⟩ := second.eq_of_unclosable (by rw [stopped]; rfl)
    rw [List.append_nil]
    exact .refreshedAndClosed new ended stopped

/-- All there is to go through. -/
def possible : List (List Milestone) :=
  [[], refreshMilestones .running, refreshMilestones .failed, closeMilestones,
    refreshMilestones .running ++ closeMilestones, refreshMilestones .failed ++ closeMilestones]

theorem mem_possible (passage : Passage before milestones after) : milestones ∈ possible := by
  cases passage with
  | stays => decide
  | closed closable ended => decide
  | refreshed new ended =>
    rcases ended with running | failed
    · rw [running]
      decide
    · rw [failed]
      decide
  | refreshedAndClosed new ended stopped =>
    rcases ended with running | failed
    · rw [running]
      decide
    · rw [failed]
      decide

/-- No pass of a container is entered twice. -/
theorem count_entered_le_one (passage : Passage before milestones after) (pass : ContainerPass) :
    milestones.count (.entered pass) ≤ 1 := by
  have all : ∀ milestones ∈ possible, milestones.count (.entered .refresh) ≤ 1 ∧
      milestones.count (.entered .close) ≤ 1 := by decide
  cases pass with
  | refresh => exact (all _ passage.mem_possible).1
  | close => exact (all _ passage.mem_possible).2

/-- Whatever pass is entered, all passes entered before were left. -/
theorem left_of_entered (passage : Passage before milestones after) {front back : List Milestone}
    {pass : ContainerPass} (place : milestones = front ++ .entered pass :: back) (other : ContainerPass) :
    front.count (.entered other) = front.count (.left other) := by
  have all : ∀ milestones ∈ possible, ∀ turn < milestones.length,
      milestones[turn]? = some (.entered .refresh) ∨ milestones[turn]? = some (.entered .close) →
        (milestones.take turn).count (.entered .refresh) = (milestones.take turn).count (.left .refresh) ∧
          (milestones.take turn).count (.entered .close) =
            (milestones.take turn).count (.left .close) := by decide
  have there : milestones[front.length]? = some (.entered pass) := by
    rw [place, List.getElem?_append_right (Nat.le_refl _), Nat.sub_self]
    rfl
  have inside : front.length < milestones.length := (List.getElem?_eq_some_iff.mp there).1
  have either : milestones[front.length]? = some (.entered .refresh) ∨
      milestones[front.length]? = some (.entered .close) := by
    cases pass with
    | refresh => exact Or.inl there
    | close => exact Or.inr there
  have before : milestones.take front.length = front := by rw [place, List.take_left]
  obtain ⟨refresh, close⟩ := all _ passage.mem_possible _ inside either
  rw [before] at refresh close
  cases other with
  | refresh => exact refresh
  | close => exact close

/-- The statuses of a passage go on in their order, up to the one it leads to. -/
theorem isChain_statuses (passage : Passage before milestones after) :
    (before.status :: milestones.filterMap Milestone.status?).IsChain (·.mayBecome · = true) ∧
      (before.status :: milestones.filterMap Milestone.status?).getLast (List.cons_ne_nil _ _) =
        after.status := by
  cases passage with
  | stays => exact ⟨.singleton _, rfl⟩
  | refreshed new ended => rw [new]; rcases ended with status | status <;> rw [status] <;> decide
  | closed closable ended =>
    rw [ended]
    rcases closable with status | status | status <;> rw [status] <;> decide
  | refreshedAndClosed new ended stopped =>
    rw [new, stopped]
    rcases ended with status | status <;> rw [status] <;> decide

end Passage

/-- Whether the step asks an orchestrator for a pass of a container, past the container. -/
def Step.asksForPass : Step → Bool
  | .refreshPass | .closePass => true
  | _ => false

namespace World

/-! ### What happens to a container -/

/-- No actor asks for a pass of a container past the container while it is called. -/
def LeavesPasses (world : World) : Prop :=
  ∀ step ∈ world.ownSteps, step.asksForPass = false

/-- The container of a number, if its orchestrator has its registry, goes through a passage, and the
history tells its milestones. -/
def GoesThrough (number : Nat) (before after : World) : Prop :=
  ∀ housing, before.housings[number]? = some housing → housing.orchestrator.isAttached = true →
    ∃ later milestones, after.housings[number]? = some later ∧
      later.orchestrator.isAttached = true ∧ later.registry = housing.registry ∧
      after.milestonesOf (.housing number) = before.milestonesOf (.housing number) ++ milestones ∧
      Passage housing.container milestones later.container

namespace GoesThrough

variable {number : Nat} {before middle after : World}

theorem of_keeps (keeps : KeepsHousing number before after)
    (same : after.milestonesOf (.housing number) = before.milestonesOf (.housing number)) :
    GoesThrough number before after := by
  intro housing there attached
  obtain ⟨later, present, container, registry, its⟩ := keeps.housing housing there
  exact ⟨later, [], present, its.trans attached, registry, same.trans (List.append_nil _).symm,
    container ▸ .stays _⟩

theorem trans (first : GoesThrough number before middle) (second : GoesThrough number middle after) :
    GoesThrough number before after := by
  intro housing there attached
  obtain ⟨between, earlier, present, its, registry, milestones, passage⟩ := first housing there attached
  obtain ⟨last, later, presentLast, itsLast, registryLast, milestonesLast, passageLast⟩ :=
    second between present its
  refine ⟨last, earlier ++ later, presentLast, itsLast, registryLast.trans registry, ?_,
    passage.trans passageLast⟩
  rw [milestonesLast, milestones, List.append_assoc]

/-- A container that accepts no close is left alone. -/
theorem eq_of_unclosable (goes : GoesThrough number before after) {housing : Housing}
    (there : before.housings[number]? = some housing)
    (attached : housing.orchestrator.isAttached = true)
    (unclosable : housing.container.status.allowsClose = false) :
    ∃ later, after.housings[number]? = some later ∧ later.container = housing.container ∧
      later.orchestrator.isAttached = true ∧ later.registry = housing.registry ∧
      after.milestonesOf (.housing number) = before.milestonesOf (.housing number) := by
  obtain ⟨later, milestones, present, its, registry, told, passage⟩ := goes housing there attached
  obtain ⟨rfl, same⟩ := passage.eq_of_unclosable unclosable
  exact ⟨later, present, same, its, registry, told.trans (List.append_nil _)⟩

end GoesThrough

/-- As long as actors ask for no passes past the container, it goes through a passage. -/
def Going (number : Nat) (before after : World) : Prop :=
  after.ownSteps = before.ownSteps ∧ (before.LeavesPasses → GoesThrough number before after)

namespace Going

variable {number : Nat} {before middle after : World}

theorem of_keeps (ownSteps : after.ownSteps = before.ownSteps)
    (keeps : KeepsHousing number before after)
    (same : after.milestonesOf (.housing number) = before.milestonesOf (.housing number)) :
    Going number before after :=
  ⟨ownSteps, fun _ => .of_keeps keeps same⟩

theorem trans (first : Going number before middle) (second : Going number middle after) :
    Going number before after := by
  refine ⟨second.1.trans first.1, fun leaves => (first.2 leaves).trans (second.2 ?_)⟩
  rw [LeavesPasses, first.1]
  exact leaves

/-- As far as a container goes through passages down to a depth, it does in passes whose components take
such steps. -/
theorem course_takeStep {depth : Nat}
    (goes : ∀ (step : Step) (world : World), world.LeavesPasses → step.asksForPass = false →
      GoesThrough number world (takeStep depth step world).2) :
    Course (Going number) (takeStep depth) where
  trans := trans
  aside := fun aside => of_keeps aside.ownSteps (aside.keepsHousing number) (aside.milestonesOf _)
  ownSteps := And.left
  own := fun {world step} own =>
    ⟨ownSteps_takeStep depth step world, fun leaves => goes step world leaves (leaves step own)⟩

theorem flag (seat : Seat) (running : Bool) (world : World) :
    Going number world (world.changeOrchestrator seat fun orchestrator =>
      { orchestrator with isRunning := running }) :=
  of_keeps (ownSteps_changeOrchestrator _ _ _) (keepsHousing_changeOrchestrator _ _ _ _)
    (by cases seat <;> rfl)

theorem mark {seat : Seat} (different : seat ≠ .housing number) (world : World) {milestone : Milestone}
    (pass : milestone.status? = none) : Going number world (world.mark seat milestone) :=
  of_keeps rfl (keepsHousing_mark _ _ _ pass) (milestonesOf_mark_of_ne different _ _)

theorem changeContainer {other : Nat} (different : other ≠ number) (world : World)
    (change : Container → Container) : Going number world (world.changeContainer other change) :=
  of_keeps (ownSteps_changeContainer _ _ _) (keepsHousing_changeContainer different _ _)
    (changeContainer_of_ne different world change).2

end Going

/-! ### Accepted calls -/

/-- The status in which the outcome of its pass leaves a container that was refreshed. -/
def refreshedStatus : Except LifecycleError Unit → ContainerStatus
  | .ok _ => .running
  | .error _ => .failed

/-- What a refresh does that is accepted. -/
structure Refreshes (take : Taker) (number : Nat) (housing : Housing) (world : World)
    (begun : Container) (outcome : Except LifecycleError Unit) (passed after : World) : Prop where
  begins : housing.container.beginRefresh world.instant (world.registryAt housing.registry).size =
    .ok begun
  /-- The container starts before the pass. -/
  starting : begun.status = .starting ∧
    (world.refreshBegun number begun).housings[number]? = some { housing with container := begun }
  /-- There is one pass. -/
  pass : (world.refreshBegun number begun).conductRefresh take (.housing number) = (outcome, passed)
  /-- The pass leaves the container alone. -/
  kept : (passed.housings[number]?).map (·.container) = some begun
  returns : world.refresh take number housing = (refreshResult outcome, after)
  /-- The container runs or has failed after the pass. -/
  ends : ∃ container, (after.housings[number]?).map (·.container) = some container ∧
    container = begun.finishRefresh ↑(passed.clock - world.clock)
      (passed.runningMembers housing.registry) outcome ∧
    container.status = refreshedStatus outcome
  milestones : after.milestonesOf (.housing number) =
    world.milestonesOf (.housing number) ++ refreshMilestones (refreshedStatus outcome)

/-- What a close does that is accepted. -/
structure Closes (take : Taker) (number : Nat) (housing : Housing) (world : World)
    (begun : Container) (report : StopReport) (passed after : World) : Prop where
  begins : housing.container.beginClose = .ok begun
  /-- The container stops before the pass. -/
  stopping : begun.status = .stopping ∧
    (world.closeBegun number begun).housings[number]? = some { housing with container := begun }
  /-- There is one pass. -/
  pass : (world.closeBegun number begun).conductClose take (.housing number) = (.ok report, passed)
  /-- The pass leaves the container alone. -/
  kept : (passed.housings[number]?).map (·.container) = some begun
  returns : world.close take number housing = (.report report, after)
  /-- The container is stopped after the pass. -/
  ends : ∃ container, (after.housings[number]?).map (·.container) = some container ∧
    container = begun.finishClose passed.instant ↑(passed.clock - world.clock)
      (passed.runningMembers housing.registry) (.ok report) ∧
    container.status = .stopped
  milestones : after.milestonesOf (.housing number) =
    world.milestonesOf (.housing number) ++ closeMilestones

section

variable {take : Taker} {number : Nat} {housing : Housing} {world : World}

/-- A pass of a container that accepts no close leaves it alone, and is entered and left once. -/
theorem kept_of_unclosable {pass : ContainerPass} {notices : List Notice} {inside : World}
    (going : Going number ((world.mark (.housing number) (.entered pass)).report notices) inside)
    (leaves : world.LeavesPasses) (there : world.housings[number]? = some housing)
    (attached : housing.orchestrator.isAttached = true)
    (unclosable : housing.container.status.allowsClose = false) :
    ∃ later, (inside.mark (.housing number) (.left pass)).housings[number]? = some later ∧
      later.container = housing.container ∧ later.orchestrator.isAttached = true ∧
      later.registry = housing.registry ∧
      (inside.mark (.housing number) (.left pass)).milestonesOf (.housing number) =
        world.milestonesOf (.housing number) ++ [.entered pass, .left pass] := by
  obtain ⟨later, present, same, its, registry, milestones⟩ :=
    (going.2 leaves).eq_of_unclosable there attached unclosable
  have entered : ((world.mark (.housing number) (.entered pass)).report notices).milestonesOf
      (.housing number) = world.milestonesOf (.housing number) ++ [.entered pass] :=
    milestonesOf_mark _ _ _
  refine ⟨later, present, same, its, registry, ?_⟩
  rw [milestonesOf_mark, milestones, entered, List.append_assoc]
  rfl

/-- A new container refreshes when it is asked to. -/
theorem exists_refreshes (course : Course (Going number) take) (leaves : world.LeavesPasses)
    (there : world.housings[number]? = some housing)
    (attached : housing.orchestrator.isAttached = true) (new : housing.container.status = .initialized) :
    ∃ begun outcome passed after later, Refreshes take number housing world begun outcome passed after ∧
      after.housings[number]? = some later ∧ later.orchestrator.isAttached = true ∧
      later.registry = housing.registry := by
  obtain ⟨begun, accepted⟩ : ∃ begun, housing.container.beginRefresh world.instant
      (world.registryAt housing.registry).size = .ok begun :=
    ⟨_, Container.beginRefresh_eq_ok_iff.mpr ⟨new, rfl⟩⟩
  have starts : begun.status = .starting := by
    rw [(Container.beginRefresh_eq_ok_iff.mp accepted).2]
  have present := getElem?_refreshBegun there begun
  have leavesStill : (world.refreshBegun number begun).LeavesPasses := by
    show ∀ step ∈ (world.changeContainer number fun _ => begun).ownSteps, step.asksForPass = false
    rw [ownSteps_changeContainer]
    exact leaves
  have entered : (world.refreshBegun number begun).milestonesOf (.housing number) =
      world.milestonesOf (.housing number) ++ [.became .starting] :=
    starts ▸ milestonesOf_changeContainer there fun _ => begun
  have going := course.conductStart (Going.flag (.housing number) true) true
    (((world.refreshBegun number begun).mark (.housing number) (.entered .refresh)).report [.refreshPass])
  obtain ⟨later, still, same, its, registry, milestones⟩ :=
    kept_of_unclosable going leavesStill present attached (by rw [starts]; rfl)
  rw [← snd_conductRefresh] at still milestones
  obtain ⟨outcome, passed, pass⟩ : ∃ outcome passed,
      (world.refreshBegun number begun).conductRefresh take (.housing number) = (outcome, passed) :=
    ⟨_, _, rfl⟩
  rw [pass] at still milestones
  obtain ⟨notices, returns⟩ := refresh_of_accepted accepted pass
  have ended := getElem?_changeContainer still (·.finishRefresh ↑(passed.clock - world.clock)
    (passed.runningMembers housing.registry) outcome)
  have told := milestonesOf_changeContainer still (·.finishRefresh ↑(passed.clock - world.clock)
    (passed.runningMembers housing.registry) outcome)
  have status : (begun.finishRefresh ↑(passed.clock - world.clock)
      (passed.runningMembers housing.registry) outcome).status = refreshedStatus outcome := by
    cases outcome <;> rfl
  rw [same] at ended told
  refine ⟨begun, outcome, passed, _, _, ⟨accepted, ⟨starts, present⟩, pass, ?_, returns,
    ⟨_, congrArg _ ended, rfl, status⟩, ?_⟩, ended, its, registry⟩
  · rw [still, Option.map_some, same]
  · refine told.trans ?_
    rw [milestones, entered, List.append_assoc, List.append_assoc, ← status]
    rfl

/-- A new, a running and a failed container close when they are asked to. -/
theorem exists_closes (course : Course (Going number) take) (leaves : world.LeavesPasses)
    (there : world.housings[number]? = some housing)
    (attached : housing.orchestrator.isAttached = true)
    (closable : housing.container.status = .initialized ∨ housing.container.status = .running ∨
      housing.container.status = .failed) :
    ∃ begun report passed after later, Closes take number housing world begun report passed after ∧
      after.housings[number]? = some later ∧ later.orchestrator.isAttached = true ∧
      later.registry = housing.registry := by
  obtain ⟨begun, accepted⟩ : ∃ begun, housing.container.beginClose = .ok begun :=
    ⟨_, Container.beginClose_eq_ok_iff.mpr ⟨closable, rfl⟩⟩
  have stops : begun.status = .stopping := by
    rw [(Container.beginClose_eq_ok_iff.mp accepted).2]
  have present := getElem?_closeBegun there begun
  have leavesStill : (world.closeBegun number begun).LeavesPasses := by
    show ∀ step ∈ (world.changeContainer number fun _ => begun).ownSteps, step.asksForPass = false
    rw [ownSteps_changeContainer]
    exact leaves
  have entered : (world.closeBegun number begun).milestonesOf (.housing number) =
      world.milestonesOf (.housing number) ++ [.became .stopping] :=
    stops ▸ milestonesOf_changeContainer there fun _ => begun
  have going := course.conductStop (Going.flag (.housing number) false)
    (((world.closeBegun number begun).mark (.housing number) (.entered .close)).report [.closePass])
  obtain ⟨later, still, same, its, registry, milestones⟩ :=
    kept_of_unclosable going leavesStill present attached (by rw [stops]; rfl)
  rw [← snd_conductClose] at still milestones
  obtain ⟨report, passed, pass⟩ := closePass_of_accepted take there attached begun
  rw [pass] at still milestones
  obtain ⟨notices, returns⟩ := close_of_accepted accepted pass
  have ended := getElem?_changeContainer still (·.finishClose passed.instant
    ↑(passed.clock - world.clock) (passed.runningMembers housing.registry) (.ok report))
  have told := milestonesOf_changeContainer still (·.finishClose passed.instant
    ↑(passed.clock - world.clock) (passed.runningMembers housing.registry) (.ok report))
  rw [same] at ended told
  refine ⟨begun, report, passed, _, _, ⟨accepted, ⟨stops, present⟩, pass, ?_, returns,
    ⟨_, congrArg _ ended, rfl, rfl⟩, ?_⟩, ended, its, registry⟩
  · rw [still, Option.map_some, same]
  · refine told.trans ?_
    rw [milestones, entered, List.append_assoc, List.append_assoc]
    rfl

/-- A refresh takes its container through a passage, accepted or refused. -/
theorem goesThrough_refresh (course : Course (Going number) take) (leaves : world.LeavesPasses)
    (there : world.housings[number]? = some housing) :
    GoesThrough number world (world.refresh take number housing).2 := by
  intro other same attached
  obtain rfl := Option.some.inj (there.symm.trans same)
  by_cases new : housing.container.status = .initialized
  · obtain ⟨begun, outcome, passed, after, later, refreshes, present, its, registry⟩ :=
      exists_refreshes course leaves there attached new
    obtain ⟨container, left, -, status⟩ := refreshes.ends
    rw [present, Option.map_some, Option.some_inj] at left
    rw [refreshes.returns]
    refine ⟨later, _, present, its, registry, refreshes.milestones, ?_⟩
    rw [← status, ← left]
    refine .refreshed new ?_
    rw [left, status]
    cases outcome with
    | ok done => exact Or.inl rfl
    | error error => exact Or.inr rfl
  · rw [refresh_of_refused (Container.beginRefresh_eq_error_iff.mpr ⟨new, rfl⟩)]
    exact ⟨housing, [], there, attached, rfl, (List.append_nil _).symm, .stays _⟩

/-- A close takes its container through a passage, accepted or refused. -/
theorem goesThrough_close (course : Course (Going number) take) (leaves : world.LeavesPasses)
    (there : world.housings[number]? = some housing) :
    GoesThrough number world (world.close take number housing).2 := by
  intro other same attached
  obtain rfl := Option.some.inj (there.symm.trans same)
  by_cases closable : housing.container.status = .initialized ∨ housing.container.status = .running ∨
      housing.container.status = .failed
  · obtain ⟨begun, report, passed, after, later, closes, present, its, registry⟩ :=
      exists_closes course leaves there attached closable
    obtain ⟨container, left, -, status⟩ := closes.ends
    rw [present, Option.map_some, Option.some_inj] at left
    rw [closes.returns]
    exact ⟨later, _, present, its, registry, closes.milestones, .closed closable (left ▸ status)⟩
  · rw [close_of_refused (Container.beginClose_eq_error_iff.mpr ⟨closable, rfl⟩)]
    exact ⟨housing, [], there, attached, rfl, (List.append_nil _).symm, .stays _⟩

end

/-! ### Every step -/

/-- What is done with a container takes the container of a number through a passage, whether it is that
one or another. -/
theorem goesThrough_withHousing {number : Nat} {world : World} {container : Option Nat}
    {action : Nat → Housing → Result × World}
    (own : ∀ housing, world.housings[number]? = some housing →
      GoesThrough number world (action number housing).2)
    (others : ∀ chosen housing, chosen ≠ number → GoesThrough number world (action chosen housing).2) :
    GoesThrough number world (world.withHousing container action).2 := by
  rcases withHousing_cases world container action with same | ⟨chosen, housing, there, same⟩
  · rw [same]
    exact .of_keeps (keepsHousing_of_housings rfl rfl) rfl
  · rw [same]
    by_cases its : chosen = number
    · subst its
      exact own housing there
    · exact others chosen housing its

/-- Each step of a rehearsal takes a container through a passage, however deep the steps of actors
nest. -/
theorem goesThrough_takeStep (number depth : Nat) (step : Step) (world : World)
    (leaves : world.LeavesPasses) (own : step.asksForPass = false) :
    GoesThrough number world (takeStep depth step world).2 := by
  induction depth generalizing step world with
  | zero => exact .of_keeps (keepsHousing_of_housings rfl rfl) rfl
  | succ depth inductionHypothesis =>
    have course := Going.course_takeStep inductionHypothesis
    have apart : ∀ {other : Nat}, other ≠ number → Seat.housing other ≠ .housing number :=
      fun different same => different (Seat.housing.inj same)
    cases concerns : step.concernsOffices with
    | false => exact (course.takeWith concerns world).2 leaves
    | true =>
      cases step with
      | start =>
        rw [takeStep, takeWith, snd_startResult]
        exact (course.conductStart (Going.flag _ _) _ _).2 leaves
      | stop =>
        rw [takeStep, takeWith, snd_stopResult]
        exact (course.conductStop (Going.flag _ _) _).2 leaves
      | refreshPass => cases own
      | closePass => cases own
      | attach => exact .of_keeps (keepsHousing_of_housings rfl rfl) rfl
      | setTimeout timeout => exact .of_keeps (keepsHousing_of_housings rfl rfl) rfl
      | build script =>
        exact .of_keeps (keepsHousing_build number script world) (milestonesOf_build script world _)
      | refresh container =>
        exact goesThrough_withHousing (fun housing there => goesThrough_refresh course leaves there)
          fun chosen housing other => (course.refresh (Going.flag _ _) (Going.mark (apart other))
            (Going.changeContainer other) housing world).2 leaves
      | close container =>
        exact goesThrough_withHousing (fun housing there => goesThrough_close course leaves there)
          fun chosen housing other => (course.close (Going.flag _ _) (Going.mark (apart other))
            (Going.changeContainer other) housing world).2 leaves
      | _ => cases concerns

/-- A whole script takes a container through a passage. -/
theorem goesThrough_play (number : Nat) (steps : List Step) {world : World}
    (leaves : world.LeavesPasses) (own : ∀ step ∈ steps, step.asksForPass = false) :
    GoesThrough number world (play steps world).2 := by
  rw [snd_play]
  induction steps generalizing world with
  | nil => exact .of_keeps (keepsHousing_of_housings rfl rfl) rfl
  | cons step steps inductionHypothesis =>
    have cleared : GoesThrough number world { world with events := [] } :=
      .of_keeps (keepsHousing_of_housings rfl rfl) rfl
    have first := goesThrough_takeStep number (3 * world.actors.length + 1) step
      { world with events := [] } leaves (own step List.mem_cons_self)
    have leavesStill : (take step { world with events := [] }).2.LeavesPasses := by
      rw [LeavesPasses, take, ownSteps_takeStep]
      exact leaves
    exact (cleared.trans first).trans
      (inductionHypothesis leavesStill fun later there => own later (List.mem_cons_of_mem _ there))

end World

/-! ### One life -/

/-- A container is refreshed at most once and closed at most once, however its operations overlap.

A call of a refresh or a close does one of two things, as the status says. It may be refused as an invalid
state, and leave the whole world as it is. Or it is accepted: then the container takes on the status of the
operation, one pass runs, which leaves the container alone whatever its components do, and the container
takes on the status of the outcome. So each step, taken at whatever depth by whichever component, takes a
container through a passage, and a whole script does too: from the build on, no pass of the container is
entered twice, none is entered while another is under way, and the statuses go on in their order. -/
theorem container_has_one_life :
    (∀ (take : Taker) (number : Nat) (housing : Housing) (world : World),
      (housing.container.status = .initialized →
        ∃ outcome, (world.refresh take number housing).1 = World.refreshResult outcome) ∧
      (housing.container.status ≠ .initialized →
        ∃ text, world.refresh take number housing =
          (.infrastructureError (.invalidState text), world)) ∧
      (¬ (housing.container.status = .initialized ∨ housing.container.status = .running ∨
          housing.container.status = .failed) →
        ∃ text, world.close take number housing =
          (.infrastructureError (.invalidState text), world)) ∧
      (world.housings[number]? = some housing → housing.orchestrator.isAttached = true →
        housing.container.status = .initialized ∨ housing.container.status = .running ∨
            housing.container.status = .failed →
          ∃ report, (world.close take number housing).1 = .report report)) ∧
    (∀ (depth number : Nat) (housing : Housing) (world : World),
      world.housings[number]? = some housing → housing.orchestrator.isAttached = true →
      world.LeavesPasses →
        (housing.container.status = .initialized →
          ∃ begun outcome passed after, World.Refreshes (World.takeStep depth) number housing world
            begun outcome passed after) ∧
        (housing.container.status = .initialized ∨ housing.container.status = .running ∨
            housing.container.status = .failed →
          ∃ begun report passed after, World.Closes (World.takeStep depth) number housing world
            begun report passed after)) ∧
    (∀ (depth number : Nat) (step : Step) (world : World), world.LeavesPasses →
      step.asksForPass = false → World.GoesThrough number world (World.takeStep depth step world).2) ∧
    ∀ (script : BuildScript) (world built : World) (steps : List Step),
      world.build script = (.done, built) → built.LeavesPasses →
      (∀ step ∈ steps, step.asksForPass = false) →
        ∃ settings registered last milestones,
          (built.housings[world.housings.length]?).map (·.container) =
              some (.create settings registered) ∧
            ((play steps built).2.housings[world.housings.length]?).map (·.container) = some last ∧
            (play steps built).2.milestonesOf (.housing world.housings.length) =
              built.milestonesOf (.housing world.housings.length) ++ milestones ∧
            Passage (.create settings registered) milestones last ∧
            (∀ pass, milestones.count (.entered pass) ≤ 1) ∧
            (∀ front pass back, milestones = front ++ .entered pass :: back →
              ∀ other, front.count (.entered other) = front.count (.left other)) ∧
            (.initialized :: milestones.filterMap Milestone.status?).IsChain (·.mayBecome · = true) ∧
            (ContainerStatus.initialized :: milestones.filterMap Milestone.status?).getLast
              (List.cons_ne_nil _ _) = last.status := by
  refine ⟨fun take number housing world => ⟨fun new => ?_, fun old => ?_, fun closed => ?_,
      fun there attached closable => ?_⟩,
    fun depth number housing world there attached leaves => ⟨fun new => ?_, fun closable => ?_⟩,
    fun depth number step world => World.goesThrough_takeStep number depth step world,
    fun script world built steps builds leaves own => ?_⟩
  · obtain ⟨notices, returns⟩ := @World.refresh_of_accepted take number housing world _ _ _
      (Container.beginRefresh_eq_ok_iff.mpr ⟨new, rfl⟩) rfl
    exact ⟨_, congrArg Prod.fst returns⟩
  · exact ⟨_, World.refresh_of_refused (Container.beginRefresh_eq_error_iff.mpr ⟨old, rfl⟩)⟩
  · exact ⟨_, World.close_of_refused (Container.beginClose_eq_error_iff.mpr ⟨closed, rfl⟩)⟩
  · obtain ⟨report, passed, pass⟩ := World.closePass_of_accepted take there attached
      { housing.container with status := .stopping }
    obtain ⟨notices, returns⟩ :=
      World.close_of_accepted (Container.beginClose_eq_ok_iff.mpr ⟨closable, rfl⟩) pass
    exact ⟨report, congrArg Prod.fst returns⟩
  · obtain ⟨begun, outcome, passed, after, -, refreshes, -⟩ := World.exists_refreshes
      (World.Going.course_takeStep (World.goesThrough_takeStep number depth)) leaves there attached new
    exact ⟨begun, outcome, passed, after, refreshes⟩
  · obtain ⟨begun, report, passed, after, -, closes, -⟩ := World.exists_closes
      (World.Going.course_takeStep (World.goesThrough_takeStep number depth)) leaves there attached
      closable
    exact ⟨begun, report, passed, after, closes⟩
  · obtain ⟨housing, settings, registered, there, created, attached⟩ := World.housing_of_build builds
    obtain ⟨last, milestones, present, -, -, told, passage⟩ :=
      World.goesThrough_play world.housings.length steps leaves own housing there attached
    rw [created] at passage
    obtain ⟨chain, ends⟩ := passage.isChain_statuses
    refine ⟨settings, registered, last.container, milestones, ?_, ?_, told, passage,
      passage.count_entered_le_one, fun front pass back => passage.left_of_entered, chain, ends⟩
    · rw [there, Option.map_some, created]
    · rw [present, Option.map_some]

/-- Two components, each of which refreshes and closes the containers of both whenever it is started or
stopped. -/
def entangled : World :=
  { actors := [
      { id := "knot"
        kind := .plain
        startHooks := [.refresh (some 1), .close (some 1), .close (some 0)]
        stopHooks := [.refresh (some 0), .close (some 1)] },
      { id := "loop"
        kind := .plain
        startHooks := [.refresh (some 0), .close (some 0), .refresh (some 1)]
        stopHooks := [.close (some 1), .close (some 0)] }] }

def entangledScript (name : String) : BuildScript :=
  { fresh := true, roles := [⟨name, name⟩] }

def entangledSteps : List Step :=
  [.build (entangledScript "loop"), .refresh (some 0), .close (some 1), .refresh (some 0),
    .close (some 0), .close (some 0)]

theorem entangled_container_is_closed_once :
    ∃ built, entangled.build (entangledScript "knot") = (.done, built) ∧
      (∃ last, (play entangledSteps built).2.milestonesOf (.housing 0) =
          refreshMilestones .running ++ closeMilestones ∧
        ((play entangledSteps built).2.housings[0]?).map (·.container) = some last ∧
        last.status = .stopped ∧
        (refreshMilestones .running ++ closeMilestones).count (.entered .refresh) ≤ 1) ∧
      (∃ housing begun outcome passed after, World.Refreshes (World.takeStep 6) 0 housing built begun
        outcome passed after) ∧
      ∃ housing text, ((play entangledSteps built).2).close (World.takeStep 6) 0 housing =
        (.infrastructureError (.invalidState text), (play entangledSteps built).2) := by
  obtain ⟨calls, accepted, -, plays⟩ := container_has_one_life
  have builds : entangled.build (entangledScript "knot") =
      (.done, (entangled.build (entangledScript "knot")).2) := Prod.ext (by rfl) rfl
  have leaves : (entangled.build (entangledScript "knot")).2.LeavesPasses := by
    rw [World.LeavesPasses, World.ownSteps_build]
    decide
  have statuses : (((play entangledSteps (entangled.build (entangledScript "knot")).2).2.housings[0]?).map
      (·.container)).map (·.status) = some .stopped := by decide +kernel
  have milestones : (play entangledSteps (entangled.build (entangledScript "knot")).2).2.milestonesOf
      (.housing 0) = refreshMilestones .running ++ closeMilestones := by decide +kernel
  refine ⟨_, builds, ?_, ?_, ?_⟩
  · obtain ⟨settings, registered, last, gone, -, present, told, -, once, -⟩ :=
      plays (entangledScript "knot") entangled _ entangledSteps builds leaves (by decide)
    have nothing : (entangled.build (entangledScript "knot")).2.milestonesOf
        (.housing entangled.housings.length) = [] := by decide +kernel
    rw [nothing, List.nil_append] at told
    have its : (play entangledSteps (entangled.build (entangledScript "knot")).2).2.milestonesOf
        (.housing 0) = gone := told
    rw [milestones] at its
    have left : ((play entangledSteps (entangled.build (entangledScript "knot")).2).2.housings[0]?).map
        (·.container) = some last := present
    rw [left] at statuses
    exact ⟨last, milestones, left, Option.some.inj statuses, its ▸ once .refresh⟩
  · obtain ⟨housing, settings, registered, there, created, attached⟩ := World.housing_of_build builds
    exact ⟨housing, (accepted 6 0 housing _ there attached leaves).1
      (congrArg Container.status created)⟩
  · cases there : (play entangledSteps (entangled.build (entangledScript "knot")).2).2.housings[0]? with
    | none =>
      rw [there] at statuses
      cases statuses
    | some housing =>
      rw [there] at statuses
      have stopped : housing.container.status = .stopped := Option.some.inj statuses
      exact ⟨housing, (calls (World.takeStep 6) 0 housing _).2.2.1 (by rw [stopped]; decide)⟩

end PhasedLifecycle.Rehearsal
