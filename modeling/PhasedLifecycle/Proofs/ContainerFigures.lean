/-
This file says what the figures of a container tell whenever none of its operations is under way. The
figures of the start are there just if a refresh was accepted, and those of the stop just if a close came
to its end; the status tells which of the two was the last, and how it ended. All of it is read off the
story of the container, and passes that it has no part in change nothing of it.
-/

import PhasedLifecycle.Proofs.Reentry

namespace PhasedLifecycle

/-! ### Figures and moments -/

/-- The figures of a container agree with what happened to it. -/
structure Container.CoheresWith (container : Container) (moments : List Moment) : Prop where
  startTime : container.metrics.startTime.isSome = moments.any Moment.beginsRefresh
  startupDuration : container.metrics.startupDuration.isSome = moments.any Moment.beginsRefresh
  uptime : ∀ now, (container.metrics.uptime now).isSome = moments.any Moment.beginsRefresh
  stopTime : container.metrics.stopTime.isSome = decide (container.status = .stopped)
  shutdownDuration : container.metrics.shutdownDuration.isSome = decide (container.status = .stopped)
  lastReport : container.lastReport.isSome = decide (container.status = .stopped)
  /-- A stopped container was closed. -/
  stopped : container.status = .stopped →
    ∃ now elapsed running report, .closeEnds now elapsed running report ∈ moments
  /-- A close leaves its own report and figures. -/
  closed : ∀ now elapsed running report, .closeEnds now elapsed running report ∈ moments →
    container.status = .stopped ∧ container.lastReport = some report ∧
      container.metrics.stopFailures = report.failures.length ∧
      container.metrics.timedOutPhases = report.timeouts.length ∧
      container.metrics.running = running
  /-- A failed container is one whose refresh failed. -/
  failed : container.status = .failed →
    ∃ elapsed running error, .refreshEnds elapsed running (.error error) ∈ moments
  /-- A running container is one whose refresh did not fail. -/
  running : container.status = .running →
    ∃ elapsed running, .refreshEnds elapsed running (.ok ()) ∈ moments

section

variable {settings : Settings} {registered : Nat} {moments : List Moment} {container : Container}
  {stage : Stage}

/-- The uptime is known once the start is. -/
theorem Metrics.isSome_uptime (metrics : Metrics) (now : Instant) :
    (metrics.uptime now).isSome = metrics.startTime.isSome := by
  rw [uptime, Option.isSome_map]

/-- Refusals do not count. -/
theorem Container.CoheresWith.of_filter
    (coheres : container.CoheresWith (moments.filter (!·.isRefusal))) :
    container.CoheresWith moments := by
  have same : (moments.filter (!·.isRefusal)).any Moment.beginsRefresh =
      moments.any Moment.beginsRefresh := by
    simp only [List.any_filter, Bool.and_comm (!_), Moment.beginsRefresh_and_not_isRefusal]
  have accepted : ∀ {moment : Moment}, moment ∈ moments → moment.isRefusal = false →
      moment ∈ moments.filter (!·.isRefusal) := fun there its =>
    List.mem_filter.mpr ⟨there, by rw [its]; rfl⟩
  refine ⟨same ▸ coheres.startTime, same ▸ coheres.startupDuration, same ▸ coheres.uptime,
    coheres.stopTime, coheres.shutdownDuration, coheres.lastReport, fun stopped => ?_,
    fun now elapsed running report there => coheres.closed now elapsed running report
      (accepted there rfl), fun failed => ?_, fun running => ?_⟩
  · obtain ⟨now, elapsed, running, report, there⟩ := coheres.stopped stopped
    exact ⟨now, elapsed, running, report, List.mem_of_mem_filter there⟩
  · obtain ⟨elapsed, running, error, there⟩ := coheres.failed failed
    exact ⟨elapsed, running, error, List.mem_of_mem_filter there⟩
  · obtain ⟨elapsed, running, there⟩ := coheres.running running
    exact ⟨elapsed, running, List.mem_of_mem_filter there⟩

theorem Begun.notMem_closeEnds (begun : Begun settings registered moments container) (now : Instant)
    (elapsed : Int) (running : Nat) (report : StopReport) :
    .closeEnds now elapsed running report ∉ moments := by
  intro there
  cases begun with
  | fresh => exact absurd there List.not_mem_nil
  | refreshed accepted elapsed running outcome =>
    rcases List.mem_cons.mp there with same | there
    · cases same
    · cases List.mem_singleton.mp there

/-- Before a close, only the figures of a start can be there. -/
theorem Begun.coheresWith (begun : Begun settings registered moments container) :
    container.CoheresWith moments := by
  have unclosed : ∀ now elapsed running report, .closeEnds now elapsed running report ∈ moments →
      container.status = .stopped ∧ container.lastReport = some report ∧
        container.metrics.stopFailures = report.failures.length ∧
        container.metrics.timedOutPhases = report.timeouts.length ∧
        container.metrics.running = running :=
    fun _ _ _ _ there => absurd there (begun.notMem_closeEnds _ _ _ _)
  cases begun with
  | fresh => exact ⟨rfl, rfl, fun now => rfl, rfl, rfl, rfl, nofun, unclosed, nofun, nofun⟩
  | refreshed accepted elapsed running outcome =>
    obtain ⟨-, rfl⟩ := Container.beginRefresh_eq_ok_iff.mp accepted
    have last : ∀ moment : Moment, Moment.refreshEnds elapsed running outcome ∈
        [moment, .refreshEnds elapsed running outcome] :=
      fun moment => List.mem_cons_of_mem _ List.mem_cons_self
    cases outcome with
    | ok done =>
      exact ⟨rfl, rfl, fun now => rfl, rfl, rfl, rfl, nofun, unclosed, nofun,
        fun _ => ⟨elapsed, running, last _⟩⟩
    | error error =>
      exact ⟨rfl, rfl, fun now => rfl, rfl, rfl, rfl, nofun, unclosed,
        fun _ => ⟨elapsed, running, error, last _⟩, nofun⟩

theorem Story.coheresWith (story : Story settings registered moments stage)
    (noRefresh : stage.refreshing = 0) (noClose : stage.closing = 0) :
    stage.container.CoheresWith moments := by
  cases story with
  | refreshing accepted => cases noRefresh
  | closing begun accepted => cases noClose
  | idle begun => exact begun.coheresWith
  | @closed moments container left begun accepted now elapsed running report =>
    have coheres := begun.coheresWith
    obtain ⟨-, rfl⟩ := Container.beginClose_eq_ok_iff.mp accepted
    have same : (moments ++ [Moment.closeBegins, .closeEnds now elapsed running report]).any
        Moment.beginsRefresh = moments.any Moment.beginsRefresh := by
      rw [List.any_append]
      exact Bool.or_false _
    refine ⟨same ▸ coheres.startTime, same ▸ coheres.startupDuration, fun now => ?_, rfl, rfl, rfl,
      fun _ => ⟨now, elapsed, running, report, ?_⟩, fun _ _ _ _ there => ?_, nofun, nofun⟩
    · rw [Metrics.isSome_uptime, same]
      exact coheres.startTime
    · exact List.mem_append_right _ (List.mem_cons_of_mem _ List.mem_cons_self)
    · rcases List.mem_append.mp there with there | there
      · exact absurd there (begun.notMem_closeEnds _ _ _ _)
      · rcases List.mem_cons.mp there with same | there
        · cases same
        · cases List.mem_singleton.mp there
          exact ⟨rfl, rfl, rfl, rfl, rfl⟩

/-- Whenever no operation of a container is under way, its figures agree with its life. -/
theorem Life.coheresWith (life : Life { container := .create settings registered } moments stage)
    (noRefresh : stage.refreshing = 0) (noClose : stage.closing = 0) :
    stage.container.CoheresWith moments :=
  (life.story.coheresWith noRefresh noClose).of_filter

/-- Where nothing is accepted, an own operation would have to be under way to change anything. -/
theorem Life.eq_of_unclosable {last : Stage} (life : Life stage moments last)
    (noRefresh : stage.refreshing = 0) (noClose : stage.closing = 0)
    (unclosable : stage.container.status.allowsClose = false) : last = stage := by
  induction life with
  | done stage => rfl
  | next first later inductionHypothesis =>
    cases first with
    | refreshRefused refused => exact inductionHypothesis noRefresh noClose unclosable
    | closeRefused refused => exact inductionHypothesis noRefresh noClose unclosable
    | refreshBegins accepted =>
      rw [(Container.beginRefresh_eq_ok_iff.mp accepted).1] at unclosable
      cases unclosable
    | closeBegins accepted =>
      rw [(ContainerStatus.allowsClose_iff _).mpr (Container.beginClose_eq_ok_iff.mp accepted).1]
        at unclosable
      cases unclosable
    | refreshEnds elapsed running outcome => cases noRefresh
    | closeEnds now elapsed running report => cases noClose

end

namespace Rehearsal

namespace World

/-! ### Passes -/

section

variable {number : Nat} {housing : Housing} {world passed : World} {container : Container}

/-- A pass within an operation leaves the container to the operation. -/
theorem container_of_unfolding (unfolding : Unfolding number world passed)
    (there : world.housings[number]? = some housing)
    (attached : housing.orchestrator.isAttached = true)
    (unclosable : housing.container.status.allowsClose = false) :
    ∃ later, passed.housings[number]? = some later ∧ later.container = housing.container := by
  obtain ⟨moments, unfolds, -⟩ := unfolding.2 ⟨housing, there, attached⟩
  obtain ⟨later, present, -, -, -, life⟩ := unfolds.life there
  exact ⟨later, present, congrArg Stage.container ((life 0 0).eq_of_unclosable rfl rfl unclosable)⟩

/-- What happens without a call of a container leaves it as it was. -/
theorem container_of_leaves (unfolding : Unfolding number world passed)
    (attached : world.HasAttached number) (leaves : world.LeavesContainers) :
    (passed.housings[number]?).map (·.container) = (world.housings[number]?).map (·.container) := by
  obtain ⟨housing, there, its⟩ := attached
  obtain ⟨moments, unfolds, none⟩ := unfolding.2 ⟨housing, there, its⟩
  obtain rfl := none leaves
  obtain ⟨later, present, -, -, -, life⟩ := unfolds.life there
  have same : later.container = housing.container :=
    congrArg Stage.container (life 0 0).eq_of_nil
  rw [present, there, Option.map_some, Option.map_some, same]

/-- The components of a registry that run. -/
theorem runningMembers_eq_length (world : World) (number : Nat) :
    world.runningMembers number = ((world.registryAt number).members.filter fun member =>
      (world.actor? member.component.key).any (·.running)).length :=
  List.countP_eq_length_filter

/-- A refresh that is accepted notes the outcome that it returns, and nothing else intervenes. -/
theorem container_refresh (depth : Nat) {outcome : Except LifecycleError Unit}
    (there : world.housings[number]? = some housing)
    (attached : housing.orchestrator.isAttached = true)
    (accepted : housing.container.beginRefresh world.instant
      (world.registryAt housing.registry).size = .ok container)
    (pass : (world.refreshBegun number container).conductRefresh (takeStep depth) (.housing number) =
      (outcome, passed)) :
    (world.refresh (takeStep depth) number housing).1 = refreshResult outcome ∧
      ((world.refresh (takeStep depth) number housing).2.housings[number]?).map (·.container) =
        some (container.finishRefresh ↑(passed.clock - world.clock)
          (passed.runningMembers housing.registry) outcome) := by
  have starting : container.status.allowsClose = false := by
    rw [(Container.beginRefresh_eq_ok_iff.mp accepted).2]
    rfl
  have unfolding := (Unfolding.course_takeStep (unfolding_takeStep number depth)).conductRefresh
    (Unfolding.flag (.housing number) true) (Unfolding.mark _) (world.refreshBegun number container)
  rw [pass] at unfolding
  obtain ⟨later, present, same⟩ :=
    container_of_unfolding unfolding (getElem?_refreshBegun there container) attached starting
  obtain ⟨notices, returns⟩ := refresh_of_accepted accepted pass
  rw [returns]
  refine ⟨rfl, ?_⟩
  rw [report, getElem?_changeContainer present, Option.map_some, same]

/-- A close that is accepted notes the report that it returns, and nothing else intervenes. -/
theorem container_close (depth : Nat) {report : StopReport}
    (there : world.housings[number]? = some housing)
    (attached : housing.orchestrator.isAttached = true)
    (accepted : housing.container.beginClose = .ok container)
    (pass : (world.closeBegun number container).conductClose (takeStep depth) (.housing number) =
      (.ok report, passed)) :
    (world.close (takeStep depth) number housing).1 = .report report ∧
      ((world.close (takeStep depth) number housing).2.housings[number]?).map (·.container) =
        some (container.finishClose passed.instant ↑(passed.clock - world.clock)
          (passed.runningMembers housing.registry) (.ok report)) := by
  have stopping : container.status.allowsClose = false := by
    rw [(Container.beginClose_eq_ok_iff.mp accepted).2]
    rfl
  have unfolding := (Unfolding.course_takeStep (unfolding_takeStep number depth)).conductClose
    (Unfolding.flag (.housing number) false) (Unfolding.mark _) (world.closeBegun number container)
  rw [pass] at unfolding
  obtain ⟨later, present, same⟩ :=
    container_of_unfolding unfolding (getElem?_closeBegun there container) attached stopping
  obtain ⟨notices, returns⟩ := close_of_accepted accepted pass
  rw [returns]
  refine ⟨rfl, ?_⟩
  rw [World.report, getElem?_changeContainer present, Option.map_some, same]

end

end World

/-! ### Coherence -/

/-- Whenever no operation of a container is under way, its figures agree with its life.

Whatever a script does with a container after it was built, and whatever its components do while they are
called, unfolds into a life of the container with the statuses that the history tells, and after each part
of it that leaves nothing under way the figures agree with that part. A refresh and a close note what they
return, whatever happens within their passes: a refresh leaves a container running or failed by its
outcome, and a close leaves it stopped, with its report and with the number of components then in its
registry that ran when its pass had ended. A step of a script that calls no container changes nothing of
one, and neither does a pass that any orchestrator runs directly, as long as its components call none. -/
theorem container_figures_cohere :
    (∀ (script : BuildScript) (world built : World) (steps : List Step),
      world.build script = (.done, built) →
        ∃ settings registered moments container,
          World.Unfolds world.housings.length built moments (play steps built).2 ∧
            ((play steps built).2.housings[world.housings.length]?).map (·.container) =
              some container ∧
            (play steps built).2.statusesOf world.housings.length =
              built.statusesOf world.housings.length ++ moments.filterMap Moment.status? ∧
            container.CoheresWith moments ∧
            ∀ front back, moments = front ++ back →
              ∃ stage : Stage, Life { container := .create settings registered } front stage ∧
                Life stage back { container } ∧
                (stage.refreshing = 0 → stage.closing = 0 → stage.container.CoheresWith front)) ∧
    (∀ (depth number : Nat) (housing : Housing) (world : World),
      world.housings[number]? = some housing → housing.orchestrator.isAttached = true →
        (housing.container.status = .initialized →
          ∃ outcome container, (world.refresh (World.takeStep depth) number housing).1 =
              World.refreshResult outcome ∧
            ((world.refresh (World.takeStep depth) number housing).2.housings[number]?).map
              (·.container) = some container ∧
            container.status = (match outcome with | .ok _ => .running | .error _ => .failed) ∧
            container.metrics.startTime = some world.instant ∧
            container.metrics.startupDuration.isSome = true ∧
            container.lastReport = housing.container.lastReport) ∧
        (housing.container.status = .initialized ∨ housing.container.status = .running ∨
            housing.container.status = .failed →
          ∃ report passed container,
            (world.closeBegun number { housing.container with status := .stopping }).conductClose
              (World.takeStep depth) (.housing number) = (.ok report, passed) ∧
            (world.close (World.takeStep depth) number housing).1 = .report report ∧
            ((world.close (World.takeStep depth) number housing).2.housings[number]?).map
              (·.container) = some container ∧
            container.status = .stopped ∧ container.lastReport = some report ∧
            container.metrics.stopFailures = report.failures.length ∧
            container.metrics.timedOutPhases = report.timeouts.length ∧
            container.metrics.running =
              ((passed.registryAt housing.registry).members.filter fun member =>
                (passed.actor? member.component.key).any (·.running)).length ∧
            container.metrics.startTime = housing.container.metrics.startTime)) ∧
    (∀ (depth number : Nat) (step : Step) (world : World), world.HasAttached number →
      world.LeavesContainers → step.callsContainer = false →
        ((World.takeStep depth step world).2.housings[number]?).map (·.container) =
          (world.housings[number]?).map (·.container)) ∧
    ∀ (depth number : Nat) (seat : Seat) (world : World), world.HasAttached number →
      world.LeavesContainers →
        ∀ after ∈ [(world.conductStart (World.takeStep depth) seat false).2,
            (world.conductStop (World.takeStep depth) seat).2,
            (world.conductRefresh (World.takeStep depth) seat).2,
            (world.conductClose (World.takeStep depth) seat).2],
          (after.housings[number]?).map (·.container) =
            (world.housings[number]?).map (·.container) := by
  refine ⟨fun script world built steps builds => ?_,
    fun depth number housing world there attached => ⟨fun new => ?_, fun closable => ?_⟩,
    fun depth number step world attached leaves calls => ?_,
    fun depth number seat world attached leaves after among => ?_⟩
  · obtain ⟨housing, settings, registered, there, created, attached⟩ := World.housing_of_build builds
    obtain ⟨moments, unfolds⟩ := World.exists_unfolds_play steps ⟨housing, there, attached⟩
    obtain ⟨later, present, -, -, statuses, life⟩ := unfolds.life there
    have whole : Life { container := .create settings registered } moments
        { container := later.container } := created ▸ life 0 0
    refine ⟨settings, registered, moments, later.container, unfolds, ?_, statuses,
      whole.coheresWith rfl rfl,
      fun front back parts => ?_⟩
    · rw [present, Option.map_some]
    · obtain ⟨stage, toStage, fromStage⟩ := (parts ▸ whole).split
      exact ⟨stage, toStage, fromStage, toStage.coheresWith⟩
  · obtain ⟨returned, left⟩ := World.container_refresh depth there attached
      (Container.beginRefresh_eq_ok_iff.mpr ⟨new, rfl⟩) rfl
    exact ⟨_, _, returned, left, rfl, rfl, rfl, rfl⟩
  · obtain ⟨report, passed, pass⟩ := World.closePass_of_accepted (World.takeStep depth) there attached
      { housing.container with status := .stopping }
    obtain ⟨returned, left⟩ := World.container_close depth there attached
      (Container.beginClose_eq_ok_iff.mpr ⟨closable, rfl⟩) pass
    exact ⟨report, passed, _, pass, returned, left, rfl, rfl, rfl, rfl,
      World.runningMembers_eq_length _ _, rfl⟩
  · have unfolding : World.Unfolding number world (World.takeStep depth step world).2 :=
      ⟨World.ownSteps_takeStep depth step world, fun attached => by
        obtain ⟨moments, unfolds, none⟩ := World.unfolding_takeStep number depth step world attached
        exact ⟨moments, unfolds, fun leaves => none leaves calls⟩⟩
    exact World.container_of_leaves unfolding attached leaves
  · have course := World.Unfolding.course_takeStep (World.unfolding_takeStep number depth)
    have flags := @World.Unfolding.flag number seat
    have marks := @World.Unfolding.mark number seat
    simp only [List.mem_cons, List.not_mem_nil, or_false] at among
    rcases among with rfl | rfl | rfl | rfl
    · exact World.container_of_leaves (course.conductStart (flags true) false world) attached leaves
    · exact World.container_of_leaves (course.conductStop (flags false) world) attached leaves
    · exact World.container_of_leaves (course.conductRefresh (flags true) marks world) attached leaves
    · exact World.container_of_leaves (course.conductClose (flags false) marks world) attached leaves

/-- Two components that keep to themselves, one of which cannot be stopped. -/
def quiet : World :=
  { actors := [{ id := "well", kind := .plain },
      { id := "brook", kind := .phased, phase := 1, running := true, stopScript := { ending := .fail } }] }

def quietScript : BuildScript :=
  { roles := [⟨"well", "well"⟩, ⟨"brook", "brook"⟩] }

def quietBuilt : World :=
  (quiet.build quietScript).2

def quietHousing : Housing :=
  quietBuilt.housings.get ⟨0, by decide +kernel⟩

theorem quiet_container_figures_cohere :
    quiet.build quietScript = (.done, quietBuilt) ∧
      (∃ (moments : List Moment) (container : Container),
        World.Unfolds 0 quietBuilt moments (play [.refreshPass, .refresh, .stop, .close] quietBuilt).2 ∧
          moments.filterMap Moment.status? = [.starting, .running, .stopping, .stopped] ∧
          container.CoheresWith moments ∧ container.status = .stopped ∧
          moments.any Moment.beginsRefresh = true) ∧
      (∃ report container, (quietBuilt.close (World.takeStep 1) 0 quietHousing).1 = .report report ∧
        ((quietBuilt.close (World.takeStep 1) 0 quietHousing).2.housings[0]?).map (·.container) =
          some container ∧
        container.lastReport = some report ∧ container.metrics.running = 1) ∧
      ((World.takeStep 4 .refreshPass quietBuilt).2.housings[0]?).map (·.container) =
        (quietBuilt.housings[0]?).map (·.container) ∧
      (((quietBuilt.conductClose (World.takeStep 4) (.housing 0)).2.housings[0]?).map (·.container) =
        (quietBuilt.housings[0]?).map (·.container)) := by
  obtain ⟨scripts, calls, passes, direct⟩ := container_figures_cohere
  have builds : quiet.build quietScript = (.done, quietBuilt) := Prod.ext (by rfl) rfl
  have there : quietBuilt.housings[0]? = some quietHousing := List.getElem?_eq_getElem _
  have attached : quietHousing.orchestrator.isAttached = true := by decide +kernel
  have leaves : quietBuilt.LeavesContainers := by
    rw [World.LeavesContainers, quietBuilt, World.ownSteps_build]
    decide
  refine ⟨builds, ?_, ?_, passes 4 0 .refreshPass _ ⟨quietHousing, there, attached⟩ leaves rfl,
    direct 4 0 (.housing 0) _ ⟨quietHousing, there, attached⟩ leaves _ (by simp)⟩
  · obtain ⟨settings, registered, moments, container, unfolds, present, statuses, coheres, -⟩ :=
      scripts quietScript quiet _ [.refreshPass, .refresh, .stop, .close] builds
    have figures : (((play [.refreshPass, .refresh, .stop, .close] quietBuilt).2.housings[0]?).map
        (·.container)).map (fun container => (container.status, container.metrics.startTime.isSome)) =
          some (.stopped, true) := by decide +kernel
    have told : (play [.refreshPass, .refresh, .stop, .close] quietBuilt).2.statusesOf
        quiet.housings.length = [.starting, .running, .stopping, .stopped] := by decide +kernel
    have nothing : quietBuilt.statusesOf quiet.housings.length = [] := by decide +kernel
    rw [told, nothing, List.nil_append] at statuses
    have left : ((play [.refreshPass, .refresh, .stop, .close] quietBuilt).2.housings[0]?).map
        (·.container) = some container := present
    rw [left] at figures
    obtain ⟨status, started⟩ := Prod.mk.inj (Option.some.inj figures)
    exact ⟨moments, container, unfolds, statuses.symm, coheres, status,
      coheres.startTime.symm.trans started⟩
  · obtain ⟨report, passed, container, pass, returned, present, -, noted, -, -, running, -⟩ :=
      (calls 1 0 quietHousing _ there attached).2 (Or.inl (by decide +kernel))
    have count : ((((quietBuilt.closeBegun 0 { quietHousing.container with
        status := .stopping }).conductClose (World.takeStep 1) (.housing 0)).2.registryAt
          quietHousing.registry).members.filter fun member =>
            (((quietBuilt.closeBegun 0 { quietHousing.container with
              status := .stopping }).conductClose (World.takeStep 1) (.housing 0)).2.actor?
                member.component.key).any (·.running)).length = 1 := by decide +kernel
    rw [pass] at count
    exact ⟨report, container, returned, present, noted, running.trans count⟩

end Rehearsal

end PhasedLifecycle
