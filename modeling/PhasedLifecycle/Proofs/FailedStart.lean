/-
This file says what a start that fails leaves behind. The failure is that of one component, whose start
was the last call of the pass; every call before it was a start that succeeded, and none of these is
taken back. Whatever depends on the component and lies on no circle is not even come to, for its turn
would come after the turn of the component that failed.

An orchestrator runs after such a pass just if it ran before, unless components start passes of their own
while they are called.
-/

import PhasedLifecycle.Proofs.Courses
import PhasedLifecycle.Proofs.Retries

namespace PhasedLifecycle

open Pass Relation

/-! ### The record of a failed start -/

/-- What a record shows of a start pass that failed at a name. -/
structure FailsAt (edges : String → List String) (snapshot : List Member) (record : List Exchange)
    (error : LifecycleError) (name : String) (component : Component) (reason : String) : Prop where
  /-- The error names the name, and the reason that its component gave. -/
  error : error = .startFailed name reason
  stands : (WorkingSet.ofList snapshot).get? name = some component
  /-- The last call is the one that failed, and every call before it is a start that succeeded. -/
  calls : callsIn record = (startedIn record).map (Call.start · none) ++ [.start component (some reason)]
  /-- All calls are made in turns of names, the last in the turn of the name that failed. -/
  turns : callsIn record = (turnsIn record).flatMap (·.calls)
  last : ∃ turn, (turnsIn record).getLast? = some turn ∧ turn.name = name ∧
    turn.calls = [.start component (some reason)]
  /-- What depends on the name and lies on no circle has no turn. -/
  dependents : ∀ dependent, ¬ OnCircle edges (snapshot.map (·.name)) dependent →
    TransGen (Leads edges (snapshot.map (·.name))) dependent name →
      dependent ∉ (turnsIn record).map (·.name)
  /-- So its component is not called, unless it stands under another name too. -/
  uncalled : ∀ dependent, ¬ OnCircle edges (snapshot.map (·.name)) dependent →
    TransGen (Leads edges (snapshot.map (·.name))) dependent name →
      ∀ other, (WorkingSet.ofList snapshot).get? dependent = some other →
        (∀ name, (WorkingSet.ofList snapshot).get? name = some other → name = dependent) →
          other ∉ startsIn record

/-- The calls of turns that no failure ended are starts that succeeded. -/
theorem calls_of_clean {autoOnly : Bool} {turns : List Turn}
    (clean : ∀ turn ∈ turns, StartTurn autoOnly turn none) :
    ∃ started : List Component, turns.flatMap (·.calls) = started.map (Call.start · none) := by
  induction turns with
  | nil => exact ⟨[], rfl⟩
  | cons turn turns inductionHypothesis =>
    obtain ⟨started, later⟩ := inductionHypothesis fun other there =>
      clean other (List.mem_cons_of_mem _ there)
    rw [List.flatMap_cons, later]
    cases clean turn List.mem_cons_self with
    | running name component => exact ⟨started, rfl⟩
    | declining name component automatic => exact ⟨started, rfl⟩
    | starting name component auto => exact ⟨component :: started, rfl⟩

/-- In an ordered search, what leads to a name and lies on no circle has its turn after the name. -/
theorem Descent.Ordered.notMem_of_leads {edges : String → List String} {names order front rest : List String}
    {name dependent : String} (ordered : Descent.Ordered edges names order) (once : order.Nodup)
    (place : order = front ++ name :: rest) (straight : ¬ OnCircle edges names dependent)
    (leads : TransGen (Leads edges names) dependent name) : dependent ∉ front ++ [name] := by
  have different : name ≠ dependent := fun same => straight (same ▸ leads)
  intro there
  rcases List.mem_append.mp there with there | same
  · obtain ⟨earlier, later, rfl⟩ := List.append_of_mem there
    have before : name ∈ earlier := by
      have earlierPlace : order = earlier ++ dependent :: (later ++ name :: rest) := by
        rw [place, List.append_assoc, List.cons_append]
      exact ordered.precedes earlierPlace straight leads.to_reflTransGen different
    rw [place] at once
    exact List.disjoint_of_nodup_append once (List.mem_append_left _ before) List.mem_cons_self
  · exact different (List.mem_singleton.mp same).symm

section

variable {snapshot : List Member} {autoOnly : Bool} {record : List Exchange} {error : LifecycleError}
  {edges : String → List String}

/-- In a start pass that fails, all turns but the last are clean, the last is that of the name that
failed, and they come in an order of the search. -/
theorem turns_of_failed_startPass {timeout : Nat}
    (yields : (startPass snapshot timeout autoOnly).Yields record (.error error))
    (fixed : ∀ exchange ∈ record, exchange.KeepsDependencies edges) :
    ∃ name component auto reason turns order rest, error = .startFailed name reason ∧
      turnsIn record = turns ++ [⟨name, component, false, auto, [.start component (some reason)]⟩] ∧
      (∀ turn ∈ turns, StartTurn autoOnly turn none) ∧
      (∀ turn ∈ turnsIn record, (WorkingSet.ofList snapshot).get? turn.name = some turn.component) ∧
      callsIn record = (turnsIn record).flatMap (·.calls) ∧
      Descent.Ordered edges (snapshot.map (·.name)) order ∧ order.Nodup ∧
      order = turns.map (·.name) ++ name :: rest := by
  obtain ⟨_, _, _, starting, roots, -, -, -, ended, accord⟩ := accord_startPass fixed yields
  have failure : starting.failure = some error := by
    cases failed : starting.failure with
    | none =>
      rw [failed] at ended
      cases ended
    | some other =>
      rw [failed] at ended
      cases ended
      rfl
  obtain ⟨turn, turns, latest, kind⟩ := accord.failed error failure
  have clean := accord.clean
  obtain ⟨rest, place⟩ := accord.names
  rw [latest] at clean
  rw [Docket.names, latest] at place
  cases kind with
  | failing name component auto reason =>
    have searched := @Descent.sound_initial edges _ (WorkingSet.distinct_ofList snapshot)
    obtain ⟨sound, -⟩ := searched.enterAll roots
    have ordered := sound.ordered
    unfold Descent.Ordered at ordered
    rw [leads_congr (WorkingSet.mem_names_ofList snapshot)] at ordered
    refine ⟨name, component, auto, reason, turns.reverse, _, rest, rfl, ?_,
      fun other there => clean other (List.mem_reverse.mp there),
      fun other there => accord.listed other (List.mem_reverse.mp there),
      (flatMap_calls_turnsIn accord.strays).symm, ordered, sound.once, ?_⟩
    · rw [turnsIn, latest, List.reverse_cons]
    · rw [← place, List.reverse_cons, List.map_append, List.append_assoc]
      rfl

/-- Where calls are made in turns alone, a component is started in the turn of a name of its own. -/
theorem mem_turnsIn_of_mem_startsIn {component : Component}
    (turns : callsIn record = (turnsIn record).flatMap (·.calls))
    (listed : ∀ turn ∈ turnsIn record,
      (WorkingSet.ofList snapshot).get? turn.name = some turn.component)
    (starts : component ∈ startsIn record) :
    ∃ name ∈ (turnsIn record).map (·.name),
      (WorkingSet.ofList snapshot).get? name = some component := by
  obtain ⟨call, called, rfl⟩ := List.mem_map.mp starts
  have inCalls := (List.mem_filter.mp called).1
  rw [turns] at inCalls
  obtain ⟨turn, there, inTurn⟩ := List.mem_flatMap.mp inCalls
  refine ⟨turn.name, List.mem_map_of_mem there, ?_⟩
  rw [listed turn there, component_of_mem_turnsIn there inTurn]

/-- A start pass that fails does so at one name. -/
theorem failsAt_startPass {timeout : Nat}
    (yields : (startPass snapshot timeout autoOnly).Yields record (.error error))
    (fixed : ∀ exchange ∈ record, exchange.KeepsDependencies edges) :
    ∃ name component reason, FailsAt edges snapshot record error name component reason := by
  obtain ⟨name, component, auto, reason, turns, order, rest, ended, failed, clean, listed, whole,
    ordered, once, place⟩ := turns_of_failed_startPass yields fixed
  obtain ⟨started, calls⟩ := calls_of_clean clean
  have called : callsIn record =
      started.map (Call.start · none) ++ [.start component (some reason)] := by
    rw [whole, failed, List.flatMap_append, calls, List.flatMap_singleton]
  have succeeded : startedIn record = started := by
    rw [startedIn, called, List.filterMap_append, filterMap_started?]
    exact List.append_nil _
  have last : (turnsIn record).getLast? =
      some ⟨name, component, false, auto, [.start component (some reason)]⟩ := by
    rw [failed, List.getLast?_concat]
  have absent : ∀ dependent, ¬ OnCircle edges (snapshot.map (·.name)) dependent →
      TransGen (Leads edges (snapshot.map (·.name))) dependent name →
        dependent ∉ (turnsIn record).map (·.name) := by
    intro dependent straight leads
    rw [failed, List.map_append]
    exact ordered.notMem_of_leads once place straight leads
  refine ⟨name, component, reason, ended, listed _ (List.mem_of_getLast? last), succeeded ▸ called,
    whole, ⟨_, last, rfl, rfl⟩, absent, ?_⟩
  intro dependent straight leads other stands alone starts
  obtain ⟨itsName, there, same⟩ := mem_turnsIn_of_mem_startsIn whole listed starts
  exact absent dependent straight leads (alone itsName same ▸ there)

end

/-! ### The orchestrator of a failed start -/

namespace Rehearsal

/-- Whether the step runs a pass. -/
def Step.runsPass : Step → Bool
  | .start | .refreshPass | .stop | .closePass | .refresh _ | .close _ => true
  | _ => false

namespace World

/-- No actor runs passes while it is called. -/
def Undisturbed (world : World) : Prop :=
  ∀ step ∈ world.ownSteps, step.runsPass = false

/-- What happens leaves each orchestrator with a registry as it is: attached, and running or not. -/
def KeepsFlags (before after : World) : Prop :=
  ∀ seat, (before.orchestrator seat).isAttached = true →
    (after.orchestrator seat).isAttached = true ∧
      (after.orchestrator seat).isRunning = (before.orchestrator seat).isRunning

theorem Aside.keepsFlags {before after : World} (aside : Aside before after) :
    KeepsFlags before after := by
  intro seat attached
  have same : after.orchestrator seat = before.orchestrator seat := by
    cases seat with
    | setUp => exact aside.setUp
    | housing number => rw [orchestrator_housing, orchestrator_housing, aside.housings]
  rw [same]
  exact ⟨attached, rfl⟩

theorem KeepsFlags.trans {before middle after : World} (first : KeepsFlags before middle)
    (second : KeepsFlags middle after) : KeepsFlags before after := by
  intro seat attached
  obtain ⟨still, same⟩ := first seat attached
  obtain ⟨later, equal⟩ := second seat still
  exact ⟨later, equal.trans same⟩

theorem keepsFlags_build (script : BuildScript) (world : World) :
    KeepsFlags world (world.build script).2 := by
  intro seat attached
  have same : (world.build script).2.orchestrator seat = world.orchestrator seat := by
    cases seat with
    | setUp => exact setUp_build script world
    | housing number =>
      rw [orchestrator_housing] at attached ⊢
      rw [orchestrator_housing]
      cases there : world.housings[number]? with
      | none =>
        rw [there] at attached
        cases attached
      | some housing =>
        have inside := (List.getElem?_eq_some_iff.mp there).1
        rcases housings_build script world with ⟨housings, -⟩ | ⟨added, -, -, housings⟩
        · rw [housings, there]
        · rw [housings, List.getElem?_append_left inside, there]
  rw [same]
  exact ⟨attached, rfl⟩

/-- The course of passes with actors that run none while they are called. -/
theorem course_of_flags {take : Taker}
    (own : ∀ {world : World} {step : Step}, step ∈ world.ownSteps →
      (take step world).2.ownSteps = world.ownSteps ∧
        (world.Undisturbed → KeepsFlags world (take step world).2)) :
    Course (fun before after => after.ownSteps = before.ownSteps ∧
      (before.Undisturbed → KeepsFlags before after)) take := by
  refine ⟨fun first second => ⟨second.1.trans first.1, fun undisturbed => ?_⟩,
    fun aside => ⟨aside.ownSteps, fun _ => aside.keepsFlags⟩, And.left, own⟩
  refine (first.2 undisturbed).trans (second.2 ?_)
  rw [Undisturbed, first.1]
  exact undisturbed

/-- As long as actors run no passes, a step that runs none leaves the orchestrators as they are. -/
theorem keepsFlags_takeStep (depth : Nat) {step : Step} {world : World}
    (undisturbed : world.Undisturbed) (other : step.runsPass = false) :
    KeepsFlags world (takeStep depth step world).2 := by
  induction depth generalizing step world with
  | zero => exact (Aside.refl world).keepsFlags
  | succ depth inductionHypothesis =>
    cases concerns : step.concernsOffices with
    | false =>
      have course := @course_of_flags (takeStep depth) fun {world step} own =>
        ⟨ownSteps_takeStep depth step world, fun undisturbed =>
          inductionHypothesis undisturbed (undisturbed step own)⟩
      exact (course.takeWith concerns world).2 undisturbed
    | true =>
      cases step with
      | attach =>
        intro seat attached
        cases seat with
        | setUp => exact ⟨rfl, rfl⟩
        | housing number => exact ⟨attached, rfl⟩
      | setTimeout timeout =>
        intro seat attached
        cases seat with
        | setUp => exact ⟨attached, rfl⟩
        | housing number => exact ⟨attached, rfl⟩
      | build script => exact keepsFlags_build script world
      | start | refreshPass | stop | closePass | refresh container | close container => cases other
      | _ => cases concerns

theorem course_flags (depth : Nat) :
    Course (fun before after => after.ownSteps = before.ownSteps ∧
      (before.Undisturbed → KeepsFlags before after)) (takeStep depth) :=
  course_of_flags fun {world step} own =>
    ⟨ownSteps_takeStep depth step world, fun undisturbed =>
      keepsFlags_takeStep depth undisturbed (undisturbed step own)⟩

/-- The record of a start pass of a seat. -/
def startRecord (take : Taker) (seat : Seat) (autoOnly : Bool) (world : World) : List Exchange :=
  (startPass (world.snapshot (world.viewOf seat)) (world.orchestrator seat).timeout autoOnly).recordOf
    (answer take (world.viewOf seat)) (fun _ => []) (·.clock) world

/-- A seat with a registry whose start fails is left at the end of the start pass that failed. -/
theorem conductStart_error {take : Taker} {seat : Seat} {autoOnly : Bool} {world after : World}
    {error : LifecycleError} (attached : (world.orchestrator seat).isAttached = true)
    (failed : world.conductStart take seat autoOnly = (.error error, after)) :
    world.conduct take (world.viewOf seat) (startPass (world.snapshot (world.viewOf seat))
      (world.orchestrator seat).timeout autoOnly) = (.error error, after) := by
  unfold conductStart at failed
  dsimp only at failed
  rw [attached] at failed
  split at failed
  · rename_i detached
    cases detached
  · split at failed
    · cases failed
    · rename_i pass
      rw [pass, failed]

theorem yields_startRecord {take : Taker} {seat : Seat} {autoOnly : Bool} {world after : World}
    {error : LifecycleError} (attached : (world.orchestrator seat).isAttached = true)
    (failed : world.conductStart take seat autoOnly = (.error error, after)) :
    (startPass (world.snapshot (world.viewOf seat)) (world.orchestrator seat).timeout
      autoOnly).Yields (world.startRecord take seat autoOnly) (.error error) := by
  have ended : ((startPass (world.snapshot (world.viewOf seat)) (world.orchestrator seat).timeout
      autoOnly).run (answer take (world.viewOf seat)) world).1 = .error error :=
    congrArg Prod.fst (conductStart_error attached failed)
  exact ended ▸ yields_recordOf _ _ _ _ _

end World

end Rehearsal

/-- A start pass that fails takes nothing back. Whatever answers its questions, its failure is that of one
name, whose component was called last; the calls before are starts that succeeded, and nothing that
depends on the name and lies on no circle is come to. Where actors run no passes while they are called,
an orchestrator whose start fails runs afterwards if and only if it ran before. -/
theorem failed_start_takes_nothing_back :
    (∀ (snapshot : List Member) (timeout : Nat) (autoOnly : Bool) (record : List Exchange)
        (error : LifecycleError) (edges : String → List String),
      (startPass snapshot timeout autoOnly).Yields record (.error error) →
      (∀ exchange ∈ record, exchange.KeepsDependencies edges) →
        ∃ name component reason, FailsAt edges snapshot record error name component reason) ∧
    ∀ (depth : Nat) (seat : Rehearsal.Seat) (autoOnly : Bool) (world after : Rehearsal.World)
        (error : LifecycleError),
      (world.orchestrator seat).isAttached = true → world.Undisturbed →
      world.conductStart (Rehearsal.World.takeStep depth) seat autoOnly = (.error error, after) →
        (after.orchestrator seat).isRunning = (world.orchestrator seat).isRunning ∧
        ∀ edges, (∀ exchange ∈ world.startRecord (Rehearsal.World.takeStep depth) seat autoOnly,
            exchange.KeepsDependencies edges) →
          ∃ name component reason, FailsAt edges (world.snapshot (world.viewOf seat))
            (world.startRecord (Rehearsal.World.takeStep depth) seat autoOnly) error name component
            reason := by
  refine ⟨fun _ _ _ _ _ _ yields fixed => failsAt_startPass yields fixed,
    fun depth seat autoOnly world after error attached undisturbed failed => ?_⟩
  have kept := (Rehearsal.World.course_flags depth).conduct (world.viewOf seat)
    (startPass (world.snapshot (world.viewOf seat)) (world.orchestrator seat).timeout autoOnly) world
  rw [Rehearsal.World.conductStart_error attached failed] at kept
  exact ⟨(kept.2 undisturbed seat attached).2, fun edges fixed =>
    failsAt_startPass (Rehearsal.World.yields_startRecord attached failed) fixed⟩

/-- A site that does not start, on a database that does, and a front that depends on the site. -/
def brokenSite : Rehearsal.World :=
  { ({ actors := [{ id := "site", kind := .phased, startScript := { ending := .fail } },
        { id := "database", kind := .plain }, { id := "front", kind := .plain }]
       roles := [⟨"front", "front"⟩, ⟨"site", "site"⟩, ⟨"database", "database"⟩]
       edges := [("site", "database"), ("front", "site")] } : Rehearsal.SetUp).world with
    setUp := { isAttached := true, isRunning := true } }

def frontDependencies (name : String) : List String :=
  if name = "front" then ["site"] else if name = "site" then ["database"] else []

theorem broken_site_starts_only_database :
    ∃ after, brokenSite.conductStart (Rehearsal.World.takeStep 10) .setUp false =
        (.error (.startFailed "site" "boom"), after) ∧
      (after.orchestrator .setUp).isRunning = true ∧
      startedIn (brokenSite.startRecord (Rehearsal.World.takeStep 10) .setUp false) =
        [⟨"database", .plain⟩] ∧
      "front" ∉ (turnsIn (brokenSite.startRecord (Rehearsal.World.takeStep 10) .setUp false)).map
        (·.name) := by
  obtain ⟨after, failed⟩ : ∃ after, brokenSite.conductStart (Rehearsal.World.takeStep 10) .setUp false =
      (.error (.startFailed "site" "boom"), after) :=
    ⟨_, Prod.ext (by cbv) rfl⟩
  have undisturbed : brokenSite.Undisturbed := by
    have none : brokenSite.ownSteps = [] := by cbv
    rw [Rehearsal.World.Undisturbed, none]
    exact fun step there => absurd there List.not_mem_nil
  have answers : (brokenSite.startRecord (Rehearsal.World.takeStep 10) .setUp false).all
      (Exchange.tellsDependencies frontDependencies) = true := by cbv
  have fixed : ∀ exchange ∈ brokenSite.startRecord (Rehearsal.World.takeStep 10) .setUp false,
      exchange.KeepsDependencies frontDependencies :=
    fun exchange there => Exchange.tellsDependencies_iff.mp (List.all_eq_true.mp answers exchange there)
  obtain ⟨-, orchestrated⟩ := failed_start_takes_nothing_back
  obtain ⟨running, account⟩ :=
    orchestrated 10 .setUp false brokenSite after _ rfl undisturbed failed
  obtain ⟨name, component, reason, fails⟩ := account frontDependencies fixed
  obtain ⟨rfl, rfl⟩ := LifecycleError.startFailed.inj fails.error
  have straight : ∀ name, ¬ OnCircle frontDependencies
      ((brokenSite.snapshot (brokenSite.viewOf .setUp)).map (·.name)) name := by
    refine not_onCircle_of_rank
      (fun name => if name = "front" then 2 else if name = "site" then 1 else 0)
      fun first second edge => ?_
    have listed := edge.2.2
    unfold frontDependencies at listed
    split at listed
    · rename_i front
      rw [List.mem_singleton.mp listed, front]
      decide
    · split at listed
      · rename_i site
        rw [List.mem_singleton.mp listed, site]
        decide
      · exact absurd listed List.not_mem_nil
  refine ⟨after, failed, running, by cbv, fails.dependents "front" (straight "front") ?_⟩
  exact .single ⟨by decide, by decide, by decide⟩

end PhasedLifecycle
