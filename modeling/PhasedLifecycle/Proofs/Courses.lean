/-
This file says what can happen in the world of a rehearsal besides what happens to orchestrators and
containers, and how to follow a relation between worlds through a pass. Time passes, signals are
resolved, registries and actors change, but no actor is given other steps to take, and whatever else
happens during a pass happens through the steps that actors take when they are called.

A relation that holds along everything else, and along each step that an actor takes, is the course that
any pass takes.
-/

import Mathlib.Data.List.Basic
import PhasedLifecycle.Rehearsal.Play

namespace PhasedLifecycle.Rehearsal

/-! ### Asides -/

/-- The steps that the actor takes when it is called. -/
def Actor.ownSteps (actor : Actor) : List Step :=
  actor.startHooks ++ actor.stopHooks ++ actor.stopAsyncHooks

theorem Actor.hooks_subset (actor : Actor) (method : Method) :
    actor.hooks method ⊆ actor.ownSteps := by
  intro step there
  unfold ownSteps
  cases method with
  | start => exact List.mem_append_left _ (List.mem_append_left _ there)
  | stop => exact List.mem_append_left _ (List.mem_append_right _ there)
  | stopAsync => exact List.mem_append_right _ there

/-- Whether the step is a request to an orchestrator or a container that changes it, or builds one. -/
def Step.concernsOffices : Step → Bool
  | .start | .refreshPass | .stop | .closePass | .attach | .setTimeout _ | .build _ | .refresh _
  | .close _ => true
  | _ => false

namespace World

theorem orchestrator_housing (world : World) (number : Nat) :
    world.orchestrator (.housing number) =
      ((world.housings[number]?).map (·.orchestrator)).getD {} := rfl

/-- The steps that actors take when they are called. -/
def ownSteps (world : World) : List Step :=
  world.actors.flatMap Actor.ownSteps

/-- What happens leaves orchestrators and containers alone, and gives no actor other steps to take. -/
structure Aside (before after : World) : Prop where
  ownSteps : after.ownSteps = before.ownSteps
  setUp : after.setUp = before.setUp
  housings : after.housings = before.housings
  history : after.history = before.history

namespace Aside

variable {before middle after : World}

theorem refl (world : World) : Aside world world := ⟨rfl, rfl, rfl, rfl⟩

theorem trans (first : Aside before middle) (second : Aside middle after) : Aside before after :=
  ⟨second.ownSteps.trans first.ownSteps, second.setUp.trans first.setUp,
    second.housings.trans first.housings, second.history.trans first.history⟩

theorem changeActor {world : World} {id : String} {change : Actor → Actor}
    (keeps : ∀ actor, (change actor).ownSteps = actor.ownSteps) :
    Aside world (world.changeActor id change) := by
  refine ⟨?_, rfl, rfl, rfl⟩
  show (world.actors.map fun actor => if actor.id == id then change actor else actor).flatMap
    Actor.ownSteps = world.actors.flatMap Actor.ownSteps
  rw [List.flatMap_map]
  refine List.flatMap_congr fun actor _ => ?_
  split
  · exact keeps actor
  · rfl

theorem setRunning (world : World) (id : String) (running : Bool) :
    Aside world (world.setRunning id running) :=
  changeActor fun _ => rfl

theorem report (world : World) (notices : List Notice) : Aside world (world.report notices) :=
  ⟨rfl, rfl, rfl, rfl⟩

theorem note (world : World) (event : Event) : Aside world (world.note event) := ⟨rfl, rfl, rfl, rfl⟩

theorem resolve (world : World) (signal : Signal) (ending : Ending) :
    Aside world (world.resolve signal ending) := ⟨rfl, rfl, rfl, rfl⟩

theorem perform (world : World) (due : Nat) (task : Task) (agenda : Agenda Task) :
    Aside world ({ world with agenda }.perform due task) := by
  have stopped := setRunning { world with agenda, clock := due } task.actor false
  exact ⟨stopped.ownSteps, stopped.setUp, stopped.housings, stopped.history⟩

theorem performUntil (instant turns : Nat) (world : World) :
    Aside world (World.performUntil instant turns world) := by
  induction turns generalizing world with
  | zero => exact refl world
  | succ turns inductionHypothesis =>
    unfold World.performUntil
    split
    · exact refl world
    · exact (perform world _ _ _).trans (inductionHypothesis _)

theorem sleep (world : World) (duration : Nat) : Aside world (world.sleep duration) := by
  unfold World.sleep
  split
  · exact refl world
  · exact (performUntil _ _ world).trans ⟨rfl, rfl, rfl, rfl⟩

theorem takeFirstMail {world : World} {barrier : Nat} {arrival : Arrival}
    (taken : world.takeFirstMail barrier = some (arrival, after)) : Aside world after := by
  obtain ⟨resolution, -, same⟩ := Option.map_eq_some_iff.mp taken
  cases same
  exact ⟨rfl, rfl, rfl, rfl⟩

theorem awaitMail (barrier deadline turns : Nat) (world : World) :
    Aside world (World.awaitMail barrier deadline turns world).2 := by
  induction turns generalizing world with
  | zero =>
    unfold World.awaitMail
    split
    · exact takeFirstMail ‹_›
    · split
      · exact refl world
      · exact ⟨rfl, rfl, rfl, rfl⟩
  | succ turns inductionHypothesis =>
    unfold World.awaitMail
    split
    · exact takeFirstMail ‹_›
    · split
      · exact refl world
      · split
        · rename_i same _
          cases same
          exact (perform world _ _ _).trans (inductionHypothesis _)
        · exact ⟨rfl, rfl, rfl, rfl⟩

theorem endCall (script : CallScript) (number : Nat) (id : String) (running : Bool) (world : World) :
    Aside world (world.endCall script number id running).2 := by
  have slept := sleep world script.duration
  unfold World.endCall
  dsimp only
  split
  · exact slept
  · exact slept
  · exact slept.trans (setRunning _ _ _)
  · exact slept.trans (setRunning _ _ _)

theorem register (role : Role) (world : World) : Aside world (world.register role).2 := by
  unfold World.register
  dsimp only
  split <;> exact ⟨rfl, rfl, rfl, rfl⟩

theorem unregister (name : String) (world : World) : Aside world (world.unregister name).2 := by
  unfold World.unregister
  split <;> exact ⟨rfl, rfl, rfl, rfl⟩

theorem depend (dependent dependency : String) (world : World) :
    Aside world (world.depend dependent dependency) := by
  unfold World.depend
  dsimp only
  split <;> exact ⟨rfl, rfl, rfl, rfl⟩

theorem validate (world : World) : Aside world world.validate.2 := by
  unfold World.validate
  split <;> exact ⟨rfl, rfl, rfl, rfl⟩

theorem release (id : String) (drop : Bool) (world : World) :
    Aside world (world.release id drop).2 := by
  have resolving : ∀ (held : List Signal) (ending : Ending) (world : World),
      Aside world (held.foldl (fun world signal => world.resolve signal ending) world) := by
    intro held ending
    induction held with
    | nil => exact refl
    | cons signal held inductionHypothesis =>
      exact fun world => (resolve world signal ending).trans (inductionHypothesis _)
  have emptied : Aside world
      (world.changeActor id fun actor => { actor with held := [], running := false }) :=
    changeActor fun _ => rfl
  exact emptied.trans (resolving _ _ _)

end Aside

/-! ### Results -/

theorem snd_callResult (called : Option String × World) : (callResult called).2 = called.2 := by
  obtain ⟨reason, world⟩ := called
  cases reason <;> rfl

theorem snd_startResult (outcome : Except LifecycleError Unit × World) :
    (startResult outcome).2 = outcome.2 := by
  obtain ⟨outcome, world⟩ := outcome
  cases outcome <;> rfl

theorem snd_stopResult (outcome : Except LifecycleError StopReport × World) :
    (stopResult outcome).2 = outcome.2 := by
  obtain ⟨outcome, world⟩ := outcome
  cases outcome <;> rfl

/-- What is done with a container is done with one that is there. -/
theorem withHousing_cases (world : World) (container : Option Nat)
    (action : Nat → Housing → Result × World) :
    (world.withHousing container action).2 = world ∨
      ∃ number housing, world.housings[number]? = some housing ∧
        (world.withHousing container action).2 = (action number housing).2 := by
  unfold withHousing
  dsimp only
  split
  · exact Or.inr ⟨_, _, ‹_›, rfl⟩
  · exact Or.inl rfl

/-! ### Courses -/

/-- A relation between worlds that holds along everything that happens aside, and along each step that an
actor takes when it is called. -/
structure Course (relation : World → World → Prop) (take : Taker) : Prop where
  trans : ∀ {before middle after}, relation before middle → relation middle after →
    relation before after
  aside : ∀ {before after}, Aside before after → relation before after
  ownSteps : ∀ {before after}, relation before after → after.ownSteps = before.ownSteps
  own : ∀ {world step}, step ∈ world.ownSteps → relation world (take step world).2

namespace Course

variable {relation : World → World → Prop} {take : Taker}

theorem refl (course : Course relation take) (world : World) : relation world world :=
  course.aside (Aside.refl world)

/-- The beginning of a call keeps to the course. -/
theorem beginCall (course : Course relation take) (method : Method) {actor : Actor} {world : World}
    (there : actor ∈ world.actors) : relation world (beginCall take method actor world).2 := by
  have counted : Aside world ((world.changeActor actor.id (·.count method)).note
      (.called world.clock method actor.id)) :=
    (Aside.changeActor fun other => by cases method <;> rfl).trans (Aside.note _ _)
  have taking : ∀ (steps : List Step) (world : World), steps ⊆ world.ownSteps →
      relation world (steps.foldl (fun world step =>
        (take step world).2.note
          (.hooked (take step world).2.clock actor.id step (take step world).1)) world) := by
    intro steps
    induction steps with
    | nil => exact fun world _ => course.refl world
    | cons step steps inductionHypothesis =>
      intro world inside
      have first : relation world ((take step world).2.note
          (.hooked (take step world).2.clock actor.id step (take step world).1)) :=
        course.trans (course.own (inside List.mem_cons_self)) (course.aside (Aside.note _ _))
      refine course.trans first (inductionHypothesis _ fun other later => ?_)
      rw [course.ownSteps first]
      exact inside (List.mem_cons_of_mem _ later)
  unfold World.beginCall
  dsimp only
  split
  · refine course.trans (course.aside counted) (taking _ _ fun step hooked => ?_)
    rw [counted.ownSteps]
    exact List.mem_flatMap.mpr ⟨actor, there, actor.hooks_subset method hooked⟩
  · exact course.aside counted

theorem callStart (course : Course relation take) (id : String) (world : World) :
    relation world (callStart take id world).2 := by
  unfold World.callStart
  split
  · exact course.refl world
  · rename_i actor found
    exact course.trans (course.aside (Aside.report world actor.startScript.notices))
      (course.trans (course.beginCall .start (List.mem_of_find?_eq_some found))
        (course.aside (Aside.endCall _ _ _ _ _)))

theorem callStop (course : Course relation take) (id : String) (world : World) :
    relation world (callStop take id world).2 := by
  unfold World.callStop
  split
  · exact course.refl world
  · rename_i actor found
    exact course.trans (course.aside (Aside.report world actor.stopScript.notices))
      (course.trans (course.beginCall .stop (List.mem_of_find?_eq_some found))
        (course.aside (Aside.endCall _ _ _ _ _)))

theorem stopThenComplete (course : Course relation take) (id : String) (signal : Signal)
    (world : World) : relation world (stopThenComplete take id signal world).2 := by
  have stopped := course.callStop id world
  unfold World.stopThenComplete
  split
  · rename_i stop
    rw [stop] at stopped
    exact course.trans stopped (course.aside (Aside.resolve _ _ _))
  · rename_i stop
    rw [stop] at stopped
    exact course.trans stopped (course.aside (Aside.resolve _ _ _))

theorem endStopAsync (course : Course relation take) (script : AsyncScript) (id : String)
    (signal : Signal) (world : World) :
    relation world (endStopAsync take script id signal world).2 := by
  have slept := Aside.sleep world script.duration
  unfold World.endStopAsync
  dsimp only
  split
  · exact course.aside (slept.trans ((Aside.setRunning _ _ _).trans (Aside.resolve _ _ _)))
  · exact course.trans (course.aside slept) (course.stopThenComplete id signal _)
  · exact course.aside (slept.trans ⟨rfl, rfl, rfl, rfl⟩)
  · exact course.aside (slept.trans (Aside.changeActor fun _ => rfl))
  · exact course.aside (slept.trans (Aside.resolve _ _ _))
  · exact course.aside (slept.trans ((Aside.setRunning _ _ _).trans (Aside.resolve _ _ _)))
  · exact course.aside (slept.trans (Aside.resolve _ _ _))

theorem callStopAsync (course : Course relation take) (id : String) (signal : Signal)
    (world : World) : relation world (callStopAsync take id signal world).2 := by
  unfold World.callStopAsync
  split
  · exact course.aside (Aside.resolve _ _ _)
  · rename_i actor found
    split
    · exact course.trans (course.aside (Aside.report world actor.stopAsyncScript.notices))
        (course.trans (course.beginCall .stopAsync (List.mem_of_find?_eq_some found))
          (course.endStopAsync _ _ _ _))
    all_goals exact course.stopThenComplete _ _ _

/-- Whatever a pass asks, the answer keeps to the course. -/
theorem answer (course : Course relation take) (view : View) (request : Request) (world : World) :
    relation world (answer take view request world).2 := by
  cases request with
  | start component => exact course.callStart _ _
  | stop component => exact course.callStop _ _
  | stopAsync component signal => exact course.callStopAsync _ _ _
  | barrierMark => exact course.aside ⟨rfl, rfl, rfl, rfl⟩
  | arrivals barrier => exact course.aside ⟨rfl, rfl, rfl, rfl⟩
  | nextArrival barrier deadline => exact course.aside (Aside.awaitMail _ _ _ _)
  | note notice => exact course.aside (Aside.report _ _)
  | _ => exact course.refl world

/-- Any pass keeps to the course. -/
theorem conduct {Value : Type} (course : Course relation take) (view : View) (pass : Pass Value)
    (world : World) : relation world (world.conduct take view pass).2 := by
  unfold World.conduct
  induction pass generalizing world with
  | done value => exact course.refl world
  | asking request next inductionHypothesis =>
    exact course.trans (course.answer view request world) (inductionHypothesis _ _)

/-! ### Passes of a seat -/

/-- A start pass of a seat keeps to the course if it stays there when the seat notes that it runs. -/
theorem conductStart (course : Course relation take) {seat : Seat}
    (flag : ∀ world, relation world (world.changeOrchestrator seat fun orchestrator =>
      { orchestrator with isRunning := true }))
    (autoOnly : Bool) (world : World) : relation world (conductStart take seat autoOnly world).2 := by
  have passed := course.conduct (world.viewOf seat) (startPass (world.snapshot (world.viewOf seat))
    (world.orchestrator seat).timeout autoOnly) world
  unfold World.conductStart
  dsimp only
  split
  · exact course.refl world
  · split
    · rename_i pass
      rw [pass] at passed
      exact course.trans passed (flag _)
    · rename_i pass
      rw [pass] at passed
      exact passed

/-- A stop pass of a seat keeps to the course if it stays there when the seat notes that it does not
run. -/
theorem conductStop (course : Course relation take) {seat : Seat}
    (flag : ∀ world, relation world (world.changeOrchestrator seat fun orchestrator =>
      { orchestrator with isRunning := false }))
    (world : World) : relation world (conductStop take seat world).2 := by
  unfold World.conductStop
  dsimp only
  split
  · exact course.refl world
  · exact course.trans (course.conduct _ _ _) (flag _)

theorem conductRefresh (course : Course relation take) {seat : Seat}
    (flag : ∀ world, relation world (world.changeOrchestrator seat fun orchestrator =>
      { orchestrator with isRunning := true }))
    (mark : ∀ world {milestone}, Milestone.status? milestone = none →
      relation world (world.mark seat milestone)) (world : World) :
    relation world (conductRefresh take seat world).2 :=
  course.trans (mark _ rfl) (course.trans (course.aside (Aside.report _ _))
    (course.trans (course.conductStart flag _ _) (mark _ rfl)))

theorem conductClose (course : Course relation take) {seat : Seat}
    (flag : ∀ world, relation world (world.changeOrchestrator seat fun orchestrator =>
      { orchestrator with isRunning := false }))
    (mark : ∀ world {milestone}, Milestone.status? milestone = none →
      relation world (world.mark seat milestone)) (world : World) :
    relation world (conductClose take seat world).2 :=
  course.trans (mark _ rfl) (course.trans (course.aside (Aside.report _ _))
    (course.trans (course.conductStop flag _) (mark _ rfl)))

/-! ### Operations of a container -/

/-- A refresh of a container keeps to the course if changes of its container and its orchestrator, and
the milestones of both, do. -/
theorem refresh (course : Course relation take) {number : Nat}
    (flag : ∀ world, relation world (world.changeOrchestrator (.housing number) fun orchestrator =>
      { orchestrator with isRunning := true }))
    (mark : ∀ world {milestone}, Milestone.status? milestone = none →
      relation world (world.mark (.housing number) milestone))
    (contain : ∀ world change, relation world (world.changeContainer number change))
    (housing : Housing) (world : World) : relation world (refresh take number housing world).2 := by
  unfold World.refresh
  split
  · exact course.refl world
  · rename_i container _
    have began := course.trans (contain world fun _ => container)
      (course.aside (Aside.report _ [.refreshing]))
    have passed := course.trans began (course.conductRefresh flag mark _)
    have noted := fun change => course.trans passed (contain _ change)
    dsimp only
    split
    · exact course.trans (noted _) (course.aside (Aside.report _ _))
    · exact course.trans (noted _) (course.aside (Aside.report _ _))

/-- A close of a container keeps to the course if changes of its container and its orchestrator, and the
milestones of both, do. -/
theorem close (course : Course relation take) {number : Nat}
    (flag : ∀ world, relation world (world.changeOrchestrator (.housing number) fun orchestrator =>
      { orchestrator with isRunning := false }))
    (mark : ∀ world {milestone}, Milestone.status? milestone = none →
      relation world (world.mark (.housing number) milestone))
    (contain : ∀ world change, relation world (world.changeContainer number change))
    (housing : Housing) (world : World) : relation world (close take number housing world).2 := by
  unfold World.close
  split
  · exact course.refl world
  · rename_i container _
    have began := course.trans (contain world fun _ => container)
      (course.aside (Aside.report _ [.closing]))
    have passed := course.trans began (course.conductClose flag mark _)
    have noted := fun change => course.trans passed (contain _ change)
    dsimp only
    split
    · exact course.trans (noted _) (course.aside (Aside.report _ _))
    · exact course.trans (noted _) (course.aside (Aside.report _ _))

theorem withHousing (course : Course relation take) {world : World} {container : Option Nat}
    {action : Nat → Housing → Result × World}
    (each : ∀ number housing, relation world (action number housing).2) :
    relation world (world.withHousing container action).2 := by
  rcases withHousing_cases world container action with same | ⟨number, housing, -, same⟩
  · rw [same]
    exact course.refl world
  · rw [same]
    exact each number housing

/-- Whatever concerns neither orchestrators nor containers keeps to the course. -/
theorem takeWith (course : Course relation take) {step : Step} (other : step.concernsOffices = false)
    (world : World) : relation world (takeWith take step world).2 := by
  cases step with
  | register role => exact course.aside (Aside.register role world)
  | unregister name => exact course.aside (Aside.unregister name world)
  | depend dependent dependency => exact course.aside (Aside.depend dependent dependency world)
  | registerDependent name dependent => exact course.aside (Aside.depend dependent name world)
  | validate => exact course.aside (Aside.validate world)
  | set id running phase auto => exact course.aside (Aside.changeActor fun _ => rfl)
  | release id drop => exact course.aside (Aside.release id drop world)
  | call id method =>
    cases method with
    | start => exact snd_callResult _ ▸ course.callStart id world
    | stop => exact snd_callResult _ ▸ course.callStop id world
    | stopAsync => exact course.refl world
  | sleep duration => exact course.aside (Aside.sleep world duration)
  | start => cases other
  | refreshPass => cases other
  | stop => cases other
  | closePass => cases other
  | attach => cases other
  | setTimeout timeout => cases other
  | build script => cases other
  | refresh container => cases other
  | close container => cases other
  | newGroup phase timeout autoOnly => exact course.aside ⟨rfl, rfl, rfl, rfl⟩
  | addMember role => exact course.aside ⟨rfl, rfl, rfl, rfl⟩
  | workingSet roles => exact course.aside ⟨rfl, rfl, rfl, rfl⟩
  | startGroup => exact course.trans (course.conduct _ _ _) (course.aside ⟨rfl, rfl, rfl, rfl⟩)
  | stopGroup => exact course.trans (course.conduct _ _ _) (course.aside ⟨rfl, rfl, rfl, rfl⟩)
  | startName name autoOnly =>
    exact course.trans (course.conduct _ _ _) (course.aside ⟨rfl, rfl, rfl, rfl⟩)
  | stopName name members count patience =>
    have passed := course.conduct world.view (stopNamePass world.bench name members count patience)
      world
    exact course.trans passed (course.aside ⟨rfl, rfl, rfl, rfl⟩)
  | newReport => exact course.aside ⟨rfl, rfl, rfl, rfl⟩
  | status => exact course.withHousing fun _ _ => course.refl world
  | metrics => exact course.withHousing fun _ _ => course.refl world
  | lastReport => exact course.withHousing fun _ _ => course.refl world
  | settings => exact course.withHousing fun _ _ => course.refl world
  | _ => exact course.refl world

end Course

/-! ### Builds -/

theorem ownSteps_build (script : BuildScript) (world : World) :
    (world.build script).2.ownSteps = world.ownSteps := by
  unfold World.build
  dsimp only
  split
  · split <;> rfl
  · split <;> rfl

theorem setUp_build (script : BuildScript) (world : World) :
    (world.build script).2.setUp = world.setUp := by
  unfold World.build
  dsimp only
  split
  · split <;> rfl
  · split <;> rfl

/-- A build that ends well adds a new container with an attached orchestrator, and another adds
none. -/
theorem housings_build (script : BuildScript) (world : World) :
    ((world.build script).2.housings = world.housings ∧ (world.build script).1 ≠ .done) ∨
      ∃ housing : Housing, housing.orchestrator.isAttached = true ∧
        (∃ settings registered, housing.container = .create settings registered) ∧
        (world.build script).2.housings = world.housings ++ [housing] := by
  unfold World.build
  dsimp only
  split
  · refine Or.inl ⟨?_, nofun⟩
    split <;> rfl
  · rename_i container outcome
    obtain ⟨settings, registered, created⟩ := Blueprint.container_of_build outcome
    have attached : ({ isAttached := true : Orchestrator }.setTimeout
        container.settings.timeout).isAttached = true := rfl
    split <;> exact Or.inr ⟨_, attached, ⟨settings, registered, created⟩, rfl⟩

/-! ### The steps of actors -/

theorem ownSteps_changeOrchestrator (world : World) (seat : Seat)
    (change : Orchestrator → Orchestrator) :
    (world.changeOrchestrator seat change).ownSteps = world.ownSteps := by
  cases seat <;> rfl

theorem ownSteps_changeContainer (world : World) (number : Nat) (change : Container → Container) :
    (world.changeContainer number change).ownSteps = world.ownSteps := by
  unfold changeContainer
  split <;> rfl

/-- No step gives actors other steps to take. -/
theorem ownSteps_takeStep (depth : Nat) (step : Step) (world : World) :
    (takeStep depth step world).2.ownSteps = world.ownSteps := by
  induction depth generalizing step world with
  | zero => rfl
  | succ depth inductionHypothesis =>
    have course : Course (fun before after => after.ownSteps = before.ownSteps) (takeStep depth) :=
      ⟨fun first second => second.trans first, Aside.ownSteps, id, fun _ => inductionHypothesis _ _⟩
    have flags := fun seat change world => ownSteps_changeOrchestrator world seat change
    have marks : ∀ (seat : Seat) (world : World) {milestone : Milestone}, milestone.status? = none →
        (world.mark seat milestone).ownSteps = world.ownSteps := fun _ _ _ _ => rfl
    cases other : step.concernsOffices with
    | false => exact course.takeWith other world
    | true =>
      cases step with
      | start => exact snd_startResult _ ▸ course.conductStart (flags _ _) _ _
      | refreshPass => exact snd_startResult _ ▸ course.conductRefresh (flags _ _) (marks _) _
      | stop => exact snd_stopResult _ ▸ course.conductStop (flags _ _) _
      | closePass => exact snd_stopResult _ ▸ course.conductClose (flags _ _) (marks _) _
      | attach => rfl
      | setTimeout timeout => rfl
      | build script => exact ownSteps_build script world
      | refresh container =>
        exact course.withHousing fun number housing => course.refresh (flags _ _) (marks _)
          (fun world change => ownSteps_changeContainer world number change) housing world
      | close container =>
        exact course.withHousing fun number housing => course.close (flags _ _) (marks _)
          (fun world change => ownSteps_changeContainer world number change) housing world
      | _ => cases other

end World

end PhasedLifecycle.Rehearsal
