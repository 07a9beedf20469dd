/-
This file says which components a start pass starts, if it ends well and starts affect no other
component: just those listed that do not run and may be started, each once. Nothing else is started, and
no component keeps another from being started: not one that runs, not one that is passed over because it
does not start by itself, and no circle, however the registry answers.
-/

import PhasedLifecycle.Proofs.Retries
import PhasedLifecycle.Proofs.StartStretches
import PhasedLifecycle.Proofs.WellBehavedPasses

namespace PhasedLifecycle

open Pass

/-! ### Only components that may be started -/

theorem Component.IsTaken.isMeant {auto : Component → Bool} {autoOnly : Bool}
    {record : List Exchange} {component : Component} (taken : component.IsTaken autoOnly record)
    (autos : ∀ exchange ∈ record, exchange.KeepsAutos auto) : component.IsMeant auto autoOnly := by
  intro automatic smart
  obtain ⟨meanwhile, instant, there⟩ := taken automatic smart
  exact (autos _ there).symm

/-! ### Exactly what is due -/

/-- Where components tell the truth and starts alone change them, one that was not called yet runs if it
ran at first, and only then. -/
theorem TellsFlags.keepsState {running : Component → Bool} {record : List Exchange}
    (tells : TellsFlags running record) : KeepsState running record := by
  have uncalled : ∀ (component : Component) (calls : List Call) (flags : Component → Bool),
      component ∉ calls.map Call.component → calls.foldl Call.flags flags component = flags component := by
    intro component calls
    induction calls with
    | nil => exact fun _ _ => rfl
    | cons call calls inductionHypothesis =>
      intro flags absent
      rw [List.map_cons, List.mem_cons, not_or] at absent
      rw [List.foldl_cons, inductionHypothesis _ absent.2]
      cases call with
      | start other reason => exact Function.update_of_ne absent.1 _ _
      | stop other reason => rfl
      | stopAsync other signal reason => rfl
  rintro before component ran meanwhile instant after rfl absent
  have told : ran = flagsAfter running before component := (tellsFlags_append.mp tells).2.1
  exact told.trans (uncalled component _ _ absent)

/-- What is answered as it always is. -/
theorem Exchange.Agrees.keeps {fixed : FixedAnswers} {exchange : Exchange}
    (agrees : exchange.Agrees fixed) :
    exchange.KeepsDependencies fixed.dependencies ∧ exchange.KeepsDependents fixed.dependents ∧
      exchange.KeepsPhases fixed.phase ∧ exchange.KeepsAutos fixed.auto := by
  obtain ⟨request, answer, meanwhile, instant⟩ := exchange
  cases request with
  | dependencies name => exact ⟨agrees _ rfl, trivial, trivial, trivial⟩
  | dependents name => exact ⟨trivial, agrees _ rfl, trivial, trivial⟩
  | phase component => exact ⟨trivial, trivial, agrees _ rfl, trivial⟩
  | isAutoStartup component => exact ⟨trivial, trivial, trivial, agrees _ rfl⟩
  | _ => exact ⟨trivial, trivial, trivial, trivial⟩

instance (auto : Component → Bool) (autoOnly : Bool) (component : Component) :
    Decidable (component.IsMeant auto autoOnly) :=
  inferInstanceAs (Decidable (autoOnly = true → component.capability = .smart → auto component = true))

/-- Where all calls are starts that succeed, they are the starts of the components called to start. -/
theorem callsIn_eq_of_started {record : List Exchange}
    (started : ∀ call ∈ callsIn record, ∃ component, call = .start component none) :
    callsIn record = (startsIn record).map (Call.start · none) := by
  have starts : (callsIn record).filter Call.isStart = callsIn record := by
    refine List.filter_eq_self.mpr fun call called => ?_
    obtain ⟨component, rfl⟩ := started call called
    rfl
  rw [startsIn, starts, List.map_map]
  refine (List.map_id' _).symm.trans (List.map_congr_left fun call called => ?_)
  obtain ⟨component, rfl⟩ := started call called
  rfl

/-- Where each turn has at most one call, which starts its component, the components called to start
are in the order of the turns. -/
theorem startsIn_sublist {record : List Exchange} (calls : callsIn record = (turnsIn record).flatMap (·.calls))
    (single : ∀ turn ∈ turnsIn record,
      turn.calls = [] ∨ ∃ reason, turn.calls = [.start turn.component reason]) :
    (startsIn record).Sublist ((turnsIn record).map (·.component)) := by
  have each : ∀ turns : List Turn,
      (∀ turn ∈ turns, turn.calls = [] ∨ ∃ reason, turn.calls = [.start turn.component reason]) →
        (((turns.flatMap (·.calls)).filter Call.isStart).map Call.component).Sublist
          (turns.map (·.component)) := by
    intro turns
    induction turns with
    | nil => exact fun _ => List.Sublist.refl _
    | cons turn turns inductionHypothesis =>
      intro single
      have others := inductionHypothesis fun other there => single other (List.mem_cons_of_mem _ there)
      rw [List.flatMap_cons]
      rcases single turn List.mem_cons_self with none | ⟨reason, one⟩
      · rw [none]
        exact others.cons _
      · rw [one]
        exact others.cons_cons _
  rw [startsIn, calls]
  exact each _ single

/-- In a turn with a call the component did not run. -/
theorem StartTurn.ran_of_mem_calls {autoOnly : Bool} {turn : Turn} {failure : Option LifecycleError}
    {call : Call} (kind : StartTurn autoOnly turn failure) (called : call ∈ turn.calls) :
    turn.ran = false := by
  cases kind with
  | running name component => exact absurd called List.not_mem_nil
  | declining name component automatic => rfl
  | starting name component auto => rfl
  | failing name component auto reason => rfl

/-- A start pass that ends well starts exactly what is due.

Each listed name has a component of its own, and a component that was not called yet runs if it ran
before the pass, and only then. The registry may answer anything, and differently each time. Then all
calls of the pass are starts that succeed, and the components started are the listed ones that did not
run and may be started, each once: all that did not run, or, if the pass starts only what starts by
itself, all of these that are not smart or say that they start by themselves. A smart one that says
otherwise is not started though others depend on it, and what it depends on is started all the same. -/
theorem startPass_starts_exactly_what_is_due {running auto : Component → Bool} {autoOnly : Bool}
    {snapshot : List Member} {timeout : Nat} {record : List Exchange}
    (names : (snapshot.map (·.name)).Nodup) (separate : (snapshot.map (·.component)).Nodup)
    (yields : (startPass snapshot timeout autoOnly).Yields record (.ok ()))
    (keeps : KeepsState running record) (autos : ∀ exchange ∈ record, exchange.KeepsAutos auto) :
    callsIn record = (startsIn record).map (Call.start · none) ∧
      (startsIn record).Perm ((snapshot.map (·.component)).filter fun component =>
        running component = false ∧ component.IsMeant auto autoOnly) := by
  obtain ⟨_, _, _, _, _, -, -, span, strays, -⟩ := span_startPass yields
  obtain ⟨keepsTo, single, -⟩ := keepsTo_startPass yields
  have components := keepsTo.nodup_components separate
  have ran := keeps.ran_of_mem strays components
  have taken : CallsTaken autoOnly record none := carried_callsTaken.startPass_ok yields
  have calls := callsIn_eq_of_started fun call called => by
    obtain ⟨component, reason, its, -, fine⟩ := taken call called
    exact ⟨component, fine rfl ▸ its⟩
  have mem : ∀ component, component ∈ startsIn record ↔ Call.start component none ∈ callsIn record := by
    intro component
    rw [calls, List.mem_map_of_injective fun first second same => (Call.start.inj same).1]
  refine ⟨calls, (List.perm_ext_iff_of_nodup (components.sublist (startsIn_sublist keepsTo.calls single))
    (separate.filter _)).mpr fun component => ?_⟩
  rw [mem, List.mem_filter, decide_eq_true_iff]
  constructor
  · intro called
    obtain ⟨_, _, same, its, -⟩ := taken _ called
    obtain rfl := (Call.start.inj same).1
    rw [keepsTo.calls] at called
    obtain ⟨turn, there, inTurn⟩ := List.mem_flatMap.mp called
    obtain rfl := component_of_mem_turnsIn there inTurn
    obtain ⟨failure, kind⟩ := span.kinds turn there
    have listed : turn.member ∈ snapshot :=
      List.mem_reverse.mp (List.mem_of_find?_eq_some (keepsTo.last turn there))
    refine ⟨List.mem_map.mpr ⟨_, listed, rfl⟩, ?_, its.isMeant autos⟩
    exact (ran turn there).symm.trans (kind.ran_of_mem_calls inTurn)
  · rintro ⟨listed, stopped, mayStart⟩
    obtain ⟨member, there, rfl⟩ := List.mem_map.mp listed
    obtain ⟨turn, inRecord, its, serves⟩ := exists_turn_of_isMeant names yields autos there mayStart
    exact serves ((ran turn inRecord).trans (its ▸ stopped))

/-- A server that depends on a console and on a stranger, the console on a database, and the database on a
cache, which depends on the server. -/
def consoleDependencies : String → List String
  | "server" => ["console", "stranger"]
  | "console" => ["database"]
  | "database" => ["cache"]
  | "cache" => ["server"]
  | _ => []

/-- The console does not start by itself. -/
def consoleAnswers : FixedAnswers where
  dependencies := consoleDependencies
  dependents := fun _ => []
  phase := fun component => if component.key = "server" then -1 else lastPhase
  auto := fun component => component.key ≠ "console"

def consoleSnapshot : List Member :=
  [⟨"cache", ⟨"cache", .smart⟩⟩, ⟨"console", ⟨"console", .smart⟩⟩, ⟨"database", ⟨"database", .plain⟩⟩,
    ⟨"server", ⟨"server", .phased⟩⟩]

/-- The record of a start pass that leaves out what does not start by itself, while the cache runs. -/
def consoleRecord : List Exchange :=
  consoleAnswers.startRecord (fun _ => none) consoleSnapshot true (·.key = "cache")

theorem console_is_passed_over_between_server_and_database :
    callsIn consoleRecord = (startsIn consoleRecord).map (Call.start · none) ∧
      (startsIn consoleRecord).Perm [⟨"database", .plain⟩, ⟨"server", .phased⟩] := by
  have attempt := consoleAnswers.startAttempt_startRecord (fun _ => none) consoleSnapshot true
    (·.key = "cache")
  have fine : consoleAnswers.startOutcome (fun _ => none) consoleSnapshot true (·.key = "cache") =
      .ok () := by decide +kernel
  rw [fine] at attempt
  obtain ⟨timeout, yields⟩ := attempt.yields
  exact startPass_starts_exactly_what_is_due (by decide) (by decide) yields attempt.tells.keepsState
    fun exchange there => (attempt.agrees exchange there).keeps.2.2.2

end PhasedLifecycle
