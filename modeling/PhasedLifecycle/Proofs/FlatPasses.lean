/-
This file shows that groups make no difference to what a pass calls. A start pass calls components to
start as one traversal would that goes down from the wanted names in ascending order of their phases, with
the whole snapshot as its working set; a stop pass calls them to stop as one traversal from all names in
descending order. Sorting is stable, so within one phase the order of the snapshot counts.

The two programs ask different questions, so they cannot be compared run by run of questions. What they
have in common is the order of the turns, which the edges fix once the names to go down from are known,
and what each name finds when its turn comes. A start pass is besides cut short by the first failure, so
its calls are worked out from that order and from what the names find.
-/

import PhasedLifecycle.Proofs.DependentsFirst
import PhasedLifecycle.Proofs.ExactStarts
import PhasedLifecycle.Proofs.StableOrder

namespace PhasedLifecycle

open Pass Relation

/-! ### What turns tell -/

/-- What a pass does in the turn of a component: it finds out whether the component runs, and calls it. -/
inductive Word where
  | found (component : Component) (ran : Bool)
  | called (call : Call)

/-- What is told by an exchange. -/
def Exchange.word? : Exchange → Option Word
  | ⟨.isRunning component, ran, _, _⟩ => some (.found component ran)
  | exchange => exchange.call?.map .called

/-- What is told by a record. -/
def wordsIn (record : List Exchange) : List Word :=
  record.filterMap Exchange.word?

/-- What is told by a turn. -/
def Turn.words (turn : Turn) : List Word :=
  .found turn.component turn.ran :: turn.calls.map .called

theorem wordsIn_append (first last : List Exchange) :
    wordsIn (first ++ last) = wordsIn first ++ wordsIn last :=
  List.filterMap_append

theorem FixedAnswers.wordsIn_rest (fixed : FixedAnswers) (record : List Exchange) :
    wordsIn (fixed.rest record) = wordsIn record := by
  rw [wordsIn, rest, List.filterMap_filter, wordsIn]
  refine List.filterMap_congr fun exchange _ => ?_
  obtain ⟨request, answer, meanwhile, instant⟩ := exchange
  cases request <;> rfl

theorem wordsIn_of_isOutset {record : List Exchange}
    (outset : ∀ exchange ∈ record, exchange.request.isOutset) : wordsIn record = [] := by
  refine List.filterMap_eq_nil_iff.mpr fun exchange there => ?_
  have itself := outset exchange there
  obtain ⟨request, answer, meanwhile, instant⟩ := exchange
  cases request <;> first | rfl | exact itself.elim

namespace Docket

/-- What is told by all turns, in their order. -/
def words (docket : Docket) : List Word :=
  docket.turns.reverse.flatMap Turn.words

theorem words_noteCall {docket : Docket} {call : Call} (none : (docket.noteCall call).strays = []) :
    (docket.noteCall call).words = docket.words ++ [.called call] := by
  obtain ⟨turn, turns, latest, own⟩ := own_of_strays_noteCall none
  obtain ⟨entered, _, strays⟩ := docket
  subst latest
  rw [noteCall_own _ _ _ _ _ own]
  simp [words, Turn.words]

/-- Reading an exchange, a docket that has gone down from some name notes all that is told. -/
theorem words_read {docket : Docket} {exchange : Exchange} (deep : docket.entered ≠ [])
    (none : (docket.read exchange).strays = []) :
    (docket.read exchange).words = docket.words ++ exchange.word?.toList := by
  obtain ⟨request, answer, meanwhile, instant⟩ := exchange
  cases request with
  | isRunning component =>
    obtain ⟨entered, turns, strays⟩ := docket
    cases entered with
    | nil => exact absurd rfl deep
    | cons name entered => simp [read, beginTurn, words, Turn.words, Exchange.word?]
  | isAutoStartup component =>
    obtain ⟨entered, turns, strays⟩ := docket
    cases turns <;> simp [read, noteAuto, words, Turn.words, Exchange.word?, Exchange.call?]
  | start component => exact words_noteCall none
  | stop component => exact words_noteCall none
  | stopAsync component signal => exact words_noteCall none
  | _ => exact (List.append_nil _).symm

theorem length_entered_read (docket : Docket) (exchange : Exchange) :
    docket.entered.length ≤ (docket.read exchange).entered.length + 1 := by
  have noted : ∀ call, (docket.noteCall call).entered = docket.entered := by
    intro call
    rcases docket.noteCall_cases call with ⟨_, _, -, -, noted⟩ | noted <;> rw [noted]
  obtain ⟨request, answer, meanwhile, instant⟩ := exchange
  cases request with
  | dependencies name => exact Nat.le_add_right_of_le (Nat.le_succ _)
  | dependents name => exact Nat.le_add_right_of_le (Nat.le_succ _)
  | isRunning component =>
    obtain ⟨entered, turns, strays⟩ := docket
    cases entered with
    | nil => exact Nat.zero_le _
    | cons name entered => exact Nat.le_refl _
  | start component => exact noted _ ▸ Nat.le_succ _
  | stop component => exact noted _ ▸ Nat.le_succ _
  | stopAsync component signal => exact noted _ ▸ Nat.le_succ _
  | _ => exact Nat.le_succ _

/-- A docket that has gone down deep enough notes all that is told by a record. -/
theorem words_readAll {docket : Docket} {record : List Exchange}
    (deep : record.length ≤ docket.entered.length) (none : (docket.readAll record).strays = []) :
    (docket.readAll record).words = docket.words ++ wordsIn record := by
  induction record generalizing docket with
  | nil => exact (List.append_nil _).symm
  | cons exchange record inductionHypothesis =>
    have first : (docket.read exchange).strays = [] := by
      have before := ((docket.read exchange).precedes_readAll record).strays
      rw [readAll_cons] at none
      rw [none] at before
      exact List.prefix_nil.mp before
    have below : docket.entered ≠ [] := List.ne_nil_of_length_pos (Nat.lt_of_lt_of_le
      (Nat.succ_pos _) deep)
    have enough : record.length ≤ (docket.read exchange).entered.length :=
      Nat.le_of_succ_le_succ (Nat.le_trans deep (docket.length_entered_read exchange))
    rw [readAll_cons, inductionHypothesis enough none, words_read below first, List.append_assoc,
      wordsIn, wordsIn, List.filterMap_cons]
    cases exchange.word? <;> rfl

end Docket

/-- The turns of a stretch tell what its record tells: nothing in it is of a turn begun before. -/
theorem StartSpan.words {autoOnly : Bool} {record : List Exchange} {before after : Starting}
    {turns : List Turn} {entered : List String}
    (span : StartSpan autoOnly record before after turns entered) :
    turns.flatMap Turn.words = wordsIn record := by
  have reads := span.reads { entered := List.replicate record.length "" }
  have words := @Docket.words_readAll { entered := List.replicate record.length "" } record
    (by rw [List.length_replicate]) (by rw [reads])
  rw [reads] at words
  simpa [Docket.words] using words

/-! ### What names find -/

/-- Everything is answered as it always is, and when the turn of a name comes, its component runs or not
just as it did at first. -/
structure FixedAnswers.Finds (fixed : FixedAnswers) (running : String → Bool) (record : List Exchange) :
    Prop where
  agrees : ∀ exchange ∈ record, exchange.Agrees fixed
  ran : ∀ turn ∈ turnsIn record, turn.ran = running turn.name

/-- A component that is started in the turn of a name answers what is foreseen for the name. -/
def StartsEnd (reason : String → Option String) (record : List Exchange) : Prop :=
  ∀ turn ∈ turnsIn record, ∀ why, Call.start turn.component why ∈ turn.calls → why = reason turn.name

/-- Turns of what their names stand for are of the members that the names have in the set. -/
theorem members_eq_listed {set : WorkingSet} {turns : List Turn}
    (drawn : ∀ turn ∈ turns, set.get? turn.name = some turn.component) :
    turns.map Turn.member = set.listed (turns.map (·.name)) := by
  induction turns with
  | nil => rfl
  | cons turn turns inductionHypothesis =>
    rw [List.map_cons, List.map_cons, WorkingSet.listed, List.filterMap_cons,
      drawn turn List.mem_cons_self,
      inductionHypothesis fun other there => drawn other (List.mem_cons_of_mem _ there)]
    rfl

/-! ### The calls of a start pass -/

namespace FixedAnswers

variable (fixed : FixedAnswers) (autoOnly : Bool) (running : String → Bool)
  (reason : String → Option String)

/-- The calls of a start pass that comes to some members, and the failure that it ends with, as their
names find their components and as these answer. -/
def script : List Member → List Call × Option LifecycleError
  | [] => ([], none)
  | member :: members =>
    if running member.name || !fixed.wants autoOnly member.component then script members
    else
      match reason member.name with
      | some why => ([.start member.component (some why)], some (.startFailed member.name why))
      | none => (.start member.component none :: (script members).1, (script members).2)

variable {fixed autoOnly running reason} {members : List Member} {turns : List Turn}
  {rest : List Exchange} {failure : Option LifecycleError}

/-- Coming to a member, a start pass finds out whether it runs, and calls it if it does not and is
wanted. -/
theorem words_of_attempt {member : Member}
    (yields : (fixed.attempt autoOnly none member).Yields rest failure) :
    ∃ ran calls, wordsIn rest = .found member.component ran :: calls.map .called ∧
      callsIn rest = calls ∧
      ((ran || !fixed.wants autoOnly member.component) = true ∧ calls = [] ∧ failure = none ∨
        (ran || !fixed.wants autoOnly member.component) = false ∧ ∃ why,
          calls = [.start member.component why] ∧ failure = why.map (.startFailed member.name)) := by
  obtain ⟨ran, _, _, asked, rfl, answered⟩ := yields_ask_bind.mp yields
  refine ⟨ran, callsIn asked, ?_⟩
  cases ran with
  | true =>
    obtain ⟨rfl, rfl⟩ := answered
    exact ⟨rfl, rfl, Or.inl ⟨rfl, rfl, rfl⟩⟩
  | false =>
    cases wanted : fixed.wants autoOnly member.component with
    | false =>
      rw [wanted] at answered
      obtain ⟨rfl, rfl⟩ := answered
      exact ⟨rfl, rfl, Or.inl ⟨rfl, rfl, rfl⟩⟩
    | true =>
      rw [wanted] at answered
      obtain ⟨why, _, _, _, rfl, rfl, rfl⟩ := yields_ask_bind.mp answered
      exact ⟨rfl, rfl, Or.inr ⟨rfl, why, rfl, rfl⟩⟩

/-- Coming to members, a start pass first finds out whether the first of them runs. -/
theorem words_of_attempts
    (yields : (members.foldlM (fixed.attempt autoOnly) none).Yields rest failure) :
    wordsIn rest = [] ∨ ∃ component ran words, wordsIn rest = .found component ran :: words := by
  cases members with
  | nil =>
    obtain ⟨rfl, -⟩ := yields
    exact Or.inl rfl
  | cons member members =>
    obtain ⟨first, _, last, turn, -, rfl⟩ := yields_foldlM_cons.mp yields
    obtain ⟨ran, _, _, more, rfl, -⟩ := yields_ask_bind.mp turn
    exact Or.inr ⟨member.component, ran, wordsIn (more ++ last), rfl⟩

/-- Calls come before the next turn. -/
theorem words_parted {calls others : List Call} {turns : List Turn} {words : List Word}
    (next : words = [] ∨ ∃ component ran more, words = .found component ran :: more)
    (same : calls.map Word.called ++ turns.flatMap Turn.words = others.map Word.called ++ words) :
    calls = others ∧ turns.flatMap Turn.words = words := by
  induction calls generalizing others with
  | nil =>
    cases others with
    | nil => exact ⟨rfl, same⟩
    | cons call others =>
      cases turns <;> cases same
  | cons call calls inductionHypothesis =>
    cases others with
    | nil =>
      rcases next with none | ⟨component, ran, more, first⟩
      · rw [none] at same
        cases same
      · rw [first] at same
        cases same
    | cons other others =>
      obtain ⟨first, rest⟩ := List.cons.inj same
      obtain ⟨rfl, told⟩ := inductionHypothesis rest
      exact ⟨by rw [Word.called.inj first], told⟩

/-- A start pass that comes to some members keeps to the script. -/
theorem script_of_yields
    (yields : (members.foldlM (fixed.attempt autoOnly) none).Yields rest failure)
    (words : turns.flatMap Turn.words = wordsIn rest) (listed : turns.map Turn.member <+: members)
    (ran : ∀ turn ∈ turns, turn.ran = running turn.name)
    (ends : ∀ turn ∈ turns, ∀ why, Call.start turn.component why ∈ turn.calls → why = reason turn.name) :
    (callsIn rest, failure) = fixed.script autoOnly running reason members := by
  induction members generalizing turns rest with
  | nil =>
    obtain ⟨rfl, rfl⟩ := yields
    rfl
  | cons member members inductionHypothesis =>
    obtain ⟨first, middle, last, attempts, goesOn, rfl⟩ := yields_foldlM_cons.mp yields
    obtain ⟨runs, calls, toldFirst, called, outcome⟩ := words_of_attempt attempts
    rw [wordsIn_append, toldFirst] at words
    cases turns with
    | nil => cases words
    | cons turn turns =>
      obtain ⟨rfl, others⟩ := List.cons_prefix_cons.mp listed
      obtain ⟨own, toldLater⟩ := List.cons.inj words
      obtain ⟨-, itsRan⟩ := Word.found.inj own
      have flag : running turn.member.name = runs := (ran turn List.mem_cons_self).symm.trans itsRan
      have next : wordsIn last = [] ∨
          ∃ component ran more, wordsIn last = .found component ran :: more := by
        cases middle with
        | none => exact words_of_attempts goesOn
        | some error =>
          rw [ComesTo.foldlM_attempt_of_failed] at goesOn
          exact Or.inl (goesOn.1 ▸ rfl)
      obtain ⟨its, told⟩ := words_parted next toldLater
      have later : middle = none →
          (callsIn last, failure) = fixed.script autoOnly running reason members := by
        rintro rfl
        exact inductionHypothesis goesOn told others
          (fun other there => ran other (List.mem_cons_of_mem _ there))
          fun other there => ends other (List.mem_cons_of_mem _ there)
      rw [callsIn_append, called, script, flag]
      rcases outcome with ⟨passed, rfl, fine⟩ | ⟨due, why, rfl, failed⟩
      · rw [if_pos passed]
        exact later fine
      · have foreseen : reason turn.member.name = why :=
          (ends turn List.mem_cons_self why (its ▸ List.mem_cons_self)).symm
        rw [due, if_neg Bool.false_ne_true, foreseen]
        cases why with
        | none =>
          dsimp only
          rw [← later failed]
          rfl
        | some why =>
          rw [failed, Option.map_some, ComesTo.foldlM_attempt_of_failed] at goesOn
          obtain ⟨rfl, rfl⟩ := goesOn
          rfl

end FixedAnswers

/-! ### Start passes -/

/-- What a start ends with. -/
def Starting.outcome (starting : Starting) : Except LifecycleError Unit :=
  match starting.failure with
  | some error => .error error
  | none => .ok ()

/-- Starts names one after the other, from a whole snapshot as the working set. -/
def startFlat (snapshot : List Member) (autoOnly : Bool) (names : List String) : Pass Starting :=
  names.foldlM (Starting.start autoOnly) { left := WorkingSet.ofList snapshot }

namespace FixedAnswers

variable (fixed : FixedAnswers) (snapshot : List Member) (autoOnly : Bool)

/-- The names that a start pass is to start, in ascending order of their phases. -/
def startNames : List String :=
  ((fixed.ascending snapshot).filter (fixed.wants autoOnly ·.component)).map (·.name)

/-- All names, in descending order of their phases. -/
def stopNames : List String :=
  (fixed.descending snapshot).map (·.name)

theorem plan_eq : fixed.plan snapshot autoOnly =
    (WorkingSet.ofList snapshot).listed
      ((fixed.startNames snapshot autoOnly).foldl (Descent.enter fixed.dependencies)
        { left := WorkingSet.ofList snapshot }).order := by
  rw [plan, fixed.roots_eq_ascending, startNames]

variable {fixed snapshot autoOnly} {running : String → Bool} {reason : String → Option String}
  {record : List Exchange}

/-- The turns of a start are of the first members of the plan. -/
theorem members_of_accord {docket : Docket} {starting : Starting}
    (accord : Accord autoOnly (WorkingSet.ofList snapshot) [] docket
      ((fixed.startNames snapshot autoOnly).foldl (Descent.enter fixed.dependencies)
        { left := WorkingSet.ofList snapshot }) starting) :
    docket.turns.reverse.map Turn.member <+: fixed.plan snapshot autoOnly := by
  obtain ⟨rest, order⟩ := accord.names
  rw [members_eq_listed fun turn there => accord.listed turn (List.mem_reverse.mp there), plan_eq,
    ← order, WorkingSet.listed, WorkingSet.listed, List.filterMap_append]
  exact List.prefix_append _ _

/-- A start pass follows dependencies from the wanted names in ascending order of their phases. -/
theorem accord_of_agrees {timeout : Nat} {outcome : Except LifecycleError Unit}
    (yields : (startPass snapshot timeout autoOnly).Yields record outcome)
    (agrees : ∀ exchange ∈ record, exchange.Agrees fixed) :
    ∃ starting : Starting, outcome = starting.outcome ∧
      Accord autoOnly (WorkingSet.ofList snapshot) [] (({} : Docket).readAll record)
        ((fixed.startNames snapshot autoOnly).foldl (Descent.enter fixed.dependencies)
          { left := WorkingSet.ofList snapshot }) starting := by
  obtain ⟨gathering, groups, started, starting, roots, rfl, gathers, arranged, ended, accord⟩ :=
    accord_startPass (fun exchange there => (agrees exchange there).keeps.1) yields
  have same := fixed.groups_of_yields gathers fun exchange there =>
    agrees exchange (List.mem_append_left _ there)
  subst same
  have level := (sorts_groups fixed snapshot timeout autoOnly).phases
  rw [arranged.names_eq agrees level, members_groups] at accord
  exact ⟨starting, ended, accord⟩

/-- A start pass that ends well comes to whatever a wanted name leads to. -/
theorem mem_names_of_leads {timeout : Nat}
    (yields : (startPass snapshot timeout autoOnly).Yields record (.ok ()))
    (agrees : ∀ exchange ∈ record, exchange.Agrees fixed) {root name : String}
    (wanted : root ∈ fixed.startNames snapshot autoOnly)
    (leads : ReflTransGen (Leads fixed.dependencies (snapshot.map (·.name))) root name) :
    name ∈ (turnsIn record).map (·.name) := by
  obtain ⟨starting, ended, accord⟩ := accord_of_agrees yields agrees
  have unfailed : starting.failure = none := by
    cases failure : starting.failure with
    | none => rfl
    | some error =>
      rw [Starting.outcome, failure] at ended
      cases ended
  have names : (turnsIn record).map (·.name) = _ := (accord.along unfailed).names
  have distinct := WorkingSet.distinct_ofList snapshot
  obtain ⟨member, there, rfl⟩ := List.mem_map.mp wanted
  obtain ⟨listed, inSnapshot, rfl⟩ := List.mem_map.mp
    ((List.mergeSort_perm _ _).subset (List.mem_filter.mp there).1)
  have held : (standing snapshot listed).name ∈ (WorkingSet.ofList snapshot).names :=
    (WorkingSet.mem_names_ofList _ _).mpr (List.mem_map.mpr ⟨listed, inSnapshot, rfl⟩)
  rw [names]
  rw [← leads_congr (WorkingSet.mem_names_ofList snapshot)] at leads
  exact Descent.mem_order_of_leads distinct (Descent.mem_order_search distinct wanted held) leads

/-- The calls of a start pass are those of the script over its plan. -/
theorem calls_startPass {timeout : Nat} {outcome : Except LifecycleError Unit}
    (yields : (startPass snapshot timeout autoOnly).Yields record outcome)
    (finds : fixed.Finds running record) (ends : StartsEnd reason record) :
    ∃ failure, outcome = Starting.outcome { left := {}, failure } ∧
      (callsIn record, failure) =
        fixed.script autoOnly running reason (fixed.plan snapshot autoOnly) := by
  have settled := yields.settle fixed finds.agrees
  rw [fixed.settle_startPass] at settled
  obtain ⟨rest, failure, _, attempts, ⟨rfl, rfl⟩, place⟩ := yields_bind.mp settled
  rw [List.append_nil] at place
  subst place
  obtain ⟨gathering, groups, started, starting, entered, rfl, gathers, span, -, -⟩ :=
    span_startPass yields
  have told : (turnsIn (gathering ++ started)).flatMap Turn.words =
      wordsIn (fixed.rest (gathering ++ started)) := by
    rw [span.words, fixed.wordsIn_rest, wordsIn_append, wordsIn_of_isOutset
      (gathers.request_of_asks (asks_groupSnapshot snapshot timeout autoOnly)), List.nil_append]
  obtain ⟨_, -, accord⟩ := accord_of_agrees yields finds.agrees
  refine ⟨failure, by cases failure <;> rfl, ?_⟩
  rw [← fixed.callsIn_rest]
  exact script_of_yields attempts told (members_of_accord accord) finds.ran ends

/-- The calls of a flat start from the same names are those of the script over the plan as well. -/
theorem calls_startFlat {result : Starting}
    (yields : (startFlat snapshot autoOnly (fixed.startNames snapshot autoOnly)).Yields record result)
    (finds : fixed.Finds running record) (ends : StartsEnd reason record) :
    (callsIn record, result.failure) =
      fixed.script autoOnly running reason (fixed.plan snapshot autoOnly) := by
  obtain ⟨names, reached, comes⟩ := @ComesTo.starts fixed autoOnly (WorkingSet.ofList snapshot)
    (fixed.startNames snapshot autoOnly) { left := WorkingSet.ofList snapshot }
    ⟨[], (WorkingSet.without_nil _).symm⟩
  have plan : fixed.plan snapshot autoOnly = (WorkingSet.ofList snapshot).listed names := by
    rw [plan_eq, reached]
    rfl
  have heedless : Heedless fun starting : Starting => (pure starting.failure : Pass _) := by
    intro starting other same _
    dsimp only
    rw [same]
  have settled := comes _ heedless
  rw [← plan, bind_pure] at settled
  have attempts : ((fixed.plan snapshot autoOnly).foldlM (fixed.attempt autoOnly) none).Yields
      (fixed.rest record) result.failure := by
    rw [← settled]
    exact yields_bind.mpr ⟨_, result, [], yields.settle fixed finds.agrees, ⟨rfl, rfl⟩,
      (List.append_nil _).symm⟩
  obtain ⟨turns, entered, span, -⟩ := StartSpan.foldlM (fun _ _ => False)
    (fun name _ goes => by
      obtain ⟨turns, entered, span, -⟩ := StartSpan.start goes
      exact ⟨turns, entered, span, fun _ _ drains => drains.elim⟩) yields
  have its : turnsIn record = turns := by simp [turnsIn, span.reads]
  have accord := Accord.foldlM (fun name => Accord.start name)
    (fun exchange there => (finds.agrees exchange there).keeps.1) yields
    (.initial autoOnly (WorkingSet.ofList snapshot))
  rw [← fixed.callsIn_rest]
  refine script_of_yields attempts ?_ (members_of_accord accord) finds.ran ends
  rw [fixed.wordsIn_rest, ← span.words]
  exact congrArg (List.flatMap Turn.words) its

end FixedAnswers

/-! ### Stop passes -/

/-- The call without its answer and without the mark of a barrier. -/
def Call.bare : Call → Call
  | .start component _ => .start component none
  | .stop component _ => .stop component none
  | .stopAsync component signal _ => .stopAsync component { signal with barrier := 0 } none

/-- Stops names one after the other, from a whole snapshot as the working set, in front of any barrier. -/
def stopFlat (snapshot : List Member) (members : List String) (barrier : Barrier)
    (names : List String) : Pass Stopping :=
  names.foldlM (Stopping.stop members) { left := WorkingSet.ofList snapshot, barrier }

/-- The calls in the turn of a member that runs or does not. -/
def Member.stops (running : String → Bool) (member : Member) : List Call :=
  if running member.name then
    [if member.component.isSmart then .stopAsync member.component { barrier := 0, name := member.name } none
      else .stop member.component none]
  else []

theorem StopTurn.bare_calls {mark : Nat} {turn : Turn} (kind : StopTurn mark turn)
    {running : String → Bool} (ran : turn.ran = running turn.name) :
    turn.calls.map Call.bare = turn.member.stops running := by
  cases kind with
  | idle name component =>
    have still : running name = false := ran.symm
    simp [Member.stops, Turn.member, still]
  | stopping name component reason waits =>
    have runs : running name = true := ran.symm
    simp [Member.stops, Turn.member, runs, waits, Call.bare]
  | signalling name component reason smart =>
    have runs : running name = true := ran.symm
    simp [Member.stops, Turn.member, runs, smart, Call.bare]

namespace FixedAnswers

variable {fixed : FixedAnswers} {snapshot : List Member} {running : String → Bool}
  {record : List Exchange}

/-- The calls of stop turns are those of the members that the names have in the set. -/
theorem bare_calls {set : WorkingSet} (strays : (({} : Docket).readAll record).strays = [])
    (drawn : ∀ turn ∈ turnsIn record, set.get? turn.name = some turn.component)
    (kinds : ∀ turn ∈ turnsIn record, ∃ mark, StopTurn mark turn)
    (finds : fixed.Finds running record) :
    (callsIn record).map Call.bare =
      (set.listed ((turnsIn record).map (·.name))).flatMap (Member.stops running) := by
  rw [← flatMap_calls_turnsIn strays, ← members_eq_listed drawn, List.map_flatMap, List.flatMap_map]
  refine List.flatMap_congr fun turn there => ?_
  obtain ⟨mark, kind⟩ := kinds turn there
  exact kind.bare_calls (finds.ran turn there)

/-- A stop pass stops what runs, in the order of a search from all names in descending order. -/
theorem calls_stopPass {timeout : Nat} {report : StopReport}
    (yields : (stopPass snapshot timeout).Yields record report) (finds : fixed.Finds running record) :
    (callsIn record).map Call.bare = ((WorkingSet.ofList snapshot).listed
      ((fixed.stopNames snapshot).foldl (Descent.enter fixed.dependents)
        { left := WorkingSet.ofList snapshot }).order).flatMap (Member.stops running) := by
  obtain ⟨history, rfl, rfl⟩ := exists_stopHistory yields
  have groups := fixed.groups_of_yields history.gathered fun exchange there =>
    finds.agrees exchange (List.mem_append_left _ there)
  have level := (sorts_groups fixed snapshot timeout false).phases
  have roots : history.roots = fixed.stopNames snapshot := by
    rw [history.arranged.names_eq finds.agrees fun group there =>
      level group (groups ▸ List.mem_reverse.mp there), groups, members_reverse_groups, stopNames]
  have kinds : ∀ turn ∈ turnsIn history.record, ∃ mark, StopTurn mark turn := by
    intro turn there
    obtain ⟨-, round, -, -, kind⟩ := history.turn_of_mem there
    exact ⟨round.mark, kind⟩
  rw [bare_calls history.strays_record (fun turn there => (history.turn_of_mem there).1) kinds finds,
    history.names_turnsIn fun exchange there => (finds.agrees exchange there).keeps.2.1, roots]

/-- A flat stop from the same names stops what runs in the same order. -/
theorem calls_stopFlat {members : List String} {barrier : Barrier} {result : Stopping}
    (yields : (stopFlat snapshot members barrier (fixed.stopNames snapshot)).Yields record result)
    (finds : fixed.Finds running record) :
    (callsIn record).map Call.bare = ((WorkingSet.ofList snapshot).listed
      ((fixed.stopNames snapshot).foldl (Descent.enter fixed.dependents)
        { left := WorkingSet.ofList snapshot }).order).flatMap (Member.stops running) := by
  obtain ⟨turns, span, -⟩ := StopSpan.foldlM (fun _ => 0) (fun _ _ => False)
    (fun name goes => by
      obtain ⟨turns, span, -⟩ := StopSpan.visit goes
      exact ⟨turns, span, fun _ drains => drains.elim⟩) yields
  have its : turnsIn record = turns := by simp [turnsIn, span.reads]
  have abreast := Abreast.foldlM (fun name => Abreast.stop name)
    (fun exchange there => (finds.agrees exchange there).keeps.2.1) yields
    (⟨rfl, rfl, rfl⟩ : Abreast [] {} { left := WorkingSet.ofList snapshot } (WorkingSet.ofList snapshot))
  rw [bare_calls (by rw [span.reads]) (its ▸ span.drawn)
    (fun turn there => ⟨_, span.kinds turn (its ▸ there)⟩) finds]
  exact congrArg (fun names => ((WorkingSet.ofList snapshot).listed names).flatMap _) abreast.names

end FixedAnswers

/-! ### Surroundings in which names find what is foreseen -/

namespace FixedAnswers

variable (fixed : FixedAnswers) (running : String → Bool) (reason : String → Option String)

/-- The answers of surroundings that read along with the pass, and so know whose turn it is. -/
def foreseen : (request : Request) → Docket → request.Answer
  | .dependencies name, _ => fixed.dependencies name
  | .dependents name, _ => fixed.dependents name
  | .isRunning _, docket => docket.entered.head?.elim false running
  | .isAutoStartup component, _ => fixed.auto component
  | .phase component, _ => fixed.phase component
  | .start _, docket => docket.turns.head?.bind fun turn => reason turn.name
  | .stop _, _ => none
  | .stopAsync _ _, _ => none
  | .barrierMark, _ => 0
  | .arrivals _, _ => []
  | .now, _ => 0
  | .nextArrival _ _, _ => none
  | .note _, _ => ()

/-- The record of a pass in such surroundings. -/
def foreseenRecord {Value : Type} (pass : Pass Value) (docket : Docket) : List Exchange :=
  pass.recordOf (fun request docket =>
    (fixed.foreseen running reason request docket,
      docket.read ⟨request, fixed.foreseen running reason request docket, [], 0⟩))
    (fun _ => []) (fun _ => 0) docket

/-- The value of a pass in such surroundings. -/
def foreseenValue {Value : Type} (pass : Pass Value) (docket : Docket) : Value :=
  (pass.run (fun request docket =>
    (fixed.foreseen running reason request docket,
      docket.read ⟨request, fixed.foreseen running reason request docket, [], 0⟩)) docket).1

/-- The turn finds what is foreseen for its name. -/
def Meets (turn : Turn) : Prop :=
  turn.ran = running turn.name ∧
    ∀ why, Call.start turn.component why ∈ turn.calls → why = reason turn.name

theorem meets_read {docket : Docket} (request : Request)
    (meets : ∀ turn ∈ docket.turns, Meets running reason turn) :
    ∀ turn ∈ (docket.read ⟨request, fixed.foreseen running reason request docket, [], 0⟩).turns,
      Meets running reason turn := by
  have noted : ∀ call : Call, (∀ turn ∈ docket.turns.head?, ∀ why,
        call = .start turn.component why → why = reason turn.name) →
      ∀ turn ∈ (docket.noteCall call).turns, Meets running reason turn := by
    intro call expected turn there
    rcases docket.noteCall_cases call with ⟨latest, turns, place, its, noted⟩ | stray
    · rw [place] at meets expected
      rw [noted] at there
      rcases List.mem_cons.mp there with rfl | there
      · obtain ⟨ran, ends⟩ := meets latest List.mem_cons_self
        refine ⟨ran, fun why called => ?_⟩
        rcases List.mem_append.mp called with called | same
        · exact ends why called
        · exact expected latest rfl why (List.mem_singleton.mp same).symm
      · exact meets turn (List.mem_cons_of_mem _ there)
    · rw [stray] at there
      exact meets turn there
  cases request with
  | isRunning component =>
    obtain ⟨entered, turns, strays⟩ := docket
    cases entered with
    | nil => exact meets
    | cons name entered =>
      intro turn there
      rcases List.mem_cons.mp there with rfl | there
      · exact ⟨rfl, fun why called => absurd called List.not_mem_nil⟩
      · exact meets turn there
  | isAutoStartup component =>
    obtain ⟨entered, turns, strays⟩ := docket
    cases turns with
    | nil => exact meets
    | cons latest turns =>
      intro turn there
      rcases List.mem_cons.mp there with rfl | there
      · exact meets latest List.mem_cons_self
      · exact meets turn (List.mem_cons_of_mem _ there)
  | start component =>
    refine noted _ fun turn latest why same => ?_
    rw [← (Call.start.inj same).2, foreseen, Option.mem_def.mp latest]
    rfl
  | stop component => exact noted _ fun _ _ _ same => Call.noConfusion same
  | stopAsync component signal => exact noted _ fun _ _ _ same => Call.noConfusion same
  | _ => exact meets

/-- Any pass can be run so that names find what is foreseen for them. -/
theorem foreseen_run {Value : Type} (pass : Pass Value) :
    pass.Yields (fixed.foreseenRecord running reason pass {}) (fixed.foreseenValue running reason pass {}) ∧
      fixed.Finds running (fixed.foreseenRecord running reason pass {}) ∧
      StartsEnd reason (fixed.foreseenRecord running reason pass {}) := by
  have meets : ∀ docket : Docket, (∀ turn ∈ docket.turns, Meets running reason turn) →
      ∀ turn ∈ (docket.readAll (fixed.foreseenRecord running reason pass docket)).turns,
        Meets running reason turn := by
    induction pass with
    | done value => exact fun docket meets => meets
    | asking request next inductionHypothesis =>
      exact fun docket meets =>
        inductionHypothesis _ _ (fixed.meets_read running reason request meets)
  have agrees : ∀ exchange ∈ fixed.foreseenRecord running reason pass {}, exchange.Agrees fixed := by
    refine forall_recordOf (fun request docket answer known => ?_) _ _
    cases request <;> cases known <;> rfl
  have all := meets {} fun _ there => absurd there List.not_mem_nil
  exact ⟨yields_recordOf _ _ _ _ _,
    ⟨agrees, fun turn there => (all turn (List.mem_reverse.mp there)).1⟩,
    fun turn there => (all turn (List.mem_reverse.mp there)).2⟩

end FixedAnswers

/-! ### Passes and flat traversals -/

/-- Groups make no difference to what passes call.

The edges, the phases and which components start by themselves are fixed, and whether the component of a
name runs does not change before the turn of the name; what becomes of it afterwards, and how stops end,
is open. Then a start pass makes the same calls to start, and ends with the same failure or none, as one
traversal from the names of what is wanted, in ascending order of their phases. Both begin with the whole
snapshot as their working set, so a name that is not wanted has its turn too, if one that is wanted leads
to it. A stop pass makes the same calls to stop, at once or in the background, as one traversal from all
names, in descending order of their phases, whatever barrier stands behind it. A name that is listed more
than once stands everywhere for the component listed last, and within one phase names keep the order in
which they are listed. -/
theorem passes_call_like_flat_traversals (fixed : FixedAnswers) (snapshot : List Member)
    (running : String → Bool) :
    (∀ timeout autoOnly reason record outcome other result,
      (startPass snapshot timeout autoOnly).Yields record outcome →
      fixed.Finds running record → StartsEnd reason record →
      (startFlat snapshot autoOnly (fixed.startNames snapshot autoOnly)).Yields other result →
      fixed.Finds running other → StartsEnd reason other →
        callsIn record = callsIn other ∧ outcome = result.outcome ∧
          (outcome = .ok () → ∀ root ∈ fixed.startNames snapshot autoOnly, ∀ name,
            ReflTransGen (Leads fixed.dependencies (snapshot.map (·.name))) root name →
              name ∈ (turnsIn record).map (·.name))) ∧
    (∀ timeout record report members barrier other result,
      (stopPass snapshot timeout).Yields record report → fixed.Finds running record →
      (stopFlat snapshot members barrier (fixed.stopNames snapshot)).Yields other result →
      fixed.Finds running other →
        (callsIn record).map Call.bare = (callsIn other).map Call.bare) ∧
    ∀ phase,
      (fixed.ascending snapshot).filter (fixed.phaseOf ·.component = phase) =
          (snapshot.map (standing snapshot)).filter (fixed.phaseOf ·.component = phase) ∧
        (fixed.descending snapshot).filter (fixed.phaseOf ·.component = phase) =
          (snapshot.map (standing snapshot)).filter (fixed.phaseOf ·.component = phase) := by
  refine ⟨?_, ?_, fun phase => ⟨fixed.filter_ascending snapshot phase,
    fixed.filter_descending snapshot phase⟩⟩
  · intro timeout autoOnly reason record outcome other result yields finds ends flat findsOther endsOther
    obtain ⟨failure, ended, script⟩ := FixedAnswers.calls_startPass yields finds ends
    have scriptOther := FixedAnswers.calls_startFlat flat findsOther endsOther
    obtain ⟨calls, same⟩ := Prod.mk.inj (script.trans scriptOther.symm)
    refine ⟨calls, ?_, fun fine root wanted name leads => ?_⟩
    · rw [ended, same]
      rfl
    · exact FixedAnswers.mem_names_of_leads (fine ▸ yields) finds.agrees wanted leads
  · intro timeout record report members barrier other result yields finds flat findsOther
    rw [FixedAnswers.calls_stopPass yields finds, FixedAnswers.calls_stopFlat flat findsOther]

/-- A ferry of an early phase that depends on a pilot, who does not start by himself and depends on a
crane. -/
def ferryAnswers : FixedAnswers where
  dependencies := fun name =>
    if name = "ferry" then ["pilot"] else if name = "pilot" then ["crane"] else []
  dependents := fun name =>
    if name = "crane" then ["pilot"] else if name = "pilot" then ["ferry"] else []
  phase := fun component => if component.key = "ferry" then -5 else 7
  auto := fun component => component.key ≠ "pilot"

/-- The ferry is listed again in the place of a hulk. -/
def ferrySnapshot : List Member :=
  [⟨"ferry", ⟨"hulk", .smart⟩⟩, ⟨"pilot", ⟨"pilot", .smart⟩⟩, ⟨"crane", ⟨"crane", .plain⟩⟩,
    ⟨"ferry", ⟨"ferry", .phased⟩⟩]

/-- The ferry refuses to start. -/
def ferryReason (name : String) : Option String :=
  if name = "ferry" then some "aground" else none

theorem ferry_passes_call_like_flat_traversals :
    callsIn (ferryAnswers.foreseenRecord (fun _ => false) ferryReason
        (startPass ferrySnapshot 30000 true) {}) =
      [.start ⟨"crane", .plain⟩ none, .start ⟨"ferry", .phased⟩ (some "aground")] ∧
    (callsIn (ferryAnswers.foreseenRecord (fun _ => true) ferryReason
        (stopPass ferrySnapshot 30000) {})).map Call.bare =
      [.stop ⟨"ferry", .phased⟩ none, .stopAsync ⟨"pilot", .smart⟩ ⟨0, "pilot"⟩ none,
        .stop ⟨"crane", .plain⟩ none] := by
  constructor
  · obtain ⟨yields, finds, ends⟩ := ferryAnswers.foreseen_run (fun _ => false) ferryReason
      (startPass ferrySnapshot 30000 true)
    obtain ⟨flat, findsFlat, endsFlat⟩ := ferryAnswers.foreseen_run (fun _ => false) ferryReason
      (startFlat ferrySnapshot true (ferryAnswers.startNames ferrySnapshot true))
    rw [((passes_call_like_flat_traversals ferryAnswers ferrySnapshot fun _ => false).1 _ _ _ _ _ _ _
      yields finds ends flat findsFlat endsFlat).1]
    cbv
  · obtain ⟨yields, finds, -⟩ := ferryAnswers.foreseen_run (fun _ => true) ferryReason
      (stopPass ferrySnapshot 30000)
    obtain ⟨flat, findsFlat, -⟩ := ferryAnswers.foreseen_run (fun _ => true) ferryReason
      (stopFlat ferrySnapshot [] { mark := 0, remaining := 0 } (ferryAnswers.stopNames ferrySnapshot))
    rw [(passes_call_like_flat_traversals ferryAnswers ferrySnapshot fun _ => true).2.1 _ _ _ _ _ _ _
      yields finds flat findsFlat]
    cbv

end PhasedLifecycle
