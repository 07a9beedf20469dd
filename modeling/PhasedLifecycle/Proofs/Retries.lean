/-
This file says what becomes of a start that fails and is tried again. Components run once they were
started and only then, and a registry and its components answer everything else in one way. A start
pass then comes to the members of its plan, whatever runs, and calls those that are due: the ones that
are wanted and do not run. A pass that fails has called the first of them, up to the one that failed,
and leaves due what it did not start. So the passes together start each component that is due at first,
once and in order, as one pass would if no component failed.
-/

import PhasedLifecycle.Proofs.StartPlan

namespace PhasedLifecycle

open Pass

/-! ### Which components run -/

/-- Which components run after a call. A component runs once it was started, and a start that failed
leaves it not running. -/
def Call.flags (running : Component → Bool) : Call → Component → Bool
  | .start component reason => Function.update running component reason.isNone
  | _ => running

/-- Which components run after a record. -/
def flagsAfter (running : Component → Bool) (record : List Exchange) : Component → Bool :=
  (callsIn record).foldl Call.flags running

/-- Asked whether it runs, a component tells the truth. -/
def Exchange.Tells (running : Component → Bool) : Exchange → Prop
  | ⟨.isRunning component, ran, _, _⟩ => ran = running component
  | _ => True

/-- Components tell the truth about whether they run, and starts alone change it. -/
def TellsFlags (running : Component → Bool) : List Exchange → Prop
  | [] => True
  | exchange :: record =>
    exchange.Tells running ∧ TellsFlags (flagsAfter running [exchange]) record

theorem flagsAfter_append (running : Component → Bool) (first last : List Exchange) :
    flagsAfter running (first ++ last) = flagsAfter (flagsAfter running first) last := by
  rw [flagsAfter, callsIn, List.filterMap_append, List.foldl_append]
  rfl

theorem tellsFlags_append {running : Component → Bool} {first last : List Exchange} :
    TellsFlags running (first ++ last) ↔
      TellsFlags running first ∧ TellsFlags (flagsAfter running first) last := by
  induction first generalizing running with
  | nil => exact (and_iff_right trivial).symm
  | cons exchange first inductionHypothesis =>
    rw [List.cons_append, TellsFlags, TellsFlags, inductionHypothesis, ← flagsAfter_append, and_assoc,
      List.singleton_append]

/-- Questions with fixed answers are no calls, so what is left of a record tells of the same flags. -/
theorem TellsFlags.rest {fixed : FixedAnswers} {running : Component → Bool} {record : List Exchange}
    (tells : TellsFlags running record) : TellsFlags running (fixed.rest record) := by
  induction record generalizing running with
  | nil => trivial
  | cons exchange record inductionHypothesis =>
    have later := inductionHypothesis tells.2
    rw [FixedAnswers.rest, List.filter_cons]
    split
    · exact ⟨tells.1, later⟩
    · rename_i known
      have none : callsIn [exchange] = [] := by
        rw [← fixed.callsIn_rest, FixedAnswers.rest, List.filter_cons, if_neg known]
        rfl
      rw [flagsAfter, none] at later
      exact later

/-- After some components were started, they run besides those that ran before. -/
theorem flags_started (running : Component → Bool) (components : List Component)
    (component : Component) :
    (components.map (Call.start · none)).foldl Call.flags running component =
      (running component || decide (component ∈ components)) := by
  induction components generalizing running with
  | nil => simp
  | cons first components inductionHypothesis =>
    rw [List.map_cons, List.foldl_cons, inductionHypothesis, Call.flags, Function.update_apply]
    by_cases same : component = first
    · simp [same]
    · simp [same]

/-- A component that did not run and fails to start still does not run. -/
theorem flags_failed {running : Component → Bool} {components : List Component} {failed : Component}
    (stopped : running failed = false) (fresh : failed ∉ components) (reason : String)
    (component : Component) :
    (components.map (Call.start · none) ++ [Call.start failed (some reason)]).foldl Call.flags running
        component =
      (running component || decide (component ∈ components)) := by
  rw [List.foldl_append, List.foldl_cons, List.foldl_nil, Call.flags, Function.update_apply,
    flags_started]
  split
  · rename_i same
    rw [same, stopped, decide_eq_false fresh]
    rfl
  · rfl

/-- The component that a call starts, unless it fails. -/
def Call.started? : Call → Option Component
  | .start component none => some component
  | _ => none

/-- The components that are started in a record, in the order of their starts. -/
def startedIn (record : List Exchange) : List Component :=
  (callsIn record).filterMap Call.started?

theorem filterMap_started? (components : List Component) :
    (components.map (Call.start · none)).filterMap Call.started? = components := by
  rw [List.filterMap_map]
  exact List.filterMap_some

/-! ### The components that are due -/

namespace FixedAnswers

variable (fixed : FixedAnswers) (autoOnly : Bool)

/-- Whether a start pass calls a component. -/
def isDue (running : Component → Bool) (member : Member) : Bool :=
  !running member.component && fixed.wants autoOnly member.component

/-- The components that a start pass calls if none fails, in the order of the calls. -/
def due (snapshot : List Member) (running : Component → Bool) : List Component :=
  ((fixed.plan snapshot autoOnly).filter (fixed.isDue autoOnly running)).map (·.component)

variable {fixed : FixedAnswers} {autoOnly : Bool} {running : Component → Bool}

/-- Coming to a member, a start pass calls its component if it is due. -/
theorem yields_attempt {member : Member} {record : List Exchange} {failure : Option LifecycleError}
    (yields : (fixed.attempt autoOnly none member).Yields record failure)
    (tells : TellsFlags running record) :
    if fixed.isDue autoOnly running member then
      ∃ reason, callsIn record = [.start member.component reason] ∧
        failure = reason.map (.startFailed member.name)
    else callsIn record = [] ∧ failure = none := by
  obtain ⟨ran, _, _, rest, rfl, goesOn⟩ := yields_ask_bind.mp yields
  obtain rfl : ran = running member.component := tells.1
  rw [isDue]
  cases runs : running member.component with
  | true =>
    rw [runs] at goesOn
    obtain ⟨rfl, rfl⟩ := goesOn
    exact ⟨rfl, rfl⟩
  | false =>
    rw [runs] at goesOn
    cases wanted : fixed.wants autoOnly member.component with
    | false =>
      rw [wanted] at goesOn
      obtain ⟨rfl, rfl⟩ := goesOn
      exact ⟨rfl, rfl⟩
    | true =>
      rw [wanted] at goesOn
      obtain ⟨reason, _, _, _, rfl, rfl, rfl⟩ := yields_ask_bind.mp goesOn
      exact ⟨reason, rfl, rfl⟩

/-- Coming to members with components of their own, a start pass calls those that are due, up to the
first that fails. A start changes the flag of its component only, so the others are due as before. -/
theorem yields_attempts {members : List Member} {record : List Exchange}
    {failure : Option LifecycleError} (separate : (members.map (·.component)).Nodup)
    (yields : (members.foldlM (fixed.attempt autoOnly) none).Yields record failure)
    (tells : TellsFlags running record) :
    (failure = none ∧ callsIn record =
      (members.filter (fixed.isDue autoOnly running)).map (Call.start ·.component none)) ∨
    ∃ done member rest reason,
      members.filter (fixed.isDue autoOnly running) = done ++ member :: rest ∧
        failure = some (.startFailed member.name reason) ∧
        callsIn record = done.map (Call.start ·.component none) ++
          [.start member.component (some reason)] := by
  induction members generalizing running record with
  | nil =>
    obtain ⟨rfl, rfl⟩ := yields
    exact Or.inl ⟨rfl, rfl⟩
  | cons member members inductionHypothesis =>
    obtain ⟨first, middle, last, turn, goesOn, rfl⟩ := yields_foldlM_cons.mp yields
    obtain ⟨tellsFirst, tellsLast⟩ := tellsFlags_append.mp tells
    obtain ⟨own, separate⟩ := List.nodup_cons.mp separate
    have calls : callsIn (first ++ last) = callsIn first ++ callsIn last := List.filterMap_append
    have outcome := yields_attempt turn tellsFirst
    rw [List.filter_cons, calls]
    split at outcome
    · rename_i itsTurn
      obtain ⟨reason, called, rfl⟩ := outcome
      rw [if_pos itsTurn, called]
      cases reason with
      | some reason =>
        rw [Option.map_some, ComesTo.foldlM_attempt_of_failed] at goesOn
        obtain ⟨rfl, rfl⟩ := goesOn
        exact Or.inr ⟨[], member, _, reason, rfl, rfl, rfl⟩
      | none =>
        have others : members.filter (fixed.isDue autoOnly (flagsAfter running first)) =
            members.filter (fixed.isDue autoOnly running) := by
          refine List.filter_congr fun other there => ?_
          have different : other.component ≠ member.component := fun same =>
            own (List.mem_map.mpr ⟨other, there, same⟩)
          rw [isDue, isDue, flagsAfter, called, List.foldl_cons, List.foldl_nil, Call.flags,
            Function.update_of_ne different]
        rcases inductionHypothesis separate goesOn tellsLast with ⟨ended, callsLast⟩ |
          ⟨done, failed, rest, reason, place, ended, callsLast⟩
        · rw [others] at callsLast
          exact Or.inl ⟨ended, by rw [callsLast]; rfl⟩
        · rw [others] at place
          exact Or.inr ⟨member :: done, failed, rest, reason, by rw [place]; rfl, ended,
            by rw [callsLast]; rfl⟩
    · rename_i notDue
      obtain ⟨called, rfl⟩ := outcome
      rw [flagsAfter, called, List.foldl_nil] at tellsLast
      rw [if_neg notDue, called, List.nil_append]
      exact inductionHypothesis separate goesOn tellsLast

end FixedAnswers

/-! ### Start passes one after the other -/

/-- A start pass of a mode over a snapshot, from the moment when some components run. -/
structure StartAttempt (fixed : FixedAnswers) (snapshot : List Member) (autoOnly : Bool)
    (running : Component → Bool) (record : List Exchange) (outcome : Except LifecycleError Unit) :
    Prop where
  yields : ∃ timeout, (startPass snapshot timeout autoOnly).Yields record outcome
  agrees : ∀ exchange ∈ record, exchange.Agrees fixed
  tells : TellsFlags running record

/-- Start passes of a mode over a snapshot, one after the other, that all fail. -/
inductive FailedAttempts (fixed : FixedAnswers) (snapshot : List Member) (autoOnly : Bool) :
    (Component → Bool) → List (List Exchange) → (Component → Bool) → Prop
  | nil (running : Component → Bool) : FailedAttempts fixed snapshot autoOnly running [] running
  | cons {running final : Component → Bool} {record : List Exchange} {records : List (List Exchange)}
      {error : LifecycleError} (first : StartAttempt fixed snapshot autoOnly running record (.error error))
      (later : FailedAttempts fixed snapshot autoOnly (flagsAfter running record) records final) :
      FailedAttempts fixed snapshot autoOnly running (record :: records) final

section

variable {fixed : FixedAnswers} {snapshot : List Member} {autoOnly : Bool}
  {running : Component → Bool} {record : List Exchange}

theorem FixedAnswers.nodup_due
    (separate : ((WorkingSet.ofList snapshot).members.map (·.component)).Nodup) :
    (fixed.due autoOnly snapshot running).Nodup :=
  (fixed.nodup_components_plan snapshot autoOnly separate).sublist (List.filter_sublist.map _)

theorem FixedAnswers.not_running_of_mem_due {component : Component}
    (there : component ∈ fixed.due autoOnly snapshot running) : running component = false := by
  obtain ⟨member, listed, rfl⟩ := List.mem_map.mp there
  have itsTurn := (List.mem_filter.mp listed).2
  rw [isDue, Bool.and_eq_true, Bool.not_eq_true'] at itsTurn
  exact itsTurn.1

/-- What was started is no longer due, and everything else is due as before. -/
theorem FixedAnswers.due_of_flags {later : Component → Bool} {started : List Component}
    (flags : ∀ component, later component = (running component || decide (component ∈ started))) :
    fixed.due autoOnly snapshot later =
      (fixed.due autoOnly snapshot running).filter (· ∉ started) := by
  rw [due, due, List.filter_map, List.filter_filter]
  refine congrArg _ (List.filter_congr fun member _ => ?_)
  rw [isDue, isDue, flags, Bool.not_or, ← decide_not, Function.comp_apply, Bool.and_assoc,
    Bool.and_left_comm]

/-- A start pass calls the components that are due. Either all of them start, and none is due any more,
or the first that fails ends the pass, and it is due again with those after it. -/
theorem StartAttempt.calls {outcome : Except LifecycleError Unit}
    (attempt : StartAttempt fixed snapshot autoOnly running record outcome)
    (separate : ((WorkingSet.ofList snapshot).members.map (·.component)).Nodup) :
    (outcome = .ok () ∧ callsIn record =
        (fixed.due autoOnly snapshot running).map (Call.start · none) ∧
      fixed.due autoOnly snapshot (flagsAfter running record) = []) ∨
    ∃ done failed rest name reason,
      fixed.due autoOnly snapshot running = done ++ failed :: rest ∧
      outcome = .error (.startFailed name reason) ∧
      callsIn record = done.map (Call.start · none) ++ [.start failed (some reason)] ∧
      fixed.due autoOnly snapshot (flagsAfter running record) = failed :: rest := by
  obtain ⟨timeout, yields⟩ := attempt.yields
  have settled := yields.settle fixed attempt.agrees
  rw [fixed.settle_startPass, yields_bind] at settled
  obtain ⟨first, failure, last, loop, ⟨rfl, rfl⟩, place⟩ := settled
  rw [List.append_nil] at place
  have once := @FixedAnswers.nodup_due fixed snapshot autoOnly running separate
  have called := FixedAnswers.yields_attempts
    (fixed.nodup_components_plan snapshot autoOnly separate) loop (place ▸ attempt.tells.rest)
  rw [← place, fixed.callsIn_rest] at called
  rcases called with ⟨rfl, calls⟩ | ⟨done, failed, rest, reason, parts, rfl, calls⟩
  · have calls : callsIn record =
        (fixed.due autoOnly snapshot running).map (Call.start · none) := by
      rw [calls, FixedAnswers.due, List.map_map]
      rfl
    refine Or.inl ⟨rfl, calls, ?_⟩
    rw [FixedAnswers.due_of_flags fun component => by rw [flagsAfter, calls, flags_started]]
    exact List.filter_eq_nil_iff.mpr fun component there notThere =>
      of_decide_eq_true notThere there
  · have parts : fixed.due autoOnly snapshot running =
        done.map (·.component) ++ failed.component :: rest.map (·.component) := by
      rw [FixedAnswers.due, parts, List.map_append, List.map_cons]
    have calls : callsIn record = (done.map (·.component)).map (Call.start · none) ++
        [.start failed.component (some reason)] := by
      rw [calls, List.map_map]
      rfl
    rw [parts] at once
    have apart := List.disjoint_of_nodup_append once
    have fresh : failed.component ∉ done.map (·.component) :=
      fun there => apart there List.mem_cons_self
    have stopped : running failed.component = false :=
      FixedAnswers.not_running_of_mem_due
        (parts ▸ List.mem_append_right _ List.mem_cons_self)
    refine Or.inr ⟨_, _, _, failed.name, reason, parts, rfl, calls, ?_⟩
    rw [@FixedAnswers.due_of_flags _ _ _ running _ (done.map (·.component)) fun component => ?_,
      parts]
    · rw [List.filter_append, List.filter_eq_nil_iff.mpr, List.nil_append, List.filter_eq_self.mpr]
      · exact fun component there => decide_eq_true fun earlier => apart earlier there
      · exact fun component there notThere => of_decide_eq_true notThere there
    · rw [flagsAfter, calls, flags_failed stopped fresh]

/-- Over failed attempts, what is due at first is what they started and then what is still due. Each
calls what is due in turn, up to the component that fails. -/
theorem FailedAttempts.account {final : Component → Bool} {records : List (List Exchange)}
    (attempts : FailedAttempts fixed snapshot autoOnly running records final)
    (separate : ((WorkingSet.ofList snapshot).members.map (·.component)).Nodup) :
    fixed.due autoOnly snapshot running =
        records.flatMap startedIn ++ fixed.due autoOnly snapshot final ∧
      ∀ before record after, records = before ++ record :: after →
        ∃ tried failed rest reason,
          fixed.due autoOnly snapshot running =
            before.flatMap startedIn ++ tried ++ failed :: rest ∧
          callsIn record = tried.map (Call.start · none) ++ [.start failed (some reason)] := by
  induction attempts with
  | nil running => exact ⟨rfl, fun before record after place => by cases before <;> cases place⟩
  | @cons running final record records error first later inductionHypothesis =>
    rcases first.calls separate with ⟨ended, -⟩ | ⟨done, failed, rest, _, reason, parts, -, calls, left⟩
    · cases ended
    · obtain ⟨still, segments⟩ := inductionHypothesis
      have started : startedIn record = done := by
        rw [startedIn, calls, List.filterMap_append, filterMap_started?]
        exact List.append_nil done
      have whole : fixed.due autoOnly snapshot running =
          done ++ fixed.due autoOnly snapshot (flagsAfter running record) := left ▸ parts
      refine ⟨?_, fun before record after place => ?_⟩
      · rw [whole, List.flatMap_cons, started, List.append_assoc, still]
      · cases before with
        | nil =>
          obtain ⟨rfl, -⟩ := List.cons.inj place
          exact ⟨done, failed, rest, reason, parts, calls⟩
        | cons earlier before =>
          obtain ⟨rfl, rest⟩ := List.cons.inj place
          obtain ⟨tried, failed, rest, reason, later, calls⟩ := segments before _ after rest
          refine ⟨tried, failed, rest, reason, ?_, calls⟩
          rw [whole, later, List.flatMap_cons, started]
          simp only [List.append_assoc]

end

/-! ### Surroundings with fixed answers -/

namespace FixedAnswers

variable (fixed : FixedAnswers) (refusal : Component → Option String)

/-- Surroundings that give the fixed answers, in which a component refuses to start with a reason or
starts at once. They change only in which components run. -/
def answers : (request : Request) → (Component → Bool) → request.Answer × (Component → Bool)
  | .dependencies name, running => (fixed.dependencies name, running)
  | .dependents name, running => (fixed.dependents name, running)
  | .isRunning component, running => (running component, running)
  | .isAutoStartup component, running => (fixed.auto component, running)
  | .phase component, running => (fixed.phase component, running)
  | .start component, running =>
    (refusal component, Function.update running component (refusal component).isNone)
  | .stop _, running => (none, running)
  | .stopAsync _ _, running => (none, running)
  | .barrierMark, running => (0, running)
  | .arrivals _, running => ([], running)
  | .now, running => (0, running)
  | .nextArrival _ _, running => (none, running)
  | .note _, running => ((), running)

theorem agrees_recordOf {Value : Type} (pass : Pass Value) (running : Component → Bool) :
    ∀ exchange ∈ pass.recordOf (fixed.answers refusal) (fun _ => []) (fun _ => 0) running,
      exchange.Agrees fixed := by
  refine forall_recordOf (fun request running answer known => ?_) _ _
  cases request <;> cases known <;> rfl

variable (snapshot : List Member) (autoOnly : Bool) (running : Component → Bool)

/-- The record of a start pass in such surroundings. -/
def startRecord : List Exchange :=
  (startPass snapshot 0 autoOnly).recordOf (fixed.answers refusal) (fun _ => []) (fun _ => 0) running

/-- The outcome of a start pass in such surroundings. -/
def startOutcome : Except LifecycleError Unit :=
  ((startPass snapshot 0 autoOnly).run (fixed.answers refusal) running).1

theorem startAttempt_startRecord :
    StartAttempt fixed snapshot autoOnly running
      (fixed.startRecord refusal snapshot autoOnly running)
      (fixed.startOutcome refusal snapshot autoOnly running) where
  yields := ⟨0, yields_recordOf _ _ _ _ _⟩
  agrees := fixed.agrees_recordOf refusal _ _
  tells := by
    unfold startRecord
    generalize startPass snapshot 0 autoOnly = pass
    induction pass generalizing running with
    | done value => trivial
    | asking request next inductionHypothesis =>
      cases request <;> exact ⟨by trivial, inductionHypothesis _ _⟩

/-- The components that one start pass calls, in the order of its calls, if every one of them starts. -/
def plannedStarts : List Component :=
  startsIn (fixed.startRecord (fun _ => none) snapshot autoOnly running)

end FixedAnswers

/-- A pass in which no start fails calls everything that is due. -/
theorem StartAttempt.calls_of_willing {fixed : FixedAnswers} {snapshot : List Member}
    {autoOnly : Bool} {running : Component → Bool} {record : List Exchange}
    {outcome : Except LifecycleError Unit}
    (attempt : StartAttempt fixed snapshot autoOnly running record outcome)
    (separate : ((WorkingSet.ofList snapshot).members.map (·.component)).Nodup)
    (willing : ∀ component reason, .start component reason ∈ callsIn record → reason = none) :
    callsIn record = (fixed.due autoOnly snapshot running).map (Call.start · none) ∧
      outcome = .ok () := by
  rcases attempt.calls separate with ⟨ended, calls, -⟩ | ⟨done, failed, _, _, reason, -, -, calls, -⟩
  · exact ⟨calls, ended⟩
  · have failing : Call.start failed (some reason) ∈ callsIn record :=
      calls ▸ List.mem_append_right _ (List.mem_singleton.mpr rfl)
    cases willing failed _ failing

theorem FixedAnswers.plannedStarts_eq (fixed : FixedAnswers) (snapshot : List Member)
    (autoOnly : Bool) (running : Component → Bool)
    (separate : ((WorkingSet.ofList snapshot).members.map (·.component)).Nodup) :
    fixed.plannedStarts snapshot autoOnly running = fixed.due autoOnly snapshot running := by
  have willing : ∀ exchange ∈ fixed.startRecord (fun _ => none) snapshot autoOnly running,
      ∀ component reason, exchange.call? = some (.start component reason) → reason = none := by
    refine forall_recordOf (fun request running component reason called => ?_) _ _
    cases request <;> cases called
    rfl
  obtain ⟨calls, -⟩ := (fixed.startAttempt_startRecord (fun _ => none) snapshot autoOnly
    running).calls_of_willing separate fun component reason called => by
      obtain ⟨exchange, there, itsCall⟩ := List.mem_filterMap.mp called
      exact willing exchange there component reason itsCall
  rw [plannedStarts, startsIn, calls, List.filter_map, List.map_map, List.filter_eq_self.mpr]
  · exact List.map_id _
  · exact fun component _ => rfl

/-- Start passes of one mode over one snapshot finish together what one pass would do if every component
started, however often and wherever they fail. That one pass calls each of the components it calls once.
A pass that fails calls a segment of these, which begins with the first component not started yet and
ends with the one that failed. Once a pass does not fail, the components started over all the passes are
just the ones that the single pass would call, in the same order, and a further pass calls none. -/
theorem retries_finish_start {fixed : FixedAnswers} {snapshot : List Member} {autoOnly : Bool}
    {running final : Component → Bool} {failing : List (List Exchange)}
    (separate : ((WorkingSet.ofList snapshot).members.map (·.component)).Nodup)
    (attempts : FailedAttempts fixed snapshot autoOnly running failing final) :
    (fixed.plannedStarts snapshot autoOnly running).Nodup ∧
    (∀ record outcome, StartAttempt fixed snapshot autoOnly running record outcome →
      (∀ component reason, .start component reason ∈ callsIn record → reason = none) →
        callsIn record =
            (fixed.plannedStarts snapshot autoOnly running).map (Call.start · none) ∧
          outcome = .ok ()) ∧
    (∀ before record after, failing = before ++ record :: after →
      ∃ tried failed rest reason,
        fixed.plannedStarts snapshot autoOnly running =
          before.flatMap startedIn ++ tried ++ failed :: rest ∧
        callsIn record = tried.map (Call.start · none) ++ [.start failed (some reason)]) ∧
    ∀ record, StartAttempt fixed snapshot autoOnly final record (.ok ()) →
      (failing ++ [record]).flatMap startedIn =
          fixed.plannedStarts snapshot autoOnly running ∧
        callsIn record = (startedIn record).map (Call.start · none) ∧
        ∀ further outcome,
          StartAttempt fixed snapshot autoOnly (flagsAfter final record) further outcome →
            callsIn further = [] ∧ outcome = .ok () := by
  rw [fixed.plannedStarts_eq snapshot autoOnly running separate]
  obtain ⟨whole, segments⟩ := attempts.account separate
  refine ⟨fixed.nodup_due separate, fun record outcome attempt willing =>
    attempt.calls_of_willing separate willing, segments, fun record success => ?_⟩
  rcases success.calls separate with ⟨-, calls, nothing⟩ | ⟨_, _, _, _, _, -, ended, -⟩
  · have started : startedIn record = fixed.due autoOnly snapshot final := by
      rw [startedIn, calls, filterMap_started?]
    refine ⟨?_, by rw [started, calls], fun further outcome attempt => ?_⟩
    · rw [List.flatMap_append, List.flatMap_cons, List.flatMap_nil, List.append_nil, started, whole]
    · rcases attempt.calls separate with ⟨ended, none, -⟩ | ⟨_, _, _, _, _, parts, -⟩
      · exact ⟨by rw [none, nothing]; rfl, ended⟩
      · rw [nothing] at parts
        exact absurd parts (by simp)
  · cases ended

/-- What a site answers that depends on a database. -/
def siteAnswers : FixedAnswers where
  dependencies := siteDependencies
  dependents := fun _ => []
  phase := sitePhases
  auto := fun _ => true

/-- The site refuses to start. -/
def siteRefusal (component : Component) : Option String :=
  if component.key = "site" then some "no port" else none

/-- The record of a start in which the site refuses. -/
def refusedRecord : List Exchange :=
  siteAnswers.startRecord siteRefusal siteAndDatabase false fun _ => false

/-- The record of a start after the site refused once. -/
def retriedRecord : List Exchange :=
  siteAnswers.startRecord (fun _ => none) siteAndDatabase false
    (flagsAfter (fun _ => false) refusedRecord)

theorem site_start_is_finished :
    startedIn refusedRecord = [⟨"database", .phased⟩] ∧
      startedIn retriedRecord = [⟨"site", .phased⟩] ∧
      siteAnswers.plannedStarts siteAndDatabase false (fun _ => false) =
        startedIn refusedRecord ++ startedIn retriedRecord ∧
      callsIn (siteAnswers.startRecord siteRefusal siteAndDatabase false
        (flagsAfter (flagsAfter (fun _ => false) refusedRecord) retriedRecord)) = [] := by
  have error : siteAnswers.startOutcome siteRefusal siteAndDatabase false (fun _ => false) =
      .error (.startFailed "site" "no port") := by decide +kernel
  have success : siteAnswers.startOutcome (fun _ => none) siteAndDatabase false
      (flagsAfter (fun _ => false) refusedRecord) = .ok () := by decide +kernel
  have refused := siteAnswers.startAttempt_startRecord siteRefusal siteAndDatabase false fun _ => false
  have retried := siteAnswers.startAttempt_startRecord (fun _ => none) siteAndDatabase false
    (flagsAfter (fun _ => false) refusedRecord)
  rw [error] at refused
  rw [success] at retried
  obtain ⟨-, -, -, finished⟩ :=
    retries_finish_start (by decide) (.cons refused (.nil _))
  obtain ⟨whole, -, further⟩ := finished retriedRecord retried
  refine ⟨by decide +kernel, by decide +kernel, whole.symm.trans (congrArg _ (List.append_nil _)), ?_⟩
  exact (further _ _ (siteAnswers.startAttempt_startRecord siteRefusal siteAndDatabase false _)).1

end PhasedLifecycle
