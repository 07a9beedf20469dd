/-
This file shows that the report of a stop pass accounts for every component of the snapshot. The
report is filled from three places: a turn puts on record what its call answered, and the end of a
wait puts on record what it saw of the signals and, if it is late, which of them are open. For each
name a tally counts its entries; the tally of a name changes only in the round of its turn, and there
it becomes what the turn and the fate of its signal tell.
-/

import PhasedLifecycle.Proofs.BarrierCount
import PhasedLifecycle.Proofs.Calls

namespace PhasedLifecycle

open Pass

/-! ### Tallies -/

/-- How often a report has a name among the stopped ones and among the failures, and in how many
entries of phases that reached their timeout. -/
structure Tally where
  stopped : Nat := 0
  failed : Nat := 0
  pending : Nat := 0
  deriving DecidableEq

namespace StopReport

/-- The entries of a report for a name. -/
def tally (report : StopReport) (name : String) : Tally where
  stopped := report.stopped.count name
  failed := report.failures.countP (·.name = name)
  pending := report.timeouts.countP (name ∈ ·.pending)

/-- The report with a dropped signal on record, unless a failure of its name is on record already. -/
def withDropped (report : StopReport) (name : String) : StopReport :=
  if report.hasFailure name then report else report.recordFailure name droppedReason

theorem yields_recordDropped {report result : StopReport} {name : String} {record : List Exchange}
    (yields : (report.recordDropped name).Yields record result) : result = report.withDropped name := by
  unfold recordDropped at yields
  unfold withDropped
  cases known : report.hasFailure name with
  | true =>
    rw [known] at yields
    exact yields.2
  | false =>
    rw [known] at yields
    obtain ⟨_, _, _, rfl, -, rfl⟩ := yields_note_bind.mp yields
    rfl

/-- The report at the end of a round: what it was at the end of the traversal, and what the wait
saw. -/
def settle (report : StopReport) (group : Group) (outcome : BarrierOutcome) : StopReport :=
  let report := outcome.abandoned.foldl withDropped (outcome.completed.foldl recordStopped report)
  if outcome.timedOut && !outcome.pending.isEmpty then
    report.recordTimeout
      { phase := group.phase, timeout := group.timeout, pending := outcome.pending }
  else report

theorem yields_settle {report result : StopReport} {group : Group} {outcome : BarrierOutcome}
    {record : List Exchange} (yields : (group.settle outcome report).Yields record result) :
    result = report.settle group outcome := by
  have dropped : ∀ (names : List String) (report result : StopReport) (record : List Exchange),
      (names.foldlM recordDropped report).Yields record result →
        result = names.foldl withDropped report := by
    intro names
    induction names with
    | nil => exact fun report result record yields => yields.2
    | cons name names inductionHypothesis =>
      intro report result record yields
      obtain ⟨_, middle, _, first, last, -⟩ := yields_foldlM_cons.mp yields
      rw [inductionHypothesis middle result _ last, yields_recordDropped first]
      rfl
  obtain ⟨_, middle, _, drops, ends, -⟩ := yields_bind.mp yields
  rw [settle, ← dropped _ _ _ _ drops]
  cases late : outcome.timedOut && !outcome.pending.isEmpty with
  | true =>
    rw [late] at ends
    obtain ⟨_, _, _, -, -, rfl⟩ := yields_note_bind.mp ends
    rfl
  | false =>
    rw [late] at ends
    exact ends.2

theorem tally_foldl_recordStopped (report : StopReport) (names : List String) (name : String) :
    (names.foldl recordStopped report).tally name =
      { report.tally name with stopped := (report.tally name).stopped + names.count name } := by
  induction names generalizing report with
  | nil => rfl
  | cons first names inductionHypothesis =>
    rw [List.foldl_cons, inductionHypothesis, tally, tally]
    simp only [recordStopped, List.count_append, List.count_cons, List.count_nil]
    congr 1
    omega

theorem hasFailure_iff_tally (report : StopReport) (name : String) :
    report.hasFailure name = true ↔ (report.tally name).failed ≠ 0 := by
  rw [hasFailure_iff, tally, ← Nat.pos_iff_ne_zero, List.countP_pos_iff]
  simp

theorem tally_withDropped (report : StopReport) (dropped name : String) :
    (report.withDropped dropped).tally name =
      if dropped = name ∧ (report.tally name).failed = 0 then { report.tally name with failed := 1 }
      else report.tally name := by
  unfold withDropped
  by_cases known : report.hasFailure dropped = true
  · rw [if_pos known, if_neg]
    rintro ⟨rfl, none⟩
    exact (hasFailure_iff_tally report dropped).mp known none
  · rw [if_neg known]
    by_cases same : dropped = name
    · subst same
      have none : (report.tally dropped).failed = 0 := by
        by_contra some
        exact known ((hasFailure_iff_tally report dropped).mpr some)
      rw [if_pos ⟨rfl, none⟩]
      simp only [tally] at none ⊢
      simp [recordFailure, none]
    · rw [if_neg fun both => same both.1]
      simp [tally, recordFailure, same]

/-- However often a name is dropped, it is recorded once, and only if it was not on record. -/
theorem tally_foldl_withDropped (report : StopReport) (names : List String) (name : String) :
    (names.foldl withDropped report).tally name =
      if name ∈ names ∧ (report.tally name).failed = 0 then { report.tally name with failed := 1 }
      else report.tally name := by
  induction names generalizing report with
  | nil => rw [if_neg fun both => absurd both.1 List.not_mem_nil, List.foldl_nil]
  | cons first names inductionHypothesis =>
    rw [List.foldl_cons, inductionHypothesis, tally_withDropped]
    by_cases same : first = name
    · subst same
      by_cases none : (report.tally first).failed = 0
      · simp [none]
      · simp [none]
    · simp [same, Ne.symm same]

theorem tally_settle (report : StopReport) (group : Group) (outcome : BarrierOutcome)
    (name : String) :
    (report.settle group outcome).tally name =
      { stopped := (report.tally name).stopped + outcome.completed.count name
        failed :=
          if name ∈ outcome.abandoned ∧ (report.tally name).failed = 0 then 1
          else (report.tally name).failed
        pending := (report.tally name).pending +
          if outcome.timedOut = true ∧ name ∈ outcome.pending then 1 else 0 } := by
  have seen : (outcome.abandoned.foldl withDropped
      (outcome.completed.foldl recordStopped report)).tally name =
        { stopped := (report.tally name).stopped + outcome.completed.count name
          failed :=
            if name ∈ outcome.abandoned ∧ (report.tally name).failed = 0 then 1
            else (report.tally name).failed
          pending := (report.tally name).pending } := by
    rw [tally_foldl_withDropped, tally_foldl_recordStopped]
    split <;> rfl
  unfold settle
  cases late : outcome.timedOut && !outcome.pending.isEmpty with
  | true =>
    have inTime : outcome.timedOut = true := (Bool.and_eq_true _ _ ▸ late).1
    have recorded : ∀ (report : StopReport) (timeout : PhaseTimeout),
        (report.recordTimeout timeout).tally name =
          { report.tally name with
            pending := (report.tally name).pending + if name ∈ timeout.pending then 1 else 0 } := by
      intro report timeout
      simp [tally, recordTimeout]
    rw [if_pos rfl, recorded, seen, inTime]
    simp
  | false =>
    have none : ¬ (outcome.timedOut = true ∧ name ∈ outcome.pending) := by
      rintro ⟨timedOut, there⟩
      rw [timedOut, Bool.true_and, Bool.not_eq_false', List.isEmpty_iff] at late
      rw [late] at there
      exact absurd there List.not_mem_nil
    rw [if_neg Bool.false_ne_true, seen, if_neg none, Nat.add_zero]

theorem tally_noteTurn_of_ne (report : StopReport) {turn : Turn} {name : String}
    (other : turn.name ≠ name) : (report.noteTurn turn).tally name = report.tally name := by
  unfold noteTurn
  split
  · simp [tally, recordStopped, other]
  · simp [tally, recordFailure, other]
  · simp [tally, recordFailure, other]
  · rfl

theorem tally_foldl_noteTurn_of_notMem (report : StopReport) {turns : List Turn} {name : String}
    (absent : name ∉ turns.map (·.name)) :
    (turns.foldl noteTurn report).tally name = report.tally name := by
  induction turns generalizing report with
  | nil => rfl
  | cons turn turns inductionHypothesis =>
    rw [List.map_cons, List.mem_cons, not_or] at absent
    rw [List.foldl_cons, inductionHypothesis _ absent.2, tally_noteTurn_of_ne report (Ne.symm absent.1)]

theorem tally_noteTurn_of_clean {report : StopReport} {turn : Turn}
    (clean : report.tally turn.name = {}) :
    (report.noteTurn turn).tally turn.name = (({} : StopReport).noteTurn turn).tally turn.name := by
  obtain ⟨stopped, failed, pending⟩ := Tally.mk.inj clean
  unfold noteTurn
  split <;> simp [tally, recordStopped, recordFailure, stopped, failed, pending]

/-- Of the turns of a traversal, that of a name decides about its entries. -/
theorem tally_foldl_noteTurn_of_mem {report : StopReport} {turns : List Turn} {turn : Turn}
    (once : (turns.map (·.name)).Nodup) (there : turn ∈ turns)
    (clean : report.tally turn.name = {}) :
    (turns.foldl noteTurn report).tally turn.name =
      (({} : StopReport).noteTurn turn).tally turn.name := by
  obtain ⟨front, back, rfl⟩ := List.append_of_mem there
  rw [List.map_append, List.map_cons, List.nodup_middle, List.nodup_cons, List.mem_append,
    not_or] at once
  obtain ⟨⟨notFront, notBack⟩, -⟩ := once
  rw [List.foldl_append, List.foldl_cons, tally_foldl_noteTurn_of_notMem _ notBack]
  exact tally_noteTurn_of_clean ((tally_foldl_noteTurn_of_notMem report notFront).trans clean)

end StopReport

/-! ### The fate of a signal -/

/-- How a signal ended, if it was resolved from the beginning of the traversal of a round to the end
of its wait. A signal that is given out in the traversal cannot have been resolved before. -/
def StopRound.fate (round : StopRound) (signal : Signal) : Option Ending :=
  (((round.traversal ++ round.waiting).flatMap (·.meanwhile)).find? (·.signal = signal)).map
    (·.ending)

theorem StopRound.fate_eq (round : StopRound) (name : String) :
    round.fate { barrier := round.mark, name } =
      ((resolvedIn round.mark (round.traversal ++ round.waiting)).find?
        (·.signal.name = name)).map (·.ending) := by
  have all : resolvedIn round.mark (round.traversal ++ round.waiting) =
      ((round.traversal ++ round.waiting).flatMap (·.meanwhile)).filter
        (·.signal.barrier = round.mark) := by
    rw [List.filter_flatMap]
    rfl
  have agree : (fun resolution : Resolution =>
      decide (decide (resolution.signal.barrier = round.mark) = true ∧
        decide (resolution.signal.name = name) = true)) =
      fun resolution => decide (resolution.signal = { barrier := round.mark, name }) := by
    funext resolution
    obtain ⟨⟨barrier, name'⟩, ending, instant⟩ := resolution
    simp
  rw [all, List.find?_filter, agree]
  rfl

/-- What the wait of a round says of a signal given out in it: one of three things. -/
inductive Witnessed (outcome : BarrierOutcome) (name : String) : Option Ending → Prop
  | completed (completed : outcome.completed.count name = 1) (abandoned : name ∉ outcome.abandoned)
    (pending : name ∉ outcome.pending) : Witnessed outcome name (some .completed)
  | abandoned (completed : outcome.completed.count name = 0) (abandoned : name ∈ outcome.abandoned)
    (pending : name ∉ outcome.pending) : Witnessed outcome name (some .abandoned)
  | pending (completed : outcome.completed.count name = 0) (abandoned : name ∉ outcome.abandoned)
    (timedOut : outcome.timedOut = true) (pending : name ∈ outcome.pending) :
    Witnessed outcome name none

theorem count_endedIn {resolutions : List Resolution}
    (once : (resolutions.map (·.signal.name)).Nodup) (ending : Ending) (name : String) :
    (endedIn ending (resolutions.map Resolution.arrival)).count name =
      if (resolutions.find? (·.signal.name = name)).map (·.ending) = some ending then 1 else 0 := by
  induction resolutions with
  | nil => rfl
  | cons resolution resolutions inductionHypothesis =>
    rw [List.map_cons, List.nodup_cons] at once
    have rest := inductionHypothesis once.2
    have parts : endedIn ending ((resolution :: resolutions).map Resolution.arrival) =
        (if resolution.ending = ending then [resolution.signal.name] else []) ++
          endedIn ending (resolutions.map Resolution.arrival) := by
      rw [List.map_cons, endedIn, List.filter_cons]
      by_cases same : resolution.ending = ending
      · simp [Resolution.arrival, same, endedIn]
      · simp [Resolution.arrival, same, endedIn]
    rw [parts, List.count_append, rest]
    by_cases its : resolution.signal.name = name
    · have absent : resolutions.find? (·.signal.name = name) = none := by
        refine List.find?_eq_none.mpr fun other there same => ?_
        have same : other.signal.name = name := of_decide_eq_true same
        exact once.1 (its ▸ same ▸ List.mem_map_of_mem there)
      rw [List.find?_cons_of_pos (by simpa using its), absent]
      by_cases same : resolution.ending = ending
      · simp [same, its]
      · simp [same]
    · rw [List.find?_cons_of_neg (by simpa using its)]
      by_cases same : resolution.ending = ending
      · simp [same, its]
      · simp [same]

namespace StopRound.Settles

variable {round : StopRound} {start : Surroundings} {name : String}

/-- A signal that was given out in the traversal is completed, dropped or open at the end of the wait,
and the outcome of the wait says so. -/
theorem witnessed (settles : round.Settles start)
    (once : (issuedIn round.mark round.traversal).Nodup)
    (given : name ∈ issuedIn round.mark round.traversal) :
    Witnessed round.outcome name (round.fate { barrier := round.mark, name }) := by
  obtain ⟨resolvedOnce, -, apart⟩ := List.nodup_append.mp (settles.conserved.nodup_iff.mp once)
  have completed := count_endedIn resolvedOnce .completed name
  have abandoned := count_endedIn resolvedOnce .abandoned name
  rw [← settles.completed] at completed
  rw [← settles.abandoned] at abandoned
  rw [round.fate_eq]
  cases found : (resolvedIn round.mark (round.traversal ++ round.waiting)).find?
      (·.signal.name = name) with
  | none =>
    rw [found] at completed abandoned
    have isOpen : name ∈ (start.afterAll round.waiting).openFor round.mark := by
      refine (List.mem_append.mp (settles.conserved.mem_iff.mp given)).resolve_left fun there => ?_
      obtain ⟨resolution, there, same⟩ := List.mem_map.mp there
      exact List.find?_eq_none.mp found resolution there (decide_eq_true same)
    exact .pending completed (List.count_eq_zero.mp abandoned)
      (settles.timedOut.mpr (List.ne_nil_of_mem isOpen)) (settles.pending.mem_iff.mpr isOpen)
  | some resolution =>
    rw [found] at completed abandoned
    have closed : name ∉ round.outcome.pending := by
      intro there
      have isOpen := settles.pending.mem_iff.mp there
      have same : resolution.signal.name = name := by simpa using List.find?_some found
      exact apart name (same ▸ List.mem_map_of_mem (List.mem_of_find?_eq_some found)) name isOpen rfl
    cases ending : resolution.ending with
    | completed =>
      rw [Option.map_some, ending] at completed abandoned ⊢
      exact .completed completed (List.count_eq_zero.mp abandoned) closed
    | abandoned =>
      rw [Option.map_some, ending] at completed abandoned ⊢
      exact .abandoned completed (List.count_pos_iff.mp (by rw [abandoned]; decide)) closed

/-- A name under which no signal was given out is nowhere in the outcome of the wait. -/
theorem unmentioned (settles : round.Settles start)
    (foreign : name ∉ issuedIn round.mark round.traversal) :
    round.outcome.completed.count name = 0 ∧ name ∉ round.outcome.abandoned ∧
      name ∉ round.outcome.pending := by
  have unknown := mt settles.conserved.mem_iff.mpr foreign
  rw [List.mem_append, not_or] at unknown
  have ended : ∀ ending, name ∉ endedIn ending
      ((resolvedIn round.mark (round.traversal ++ round.waiting)).map Resolution.arrival) := by
    intro ending there
    obtain ⟨arrival, arrived, rfl⟩ := List.mem_map.mp there
    obtain ⟨resolution, resolved, rfl⟩ := List.mem_map.mp (List.mem_filter.mp arrived).1
    exact unknown.1 (List.mem_map_of_mem (f := fun news => news.signal.name) resolved)
  refine ⟨List.count_eq_zero.mpr ?_, ?_, fun there => unknown.2 (settles.pending.mem_iff.mp there)⟩
  · rw [settles.completed]
    exact ended .completed
  · rw [settles.abandoned]
    exact ended .abandoned

end StopRound.Settles

/-! ### The account of one component -/

/-- The report accounts for the component of a turn. One that did not run gets no call and is nowhere
in the report. One that ran and is not smart is stopped once, and either stopped or failed. One that
ran and is smart is given one signal, and it is stopped if its signal was completed, a failure if its
signal was dropped, and otherwise pending in one entry; if its call failed it is a failure besides. -/
def StopReport.AccountsFor (report : StopReport) (turn : Turn) (fate : Signal → Option Ending) :
    Prop :=
  (turn.ran = false → turn.calls = [] ∧ report.tally turn.name = {}) ∧
  (turn.ran = true → turn.component.isSmart = false →
    ∃ reason, turn.calls = [.stop turn.component reason] ∧
      report.tally turn.name =
        { stopped := if reason = none then 1 else 0
          failed := if reason ≠ none then 1 else 0 }) ∧
  (turn.ran = true → turn.component.isSmart = true →
    ∃ signal reason, turn.calls = [.stopAsync turn.component signal reason] ∧
      report.tally turn.name =
        { stopped := if fate signal = some .completed then 1 else 0
          failed := if reason ≠ none ∨ fate signal = some .abandoned then 1 else 0
          pending := if fate signal = none then 1 else 0 })

theorem eq_of_same_name {turns : List Turn} (once : (turns.map (·.name)).Nodup) {turn other : Turn}
    (there : turn ∈ turns) (otherThere : other ∈ turns) (same : turn.name = other.name) :
    turn = other :=
  List.inj_on_of_nodup_map once there otherThere same

namespace StopRound.Runs

variable {round : StopRound} {start : Surroundings} {turn : Turn}

theorem mem_issued_iff (runs : round.Runs) (there : turn ∈ round.turns) :
    turn.name ∈ issuedIn round.mark round.traversal ↔ turn.signals = true := by
  obtain ⟨span, -⟩ := runs.span
  rw [span.issued]
  constructor
  · intro given
    obtain ⟨other, marked, same⟩ := List.mem_map.mp given
    obtain ⟨otherThere, signals⟩ := List.mem_filter.mp marked
    rwa [eq_of_same_name span.once there otherThere same.symm]
  · intro signals
    exact List.mem_map_of_mem (List.mem_filter.mpr ⟨there, signals⟩)

theorem after_eq (runs : round.Runs) :
    round.after =
      (round.turns.foldl StopReport.noteTurn round.before).settle round.sorted round.outcome := by
  rw [StopReport.yields_settle runs.settled, runs.span.1.report]

/-- A round leaves the entries of every name whose turn is not in it. -/
theorem tally_of_notMem (runs : round.Runs) (settles : round.Settles start) {name : String}
    (absent : name ∉ round.turns.map (·.name)) : round.after.tally name = round.before.tally name := by
  have foreign : name ∉ issuedIn round.mark round.traversal := by
    intro given
    rw [runs.span.1.issued] at given
    exact absent ((List.filter_sublist.map _).subset given)
  obtain ⟨completed, abandoned, pending⟩ := settles.unmentioned foreign
  rw [runs.after_eq, StopReport.tally_settle,
    StopReport.tally_foldl_noteTurn_of_notMem _ absent, completed, if_neg fun both => abandoned both.1,
    if_neg fun both => pending both.2]
  rfl

/-- A round accounts for each component whose turn is in it. -/
theorem accountsFor (runs : round.Runs) (settles : round.Settles start)
    (there : turn ∈ round.turns) (clean : round.before.tally turn.name = {}) :
    round.after.AccountsFor turn round.fate := by
  obtain ⟨span, -⟩ := runs.span
  have spoken := StopReport.tally_foldl_noteTurn_of_mem span.once there clean
  have kind := span.kinds turn there
  have given := runs.mem_issued_iff there
  rw [runs.after_eq]
  have tally := StopReport.tally_settle (round.turns.foldl StopReport.noteTurn round.before)
    round.sorted round.outcome turn.name
  rw [spoken] at tally
  cases kind with
  | idle name component =>
    have foreign : name ∉ issuedIn round.mark round.traversal := fun there => by
      simp [Turn.signals] at given
      exact given there
    obtain ⟨completed, abandoned, pending⟩ := settles.unmentioned foreign
    refine ⟨fun _ => ⟨rfl, ?_⟩, fun ran => Bool.noConfusion ran, fun ran => Bool.noConfusion ran⟩
    rw [tally]
    simp [StopReport.noteTurn, StopReport.tally, completed, abandoned, pending]
  | stopping name component reason waits =>
    have foreign : name ∉ issuedIn round.mark round.traversal := fun there => by
      simp [Turn.signals, waits] at given
      exact given there
    obtain ⟨completed, abandoned, pending⟩ := settles.unmentioned foreign
    refine ⟨fun idle => Bool.noConfusion idle, fun _ _ => ⟨reason, rfl, ?_⟩, fun _ smart => ?_⟩
    · rw [tally]
      cases reason <;> simp [StopReport.noteTurn, StopReport.tally, StopReport.recordStopped,
        StopReport.recordFailure, completed, abandoned, pending]
    · rw [waits] at smart
      exact Bool.noConfusion smart
  | signalling name component reason smart =>
    have once : (issuedIn round.mark round.traversal).Nodup :=
      span.issued ▸ span.once.sublist (List.filter_sublist.map _)
    have witnessed := settles.witnessed once (given.mpr (by simp [Turn.signals, smart]))
    refine ⟨fun idle => Bool.noConfusion idle, fun _ waits => ?_, fun _ _ => ⟨_, reason, rfl, ?_⟩⟩
    · rw [smart] at waits
      exact Bool.noConfusion waits
    · rw [tally]
      dsimp only at witnessed ⊢
      generalize round.fate { barrier := round.mark, name } = fate at witnessed ⊢
      cases witnessed with
      | completed completed abandoned pending =>
        cases reason <;> simp [StopReport.noteTurn, StopReport.tally, StopReport.recordFailure,
          completed, abandoned, pending]
      | abandoned completed abandoned pending =>
        cases reason <;> simp [StopReport.noteTurn, StopReport.tally, StopReport.recordFailure,
          completed, abandoned, pending]
      | pending completed abandoned timedOut pending =>
        cases reason <;> simp [StopReport.noteTurn, StopReport.tally, StopReport.recordFailure,
          completed, abandoned, timedOut, pending]

end StopRound.Runs

/-! ### The turns of a whole pass -/

/-- Rounds without a turn of a name leave its entries as they are. -/
theorem StopRounds.tally_of_notMem {groups : List Group} {left laterLeft : WorkingSet}
    {before after : StopReport} {rounds : List StopRound}
    (chained : StopRounds groups left before rounds laterLeft after)
    (settles : ∀ round ∈ rounds, ∃ start, round.Settles start) {name : String}
    (absent : name ∉ (rounds.flatMap StopRound.turns).map (·.name)) :
    after.tally name = before.tally name := by
  induction chained with
  | nil left report => rfl
  | @cons round groups rounds left report runs rest inductionHypothesis =>
    rw [List.flatMap_cons, List.map_append, List.mem_append, not_or] at absent
    obtain ⟨start, settled⟩ := settles round List.mem_cons_self
    rw [inductionHypothesis (fun other there => settles other (List.mem_cons_of_mem _ there)) absent.2]
    exact runs.tally_of_notMem settled absent.1

namespace StopHistory

variable {snapshot : List Member} {timeout : Nat} (history : StopHistory snapshot timeout)

/-- Where each component has one name, the calls to it are those of its turn. -/
theorem calls_of_mem (once : (snapshot.map (·.name)).Nodup)
    (apart : (snapshot.map (·.component)).Nodup) {turn : Turn}
    (there : turn ∈ history.rounds.flatMap StopRound.turns) :
    (callsIn history.record).filter (·.component = turn.component) = turn.calls := by
  rw [← history.turnsIn_record] at there
  refine filter_callsIn history.strays_record ?_ there
  rw [history.turnsIn_record]
  exact (perm_components (history.perm_members once)).nodup_iff.mpr apart

/-- The report of the pass accounts for the component of each turn. -/
theorem accountsFor (few : snapshot.length < 0x10000000000000000)
    (once : (snapshot.map (·.name)).Nodup) {surroundings : Surroundings}
    (follows : surroundings.Follows history.record) {round : StopRound}
    (inRounds : round ∈ history.rounds) {turn : Turn} (there : turn ∈ round.turns) :
    history.report.AccountsFor turn round.fate := by
  have settles : ∀ round ∈ history.rounds, ∃ start, round.Settles start := by
    intro round inRounds
    obtain ⟨earlier, later, place⟩ := List.append_of_mem inRounds
    exact ⟨_, history.settles few once place follows⟩
  have onceTurn := history.chained.once_and_drawn.1
  obtain ⟨earlier, later, place⟩ := List.append_of_mem inRounds
  obtain ⟨start, settled⟩ := settles round inRounds
  rw [place] at settles onceTurn
  obtain ⟨_, _, _, front, runs, back⟩ := (place ▸ history.chained).split
  rw [List.flatMap_append, List.flatMap_cons, List.map_append, List.map_append, List.nodup_append,
    List.nodup_append] at onceTurn
  obtain ⟨-, ⟨-, -, apartLater⟩, apartEarlier⟩ := onceTurn
  have named : turn.name ∈ round.turns.map (·.name) := List.mem_map_of_mem there
  have clean : round.before.tally turn.name = {} :=
    front.tally_of_notMem (fun other inside => settles other (List.mem_append_left _ inside))
      fun early => apartEarlier _ early _ (List.mem_append_left _ named) rfl
  have kept : history.report.tally turn.name = round.after.tally turn.name :=
    back.tally_of_notMem
      (fun other inside => settles other (List.mem_append_right _ (List.mem_cons_of_mem _ inside)))
      fun late => apartLater _ named _ late rfl
  have account := runs.accountsFor settled there clean
  unfold StopReport.AccountsFor at account ⊢
  rw [kept]
  exact account

end StopHistory

/-- The report of a stop pass accounts for every component of the snapshot, whatever the edges and
the phases are and whatever components answer, if each name is listed once and each component under
one name. The turns of the pass are one for each listed component; the calls to it in the whole
record are those of its turn; and what the report has under its name is what its turn and the fate of
its signal, up to the end of the wait of its round, tell. -/
theorem stopPass_accounts_for_every_component {snapshot : List Member} {timeout : Nat}
    {record : List Exchange} {report : StopReport} {surroundings : Surroundings}
    (few : snapshot.length < 0x10000000000000000) (once : (snapshot.map (·.name)).Nodup)
    (apart : (snapshot.map (·.component)).Nodup)
    (yields : (stopPass snapshot timeout).Yields record report)
    (follows : surroundings.Follows record) :
    ∃ history : StopHistory snapshot timeout, history.record = record ∧ history.report = report ∧
      ((turnsIn record).map Turn.member).Perm snapshot ∧
      ∀ member ∈ snapshot, ∃ round ∈ history.rounds, ∃ turn ∈ round.turns,
        turn ∈ turnsIn record ∧ turn.member = member ∧
        (callsIn record).filter (·.component = member.component) = turn.calls ∧
        report.AccountsFor turn round.fate := by
  obtain ⟨history, rfl, rfl⟩ := exists_stopHistory yields
  refine ⟨history, rfl, rfl, ?_, fun member listed => ?_⟩
  · rw [history.turnsIn_record]
    exact history.perm_members once
  · obtain ⟨turn, there, rfl⟩ := history.exists_turn once listed
    obtain ⟨round, inRounds, inRound⟩ := List.mem_flatMap.mp there
    refine ⟨round, inRounds, turn, inRound, ?_, rfl, history.calls_of_mem once apart there,
      history.accountsFor few once follows inRounds inRound⟩
    rw [history.turnsIn_record]
    exact there

/-- A cache that does not run, a queue that stops in the background, and a site that needs both. -/
def shop : List Member :=
  [⟨"cache", ⟨"cache", .plain⟩⟩, ⟨"queue", ⟨"queue", .smart⟩⟩, ⟨"site", ⟨"site", .plain⟩⟩]

def shopHabits : Habits where
  dependents name := if name = "site" then [] else ["site"]
  phase _ := 0

def shopRunning : List Component :=
  [⟨"queue", .smart⟩, ⟨"site", .plain⟩]

def shopRecord : List Exchange :=
  shopHabits.record shopRunning (stopPass shop 100)

def shopReport : StopReport :=
  shopHabits.value shopRunning (stopPass shop 100)

theorem shop_is_accounted_for :
    (turnsIn shopRecord).map (fun turn => (turn.name, turn.ran)) =
      [("site", true), ("cache", false), ("queue", true)] ∧
    shopReport.stopped = ["site", "queue"] ∧
    ∃ history : StopHistory shop 100, history.record = shopRecord ∧
      ∀ member ∈ shop, ∃ round ∈ history.rounds, ∃ turn ∈ round.turns,
        turn ∈ turnsIn shopRecord ∧ turn.member = member ∧
        (callsIn shopRecord).filter (·.component = member.component) = turn.calls ∧
        shopReport.AccountsFor turn round.fate := by
  obtain ⟨history, record, -, -, accounts⟩ :=
    stopPass_accounts_for_every_component (by decide) (by decide) (by decide)
      (shopHabits.yields_record shopRunning (stopPass shop 100))
      (shopHabits.follows_record shopRunning (stopPass shop 100))
  exact ⟨by cbv, by cbv, history, record, accounts⟩

end PhasedLifecycle
