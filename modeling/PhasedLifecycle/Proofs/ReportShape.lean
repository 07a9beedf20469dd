/-
This file reads the report of a stop pass as a picture of the pass. Its entries of phases that reached
their timeout come in descending order of the phases, each with the timeout that the pass began with,
and no name is in two of them. Its stopped names are those of one round after the other: first the ones
whose call came back in the traversal of the round, in the order of the calls, and then the ones whose
signal was completed by the end of its wait, in the order of their completions.

A name is in the round of the highest phase that has drawn it, not in that of its own phase. So the list
follows the phases only where no component draws one of a lower phase; then every round has turns for
names of its own phase, since those of higher phases have had theirs.
-/

import PhasedLifecycle.Proofs.PhaseBarrier
import PhasedLifecycle.Proofs.PhaseOrder
import PhasedLifecycle.Proofs.WaitOutcome

namespace PhasedLifecycle

open Pass

/-! ### Names that are listed as open -/

namespace WaitingList

variable {mark : Nat} {list : WaitingList} {given : List String}

/-- A waiting list has open names among those given, and none of them twice. -/
def IsAmong (given : List String) (list : WaitingList) : Prop :=
  list.unresolved.Nodup ∧ ∀ name ∈ list.unresolved, name ∈ given

theorem IsAmong.enterAll (among : list.IsAmong given) {names : List String}
    (inside : ∀ name ∈ names, name ∈ given) : (names.foldl enter list).IsAmong given := by
  induction names generalizing list with
  | nil => exact among
  | cons first names inductionHypothesis =>
    refine inductionHypothesis ⟨nodup_unresolved_enter among.1 first, fun name there => ?_⟩
      fun name there => inside name (List.mem_cons_of_mem _ there)
    rcases mem_unresolved_enter.mp there with there | rfl
    · exact among.2 name there
    · exact inside name List.mem_cons_self

theorem IsAmong.resolveAll (among : list.IsAmong given) (arrivals : List Arrival) :
    (arrivals.foldl resolve list).IsAmong given := by
  rw [foldl_resolve]
  exact ⟨among.1.sublist List.filter_sublist,
    fun name there => among.2 name (List.mem_filter.mp there).1⟩

theorem IsAmong.readAll (among : list.IsAmong given) {record : List Exchange}
    (inside : ∀ name ∈ issuedIn mark record, name ∈ given) :
    (list.readAll mark record).IsAmong given := by
  induction record generalizing list with
  | nil => exact among
  | cons exchange record inductionHypothesis =>
    refine inductionHypothesis ((among.enterAll fun name there => ?_).resolveAll _)
      fun name there => ?_
    · exact inside name (List.mem_flatMap.mpr ⟨exchange, List.mem_cons_self, there⟩)
    · exact inside name (List.mem_append_right _ there)

end WaitingList

/-! ### The entries of phases that reached their timeout -/

/-- How a report lists the phases that reached their timeout. -/
structure StopReport.ListsTimeouts (report : StopReport) (timeout : Nat) : Prop where
  descending : report.timeouts.Pairwise fun first second => second.phase < first.phase
  same : ∀ entry ∈ report.timeouts, entry.timeout = timeout
  occupied : ∀ entry ∈ report.timeouts, entry.pending ≠ []
  sorted : ∀ entry ∈ report.timeouts, entry.pending.Pairwise (· < ·)
  apart : report.timeouts.Pairwise fun first second => first.pending.Disjoint second.pending
  once : report.pending.Nodup

namespace StopRound.Runs

variable {round : StopRound}

theorem mem_names_turns_of_issued (runs : round.Runs) {name : String}
    (given : name ∈ issuedIn round.mark round.traversal) : name ∈ round.turns.map (·.name) := by
  rw [runs.span.1.issued] at given
  exact (List.filter_sublist.map _).subset given

/-- What a round reports as open is sorted, and had its turn in the round. -/
theorem pending (runs : round.Runs) :
    round.outcome.pending.Pairwise (· < ·) ∧
      ∀ name ∈ round.outcome.pending, name ∈ round.turns.map (·.name) := by
  obtain ⟨span, -⟩ := runs.span
  obtain ⟨_, _, _, _, arrivals, _, -, -, ends⟩ := Barrier.yields_await runs.awaited
  have begun : ({} : WaitingList).IsAmong (round.turns.map (·.name)) :=
    ⟨List.nodup_nil, fun name there => absurd there List.not_mem_nil⟩
  have list : round.stopping.barrier.list = ({} : WaitingList).readAll round.mark round.traversal :=
    span.list
  have among := (begun.readAll fun name given => runs.mem_names_turns_of_issued given).resolveAll arrivals
  rw [← list] at among
  rw [ends.pending]
  exact ⟨pairwise_sortedNames among.1,
    fun name there => among.2 name ((List.mergeSort_perm _ _).mem_iff.mp there)⟩

theorem overdue_eq (runs : round.Runs) {entry : PhaseTimeout} (there : entry ∈ round.overdue) :
    entry = ⟨round.group.phase, round.group.timeout, round.outcome.pending⟩ ∧
      round.outcome.pending ≠ [] := by
  unfold StopRound.overdue at there
  split at there
  · rename_i late
    rw [List.mem_singleton.mp there, runs.rearranged.phase, runs.rearranged.timeout]
    rw [Bool.and_eq_true, Bool.not_eq_true', ← Bool.not_eq_true, List.isEmpty_iff] at late
    exact ⟨rfl, late.2⟩
  · exact absurd there List.not_mem_nil

end StopRound.Runs

namespace StopHistory

variable {snapshot : List Member} {timeout : Nat} (history : StopHistory snapshot timeout)
  {earlier later : List StopRound} {round : StopRound}

/-- No name has turns in two rounds. -/
theorem disjoint_rounds :
    history.rounds.Pairwise fun first second =>
      (first.turns.map (·.name)).Disjoint (second.turns.map (·.name)) := by
  have once := history.chained.once_and_drawn.1
  rw [List.map_flatMap, List.nodup_flatMap] at once
  exact once.2

/-- What holds of the rounds in their order holds of their entries, of which each round has one at most. -/
theorem listsTimeouts : history.report.ListsTimeouts timeout := by
  have entries : history.report.timeouts = history.rounds.flatMap StopRound.overdue := by
    rw [history.chained.timeouts_eq, List.nil_append]
  have own : ∀ entry ∈ history.report.timeouts, ∃ round ∈ history.rounds,
      entry = ⟨round.group.phase, round.group.timeout, round.outcome.pending⟩ ∧
        round.outcome.pending ≠ [] := by
    intro entry there
    rw [entries] at there
    obtain ⟨round, inRounds, overdue⟩ := List.mem_flatMap.mp there
    exact ⟨round, inRounds, (history.runs_of_mem inRounds).overdue_eq overdue⟩
  have pairs : ∀ relates : PhaseTimeout → PhaseTimeout → Prop,
      (history.rounds.Pairwise fun first second => relates
        ⟨first.group.phase, first.group.timeout, first.outcome.pending⟩
        ⟨second.group.phase, second.group.timeout, second.outcome.pending⟩) →
      history.report.timeouts.Pairwise relates := by
    intro relates ordered
    rw [entries, List.pairwise_flatMap]
    refine ⟨fun round _ => ?_, ordered.imp_of_mem fun {first second} inRounds inOthers holds =>
      fun entry there other otherThere => ?_⟩
    · unfold StopRound.overdue
      split
      · exact List.pairwise_singleton _ _
      · exact List.Pairwise.nil
    · rw [((history.runs_of_mem inRounds).overdue_eq there).1,
        ((history.runs_of_mem inOthers).overdue_eq otherThere).1]
      exact holds
  have sorted : ∀ entry ∈ history.report.timeouts, entry.pending.Pairwise (· < ·) := by
    intro entry there
    obtain ⟨round, inRounds, rfl, -⟩ := own entry there
    exact (history.runs_of_mem inRounds).pending.1
  have apart : history.report.timeouts.Pairwise fun first second =>
      first.pending.Disjoint second.pending := by
    refine pairs _ (history.disjoint_rounds.imp_of_mem fun inRounds inOthers disjoint =>
      fun name there otherThere => ?_)
    exact disjoint ((history.runs_of_mem inRounds).pending.2 name there)
      ((history.runs_of_mem inOthers).pending.2 name otherThere)
  refine ⟨pairs _ history.descending_rounds, fun entry there => ?_, fun entry there => ?_, sorted,
    apart, ?_⟩
  · obtain ⟨round, inRounds, rfl, -⟩ := own entry there
    exact (settings_of_groupSnapshot history.gathered _ (history.group_mem inRounds)).1
  · obtain ⟨round, inRounds, rfl, occupied⟩ := own entry there
    exact occupied
  · refine List.nodup_flatMap.mpr ⟨fun entry there => ?_, apart⟩
    exact (sorted entry there).nodup

end StopHistory

/-! ### The stopped names of a round -/

/-- The turn stopped its component. -/
def Turn.isStopped (turn : Turn) : Bool :=
  turn.calls = [.stop turn.component none]

namespace StopRound

/-- The names whose signal was completed from the beginning of the traversal to the end of the wait, in
the order of the completions. -/
def completed (round : StopRound) : List String :=
  endedIn .completed ((resolvedIn round.mark (round.traversal ++ round.waiting)).map Resolution.arrival)

/-- The names that were stopped in a round: those whose call came back without a failure, in the order of
the calls, and then those whose signal was completed. -/
def stopped (round : StopRound) : List String :=
  (round.turns.filter Turn.isStopped).map (·.name) ++ round.completed

/-- Who the stopped names of a round stand for. -/
structure NamesStopped (snapshot : List Member) (round : StopRound) : Prop where
  /-- The calls of the traversal are those of the turns, in their order. -/
  calls : callsIn round.traversal = round.turns.flatMap (·.calls)
  drawn : ∀ turn ∈ round.turns,
    (WorkingSet.ofList snapshot).get? turn.name = some turn.component
  waits : ∀ turn ∈ round.turns, turn.isStopped = true → turn.component.isSmart = false
  /-- A completed signal was given out in the round, to a smart component. -/
  signalled : ∀ name ∈ round.completed, ∃ turn ∈ round.turns, ∃ reason,
    turn.name = name ∧ turn.component.isSmart = true ∧
      turn.calls = [.stopAsync turn.component { barrier := round.mark, name } reason]

end StopRound

namespace StopReport

theorem stopped_withDropped (report : StopReport) (name : String) :
    (report.withDropped name).stopped = report.stopped := by
  unfold withDropped
  split <;> rfl

theorem stopped_foldl_noteTurn {mark : Nat} (report : StopReport) {turns : List Turn}
    (kinds : ∀ turn ∈ turns, StopTurn mark turn) :
    (turns.foldl noteTurn report).stopped =
      report.stopped ++ (turns.filter Turn.isStopped).map (·.name) := by
  induction turns generalizing report with
  | nil => exact (List.append_nil _).symm
  | cons turn turns inductionHypothesis =>
    have noted : (report.noteTurn turn).stopped =
        report.stopped ++ ([turn].filter Turn.isStopped).map (·.name) := by
      cases kinds turn List.mem_cons_self with
      | idle name component => simp [noteTurn, Turn.isStopped]
      | stopping name component reason waits =>
        cases reason <;> simp [noteTurn, Turn.isStopped, recordStopped, recordFailure]
      | signalling name component reason smart =>
        cases reason <;> simp [noteTurn, Turn.isStopped, recordFailure]
    rw [List.foldl_cons, inductionHypothesis _ fun turn there => kinds turn (List.mem_cons_of_mem _ there),
      noted, List.append_assoc, ← List.map_append, ← List.filter_append, List.singleton_append]

theorem stopped_settle (report : StopReport) (group : Group) (outcome : BarrierOutcome) :
    (report.settle group outcome).stopped = report.stopped ++ outcome.completed := by
  have completed : ∀ (names : List String) (report : StopReport),
      (names.foldl recordStopped report).stopped = report.stopped ++ names := by
    intro names
    induction names with
    | nil => exact fun report => (List.append_nil _).symm
    | cons name names inductionHypothesis =>
      intro report
      rw [List.foldl_cons, inductionHypothesis]
      exact List.append_assoc _ _ _
  have abandoned : ∀ (names : List String) (report : StopReport),
      (names.foldl withDropped report).stopped = report.stopped := by
    intro names
    induction names with
    | nil => exact fun report => rfl
    | cons name names inductionHypothesis =>
      intro report
      rw [List.foldl_cons, inductionHypothesis, stopped_withDropped]
  unfold settle
  split
  · rw [recordTimeout, abandoned, completed]
  · rw [abandoned, completed]

end StopReport

/-- If at least the signals given out are awaited, a wait hears of every signal that is resolved by its
end. -/
theorem StopRound.Waits.completed {round : StopRound} {start : Surroundings} {rest : List Exchange}
    {arrivals : List Arrival} {expired : Bool} (waits : round.Waits start rest arrivals expired)
    (ledger : round.Ledger start arrivals)
    (enough : (issuedIn round.mark round.traversal).length ≤ round.stopping.barrier.remaining) :
    round.outcome.completed = round.completed := by
  have mailLength := congrArg List.length ledger.mail
  have opensLength := ledger.opens.length_eq
  simp only [List.length_map, List.length_append] at mailLength opensLength
  have heard : (start.afterAll round.waiting).mailFor round.mark = [] := by
    cases expired with
    | true =>
      rw [waits.finish]
      exact ((waits.awaits.clock_of_expired waits.goesOn (Nat.le_add_right _ _)).2 rfl).2
    | false =>
      have taken := waits.ends.enough rfl
      dsimp only at taken
      rw [List.length_append] at taken
      exact List.eq_nil_of_length_eq_zero (by omega)
  have mail := ledger.mail
  rw [heard, List.map_nil, List.append_nil] at mail
  rw [waits.ends.completed, StopRound.completed, mail, List.take_of_length_le]
  · rfl
  · dsimp only
    rw [List.length_append]
    omega

namespace StopHistory

variable {snapshot : List Member} {timeout : Nat} (history : StopHistory snapshot timeout)
  {earlier later : List StopRound} {round : StopRound}

/-- The wait of a round puts those on record whose signal was completed, and each of these signals was
given out in the round. -/
theorem completed_round (few : snapshot.length < 0x10000000000000000)
    {surroundings : Surroundings} (follows : surroundings.Follows history.record)
    (inRounds : round ∈ history.rounds) :
    round.outcome.completed = round.completed ∧
      ∀ name ∈ round.completed, name ∈ issuedIn round.mark round.traversal := by
  obtain ⟨earlier, later, place⟩ := List.append_of_mem inRounds
  obtain ⟨rest, arrivals, expired, waits, ledger, enough⟩ := history.exists_waits few place follows
  refine ⟨waits.completed ledger enough, fun name there => ?_⟩
  obtain ⟨arrival, arrived, rfl⟩ := List.mem_map.mp there
  obtain ⟨resolution, resolved, rfl⟩ := List.mem_map.mp (List.mem_filter.mp arrived).1
  exact ledger.opens.mem_iff.mpr
    (List.mem_append_left _ (List.mem_map_of_mem (f := fun news => news.signal.name) resolved))

theorem namesStopped (few : snapshot.length < 0x10000000000000000)
    {surroundings : Surroundings} (follows : surroundings.Follows history.record)
    (inRounds : round ∈ history.rounds) : round.NamesStopped snapshot := by
  have runs := history.runs_of_mem inRounds
  obtain ⟨span, -⟩ := runs.span
  refine ⟨runs.callsIn_traversal, fun turn there => ?_, fun turn there stops => ?_,
    fun name there => ?_⟩
  · exact history.chained.once_and_drawn.2 turn (List.mem_flatMap.mpr ⟨round, inRounds, there⟩)
  · cases span.kinds turn there with
    | idle name component => simp [Turn.isStopped] at stops
    | stopping name component reason waits => exact waits
    | signalling name component reason smart => simp [Turn.isStopped] at stops
  · have given := (history.completed_round few follows inRounds).2 name there
    rw [span.issued] at given
    obtain ⟨turn, marked, rfl⟩ := List.mem_map.mp given
    obtain ⟨inTurns, signals⟩ := List.mem_filter.mp marked
    refine ⟨turn, inTurns, ?_⟩
    cases span.kinds turn inTurns with
    | idle name component => simp [Turn.signals] at signals
    | stopping name component reason waits => simp [Turn.signals, waits] at signals
    | signalling name component reason smart => exact ⟨reason, rfl, smart, rfl⟩

/-- The stopped names are those of the rounds, one round after the other. -/
theorem stopped_eq (few : snapshot.length < 0x10000000000000000)
    {surroundings : Surroundings} (follows : surroundings.Follows history.record) :
    history.report.stopped = history.rounds.flatMap StopRound.stopped := by
  have after : ∀ round ∈ history.rounds,
      round.after.stopped = round.before.stopped ++ round.stopped := by
    intro round inRounds
    have runs := history.runs_of_mem inRounds
    rw [runs.after_eq, StopReport.stopped_settle, StopReport.stopped_foldl_noteTurn _ runs.span.1.kinds,
      (history.completed_round few follows inRounds).1, List.append_assoc, StopRound.stopped]
  have all : ∀ {groups : List Group} {left laterLeft : WorkingSet} {before report : StopReport}
      {rounds : List StopRound}, StopRounds groups left before rounds laterLeft report →
      (∀ round ∈ rounds, round.after.stopped = round.before.stopped ++ round.stopped) →
      report.stopped = before.stopped ++ rounds.flatMap StopRound.stopped := by
    intro groups left laterLeft before report rounds chained after
    induction chained with
    | nil left report => exact (List.append_nil _).symm
    | cons runs rest inductionHypothesis =>
      rw [inductionHypothesis fun round there => after round (List.mem_cons_of_mem _ there),
        after _ List.mem_cons_self, List.flatMap_cons, List.append_assoc]
  exact all history.chained after

/-- A stopped name had its turn in its round. -/
theorem mem_names_turns_of_stopped (few : snapshot.length < 0x10000000000000000)
    {surroundings : Surroundings} (follows : surroundings.Follows history.record)
    (inRounds : round ∈ history.rounds) {name : String} (there : name ∈ round.stopped) :
    name ∈ round.turns.map (·.name) := by
  rcases List.mem_append.mp there with called | completed
  · exact (List.filter_sublist.map _).subset called
  · exact (history.runs_of_mem inRounds).mem_names_turns_of_issued
      ((history.completed_round few follows inRounds).2 name completed)

end StopHistory

/-! ### Names that are not drawn below their phases -/

/-- An exchange in which no listed name is answered that depends on a name of a higher rank. -/
def Exchange.RanksDependents (rank : String → Int) (listed : List String) : Exchange → Prop
  | ⟨.dependents name, dependents, _, _⟩ =>
    ∀ dependent ∈ dependents, dependent ∈ listed → rank name ≤ rank dependent
  | _ => True

/-- What one working set has more than another ranks no lower than a bound. -/
def WorkingSet.LosesFrom (rank : String → Int) (bound : Int) (before after : WorkingSet) : Prop :=
  (∀ name ∈ after.names, name ∈ before.names) ∧
    ∀ name ∈ before.names, name ∉ after.names → bound ≤ rank name

section

variable {rank : String → Int} {bound : Int} {listed members : List String}

theorem WorkingSet.LosesFrom.refl (set : WorkingSet) : set.LosesFrom rank bound set :=
  ⟨fun _ there => there, fun _ there gone => absurd there gone⟩

theorem WorkingSet.LosesFrom.trans {before middle after : WorkingSet}
    (head : before.LosesFrom rank bound middle) (tail : middle.LosesFrom rank bound after) :
    before.LosesFrom rank bound after := by
  refine ⟨fun name there => head.1 name (tail.1 name there), fun name there gone => ?_⟩
  by_cases still : name ∈ middle.names
  · exact tail.2 name still gone
  · exact head.2 name there still

theorem WorkingSet.losesFrom_erase (set : WorkingSet) {name : String} (above : bound ≤ rank name) :
    set.LosesFrom rank bound (set.erase name) := by
  refine ⟨fun other there => ((mem_names_erase _ _ _).mp there).1, fun other there gone => ?_⟩
  by_cases same : other = name
  · rw [same]
    exact above
  · exact absurd ((mem_names_erase _ _ _).mpr ⟨there, same⟩) gone

namespace Stopping

variable {before after : Stopping} {record : List Exchange}

/-- Steps that each take out names of a high rank do so together. -/
theorem losesFrom_foldlM {Entry : Type} {step : Stopping → Entry → Pass Stopping} {entries : List Entry}
    (within : ∀ name ∈ before.left.names, name ∈ listed)
    (ranks : ∀ exchange ∈ record, exchange.RanksDependents rank listed)
    (each : ∀ entry ∈ entries, ∀ {state next : Stopping} {round : List Exchange},
      (∀ name ∈ state.left.names, name ∈ listed) →
      (∀ exchange ∈ round, exchange.RanksDependents rank listed) →
      (step state entry).Yields round next → state.left.LosesFrom rank bound next.left)
    (yields : (entries.foldlM step before).Yields record after) :
    before.left.LosesFrom rank bound after.left := by
  refine foldlM_induction
    (motive := fun done record state => (∀ entry ∈ done, entry ∈ entries) →
      (∀ exchange ∈ record, exchange.RanksDependents rank listed) →
      before.left.LosesFrom rank bound state.left)
    (fun _ _ => .refl _) (fun done entry early state round next holds goes inside ranks => ?_) yields
    (fun entry there => there) ranks
  have head := holds (fun entry there => inside entry (List.mem_append_left _ there))
    fun exchange there => ranks exchange (List.mem_append_left _ there)
  exact head.trans (each entry (inside entry (List.mem_append_right _ List.mem_cons_self))
    (fun name there => within name (head.1 name there))
    (fun exchange there => ranks exchange (List.mem_append_right _ there)) goes)

/-- Going down from a name takes out no name of a lower rank. The name itself goes first, then what its
dependents lead to; its turn takes out nothing more. -/
theorem losesFrom_visit {depth : Nat} {name : String}
    (within : ∀ name ∈ before.left.names, name ∈ listed)
    (ranks : ∀ exchange ∈ record, exchange.RanksDependents rank listed)
    (above : name ∈ listed → bound ≤ rank name)
    (yields : (visit members depth before name).Yields record after) :
    before.left.LosesFrom rank bound after.left := by
  induction depth generalizing before after record name with
  | zero =>
    obtain ⟨-, rfl⟩ := yields
    exact .refl _
  | succ depth inductionHypothesis =>
    cases found : before.left.get? name with
    | none =>
      rw [visit, found] at yields
      obtain ⟨-, rfl⟩ := yields
      exact .refl _
    | some component =>
      have high := above (within name (WorkingSet.mem_names_of_get? found))
      rw [visit, found] at yields
      obtain ⟨dependents, resolved, instant, rest, rfl, answered⟩ := yields_ask_bind.mp yields
      obtain ⟨below, middle, last, descended, turned, rfl⟩ := yields_bind.mp answered
      have raised : ∀ dependent ∈ dependents, dependent ∈ listed → rank name ≤ rank dependent :=
        ranks _ List.mem_cons_self
      have head := before.left.losesFrom_erase high
      have tail := losesFrom_foldlM (fun other there => within other (head.1 other there))
        (fun exchange there => ranks exchange (List.mem_cons_of_mem _ (List.mem_append_left _ there)))
        (fun dependent there {state next round} within ranks goes => inductionHypothesis within ranks
          (fun inside => high.trans (raised dependent there inside)) goes) descended
      obtain ⟨turn, -, -, own⟩ := yields_turn turned
      rw [own.left]
      exact head.trans tail

end Stopping

/-- The traversal of a group whose members rank high takes out no name of a lower rank. -/
theorem Group.losesFrom_traverse {group : Group} {mark : Nat} {left : WorkingSet} {report : StopReport}
    {after : Stopping} {record : List Exchange} (within : ∀ name ∈ left.names, name ∈ listed)
    (ranks : ∀ exchange ∈ record, exchange.RanksDependents rank listed)
    (above : ∀ member ∈ group.members, bound ≤ rank member.name)
    (yields : (group.traverse mark left report).Yields record after) :
    left.LosesFrom rank bound after.left := by
  refine @Stopping.losesFrom_foldlM rank bound listed
    { left, barrier := { mark, remaining := group.smartCount }, report } _ _ _ _ _ within ranks
    (fun member there {state next round} within ranks reached => ?_) yields
  unfold Group.reach at reached
  split at reached
  · exact Stopping.losesFrom_visit within ranks (fun _ => above member there) reached
  · split at reached <;>
    · obtain ⟨-, rfl⟩ := reached
      exact .refl _

end

namespace StopHistory

variable {snapshot : List Member} {timeout : Nat} (history : StopHistory snapshot timeout)
  {round : StopRound} {fixed : FixedAnswers}

/-- A round has a turn for a name only if the name ranks no higher than its phase: what ranks higher had
its turn in the round of its own phase. -/
theorem rank_le_phase (phases : ∀ exchange ∈ history.record, exchange.KeepsPhases fixed.phase)
    (inRounds : round ∈ history.rounds) {name : String} (there : name ∈ round.turns.map (·.name)) :
    fixed.rank snapshot name ≤ round.group.phase := by
  obtain ⟨earlier, later, place⟩ := List.append_of_mem inRounds
  obtain ⟨turn, inTurns, rfl⟩ := List.mem_map.mp there
  have drawn := history.chained.once_and_drawn.2 turn (List.mem_flatMap.mpr ⟨round, inRounds, inTurns⟩)
  obtain ⟨listed, inSnapshot, itsName⟩ := List.mem_map.mp
    ((WorkingSet.mem_names_ofList snapshot turn.name).mp (WorkingSet.mem_names_of_get? drawn))
  have grouped := (flatMap_members_groupSnapshot history.gathered).symm.subset
    (List.mem_map_of_mem inSnapshot)
  obtain ⟨group, inGroups, inGroup⟩ := List.mem_flatMap.mp grouped
  have ranked := rank_of_gathered history.gathered
    (fun exchange there => phases exchange (List.mem_append_left _ there)) group inGroups _ inGroup
  rw [← List.mem_reverse, ← history.chained.groups_eq] at inGroups
  obtain ⟨own, ownThere, rfl⟩ := List.mem_map.mp inGroups
  rw [← itsName]
  refine le_of_eq_of_le ranked (Int.not_lt.mp fun higher => ?_)
  have early := (history.lt_phase_iff_mem_earlier place ownThere).mp higher
  obtain ⟨before, between, rfl⟩ := List.append_of_mem early
  have had := history.mem_names_turns (by rw [place, List.append_assoc, List.cons_append]) inGroup
  have once := history.chained.once_and_drawn.1
  rw [place, List.flatMap_append, List.map_append, List.append_cons, List.flatMap_append,
    List.map_append] at once
  refine (List.nodup_append.mp once).2.2 _ (List.mem_append_left _ had) turn.name ?_ itsName
  rw [List.flatMap_cons, List.map_append]
  exact List.mem_append_left _ there

/-- Where no dependent ranks below what it depends on, a round has turns for names of its own phase. -/
theorem rank_eq_phase (phases : ∀ exchange ∈ history.record, exchange.KeepsPhases fixed.phase)
    (ranks : ∀ exchange ∈ history.record,
      exchange.RanksDependents (fixed.rank snapshot) (snapshot.map (·.name)))
    (inRounds : round ∈ history.rounds) {name : String} (there : name ∈ round.turns.map (·.name)) :
    fixed.rank snapshot name = round.group.phase := by
  refine le_antisymm (history.rank_le_phase phases inRounds there) ?_
  obtain ⟨earlier, later, place⟩ := List.append_of_mem inRounds
  have runs := history.runs_of_mem inRounds
  obtain ⟨span, -⟩ := runs.span
  have ranked := rank_of_gathered history.gathered
    (fun exchange there => phases exchange (List.mem_append_left _ there)) _ (history.group_mem inRounds)
  have within : ∀ name ∈ round.left.names, name ∈ snapshot.map (·.name) := by
    intro name there
    rw [history.left_eq place] at there
    exact (WorkingSet.mem_names_ofList snapshot name).mp ((WorkingSet.mem_names_without _ _ _).mp there).1
  have traversal : ∀ exchange ∈ round.traversal,
      exchange.RanksDependents (fixed.rank snapshot) (snapshot.map (·.name)) := by
    intro exchange there
    refine ranks exchange (List.mem_append_right _ (List.mem_flatMap.mpr ⟨round, inRounds, ?_⟩))
    exact List.mem_append_right _ (List.mem_append_left _ there)
  have loses := Group.losesFrom_traverse within traversal (fun member inside =>
    Int.le_of_eq (ranked member (runs.rearranged.members.mem_iff.mp inside)).symm) runs.traversed
  obtain ⟨turn, inTurns, rfl⟩ := List.mem_map.mp there
  refine loses.2 turn.name (WorkingSet.mem_names_of_get? (span.drawn turn inTurns)) fun still => ?_
  rw [span.left] at still
  exact ((WorkingSet.mem_names_without _ _ _).mp still).2 there

/-- Where no dependent ranks below what it depends on, the ranks never rise along the stopped names. -/
theorem descending_stopped (few : snapshot.length < 0x10000000000000000)
    {surroundings : Surroundings} (follows : surroundings.Follows history.record)
    (phases : ∀ exchange ∈ history.record, exchange.KeepsPhases fixed.phase)
    (ranks : ∀ exchange ∈ history.record,
      exchange.RanksDependents (fixed.rank snapshot) (snapshot.map (·.name))) :
    history.report.stopped.Pairwise fun first second =>
      fixed.rank snapshot second ≤ fixed.rank snapshot first := by
  have own : ∀ round ∈ history.rounds, ∀ name ∈ round.stopped,
      fixed.rank snapshot name = round.group.phase := fun round inRounds name there =>
    history.rank_eq_phase phases ranks inRounds
      (history.mem_names_turns_of_stopped few follows inRounds there)
  rw [history.stopped_eq few follows, List.pairwise_flatMap]
  refine ⟨fun round inRounds => ?_, ?_⟩
  · refine List.pairwise_of_forall_mem_list fun name there other otherThere => ?_
    rw [own round inRounds name there, own round inRounds other otherThere]
  · refine history.descending_rounds.imp_of_mem fun {first second} inRounds inOthers lower =>
      fun name there other otherThere => ?_
    rw [own first inRounds name there, own second inOthers other otherThere]
    exact Int.le_of_lt lower

end StopHistory

/-! ### The stop passes of an orchestrator -/

namespace Rehearsal.World

/-- A stop of an orchestrator ends with the report of a stop pass with the timeout that the orchestrator
had when it began. -/
theorem exists_yields_of_conductStop {take : Taker} {seat : Seat} {world after : World}
    {report : StopReport} (stopped : world.conductStop take seat = (.ok report, after)) :
    ∃ record, (stopPass (world.snapshot (world.viewOf seat)) (world.orchestrator seat).timeout).Yields
      record report := by
  unfold conductStop at stopped
  dsimp only at stopped
  split at stopped
  · cases stopped
  · obtain ⟨ended, -⟩ := Prod.mk.inj stopped
    exact ⟨_, Except.ok.inj ended ▸ yields_recordOf (answer take (world.viewOf seat)) (fun _ => [])
      (·.clock) _ world⟩

end Rehearsal.World

/-- The shape of the report of a stop pass, whatever the registry answers, whatever components do and
however often a name is listed.

Its entries of phases that reached their timeout come in descending order of the phases, each with the
timeout that the pass, or the orchestrator that ran it, had when the pass began; and the open names of an
entry are some, in strict order and in no other entry. Its stopped names are those of the rounds, which
come in descending order of their phases: of each round first the ones whose call came back without a
failure, in the order of the calls, and then those to which a signal was given out in the round that was
completed by the end of its wait, in the order of the completions. Where phases are fixed and no listed
name has a lower phase than one it depends on, the phases never rise along the stopped names. The length
of a snapshot is a word of 64 bits. -/
theorem stop_reports_follow_the_rounds :
    (∀ (snapshot : List Member) (timeout : Nat) (record : List Exchange) (report : StopReport),
      (stopPass snapshot timeout).Yields record report →
      report.ListsTimeouts timeout ∧
      ∀ surroundings : Surroundings, surroundings.Follows record →
        snapshot.length < 0x10000000000000000 →
        (∃ history : StopHistory snapshot timeout, history.record = record ∧
          history.report = report ∧
          history.rounds.Pairwise (fun first second => second.group.phase < first.group.phase) ∧
          report.stopped = history.rounds.flatMap StopRound.stopped ∧
          ∀ round ∈ history.rounds, round.NamesStopped snapshot) ∧
        ∀ fixed : FixedAnswers, (∀ exchange ∈ record, exchange.KeepsPhases fixed.phase) →
          (∀ exchange ∈ record,
            exchange.RanksDependents (fixed.rank snapshot) (snapshot.map (·.name))) →
          report.stopped.Pairwise fun first second =>
            fixed.rank snapshot second ≤ fixed.rank snapshot first) ∧
    ∀ (take : Rehearsal.Taker) (seat : Rehearsal.Seat) (world after : Rehearsal.World)
        (report : StopReport),
      world.conductStop take seat = (.ok report, after) →
        report.ListsTimeouts (world.orchestrator seat).timeout := by
  refine ⟨fun snapshot timeout record report yields => ?_,
    fun take seat world after report stopped => ?_⟩
  · obtain ⟨history, rfl, rfl⟩ := exists_stopHistory yields
    refine ⟨history.listsTimeouts, fun surroundings follows few => ⟨⟨history, rfl, rfl,
      history.descending_rounds, history.stopped_eq few follows, fun round inRounds =>
        history.namesStopped few follows inRounds⟩, fun fixed phases ranks =>
          history.descending_stopped few follows phases ranks⟩⟩
  · obtain ⟨record, yields⟩ := Rehearsal.World.exists_yields_of_conductStop stopped
    obtain ⟨history, rfl, rfl⟩ := exists_stopHistory yields
    exact history.listsTimeouts

/-- A queue and a mailer that stop in the background, a site that needs the queue and a database. -/
def office : List Member :=
  [⟨"database", ⟨"database", .plain⟩⟩, ⟨"queue", ⟨"queue", .smart⟩⟩, ⟨"mailer", ⟨"mailer", .smart⟩⟩,
    ⟨"site", ⟨"site", .phased⟩⟩]

def officeAnswers : FixedAnswers where
  dependencies name := if name = "site" then ["database", "queue"] else []
  dependents name := if name = "database" ∨ name = "queue" then ["site"] else []
  phase _ := 1
  auto _ := true

/-- In each wait one signal is completed after 60 milliseconds, and the next one after as many more. -/
def officeHabits : Habits where
  dependents := officeAnswers.dependents
  phase := officeAnswers.phase
  delay := some 60

def officeStops : List Exchange :=
  officeHabits.record (office.map Member.component) (stopPass office 100)

def officeReport : StopReport :=
  officeHabits.value (office.map Member.component) (stopPass office 100)

/-- An orchestrator with one component that sets the timeout when it is called, and never completes its
signal. -/
def hastyQueue : Rehearsal.World :=
  { ({ actors := [{
          id := "queue"
          kind := .smart
          running := true
          stopAsyncScript := { ending := .hold false }
          stopAsyncHooks := [.setTimeout 7] }]
       roles := [⟨"queue", "queue"⟩] } : Rehearsal.SetUp).world with
    setUp := { isAttached := true, isRunning := true, timeout := 100 } }

theorem office_report_follows_its_rounds :
    officeReport.ListsTimeouts 100 ∧
      officeReport.timeouts = [⟨1, 100, ["mailer"]⟩] ∧
      (∃ history : StopHistory office 100, history.record = officeStops ∧
        officeReport.stopped = history.rounds.flatMap StopRound.stopped ∧
        ∀ round ∈ history.rounds, round.NamesStopped office) ∧
      officeReport.stopped = ["site", "queue", "database"] ∧
      officeReport.stopped.Pairwise (fun first second =>
        officeAnswers.rank office second ≤ officeAnswers.rank office first) ∧
      ∃ report after,
        hastyQueue.conductStop (Rehearsal.World.takeStep 10) .setUp = (.ok report, after) ∧
        report.timeouts = [⟨0, 100, ["queue"]⟩] ∧ (after.orchestrator .setUp).timeout = 7 ∧
        report.ListsTimeouts (hastyQueue.orchestrator .setUp).timeout := by
  obtain ⟨passes, orchestrated⟩ := stop_reports_follow_the_rounds
  obtain ⟨lists, stops⟩ := passes office 100 officeStops officeReport
    (officeHabits.yields_record (office.map Member.component) (stopPass office 100))
  obtain ⟨⟨history, record, -, -, stopped, names⟩, descending⟩ :=
    stops _ (officeHabits.follows_record (office.map Member.component) (stopPass office 100)) (by decide)
  have ranks : ∀ exchange ∈ officeStops,
      exchange.RanksDependents (officeAnswers.rank office) (office.map (·.name)) := by
    intro exchange there
    have kept := officeHabits.keepsDependents_record (office.map Member.component)
      (stopPass office 100) exchange there
    obtain ⟨request, answer, resolved, instant⟩ := exchange
    cases request with
    | dependents name =>
      obtain rfl : answer = officeAnswers.dependents name := kept
      intro dependent inside _
      unfold officeAnswers at inside
      dsimp only at inside
      split at inside
      · rename_i needed
        rw [List.mem_singleton.mp inside]
        rcases needed with rfl | rfl <;> decide
      · exact absurd inside List.not_mem_nil
    | _ => trivial
  obtain ⟨after, conducted⟩ : ∃ after,
      hastyQueue.conductStop (Rehearsal.World.takeStep 10) .setUp =
        (.ok { timeouts := [⟨0, 100, ["queue"]⟩] }, after) ∧ (after.orchestrator .setUp).timeout = 7 :=
    ⟨_, Prod.ext (by cbv) rfl, by cbv⟩
  exact ⟨lists, by cbv, ⟨history, record, stopped, names⟩, by cbv,
    descending officeAnswers
      (officeHabits.keepsPhases_record (office.map Member.component) (stopPass office 100)) ranks,
    _, after, conducted.1, rfl,
    conducted.2, orchestrated _ _ _ _ _ conducted.1⟩

end PhasedLifecycle
