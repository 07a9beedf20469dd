/-
This file says what one pass makes of components that behave well. A start pass switches on some
components that were idle and leaves the others as they were, whether it fails or not. A stop pass
switches off the listed components that run, however they came to run, and waits until all of them have
left; its report names them, and nothing else.
-/

import PhasedLifecycle.Proofs.FullStart

namespace PhasedLifecycle

open Pass

/-! ### Switches -/

/-- What a call does to its component: it is switched on by a start that succeeds, and off by a stop. -/
def Call.switch? : Call → Option Bool
  | .start _ none => some true
  | .start _ (some _) => none
  | .stop _ _ => some false
  | .stopAsync _ _ _ => some false

/-- How a component is switched on and off in a record: by the starts of it that succeed and by the
stops, in their order. -/
def switchesIn (component : Component) (record : List Exchange) : List Bool :=
  (callsTo component record).filterMap Call.switch?

theorem switchesIn_append (component : Component) (first last : List Exchange) :
    switchesIn component (first ++ last) = switchesIn component first ++ switchesIn component last := by
  rw [switchesIn, callsTo_append, List.filterMap_append]
  rfl

/-- What a pass makes of a component: it goes on as before, or it is switched on or off. -/
inductive Activity.Switches : Activity → List Bool → Activity → Prop
  | keeps {activity : Activity} (settled : activity.IsSettled) : Switches activity [] activity
  | on : Switches .idle [true] .running
  | off : Switches .running [false] .idle

theorem Activity.Switches.isSettled {before after : Activity} {switches : List Bool}
    (switched : before.Switches switches after) : after.IsSettled := by
  cases switched with
  | keeps settled => exact settled
  | on => exact nofun
  | off => exact nofun

theorem Activity.IsSettled.eq_idle {activity : Activity} (settled : activity.IsSettled)
    (stopped : activity ≠ .running) : activity = .idle := by
  cases activity with
  | idle => rfl
  | running => exact absurd rfl stopped
  | leaving signal => exact absurd rfl (settled signal)

/-! ### The turn of a component -/

/-- Each name is listed once, and each component under one name; a word of 64 bits counts them. -/
structure EachOnce (snapshot : List Member) : Prop where
  few : snapshot.length < 0x10000000000000000
  names : (snapshot.map (·.name)).Nodup
  components : (snapshot.map (·.component)).Nodup

section

variable {snapshot : List Member} {record : List Exchange}

/-- Where each component has one name, each has at most one turn. -/
theorem KeepsTo.nodup_components (keeps : KeepsTo snapshot record)
    (separate : (snapshot.map (·.component)).Nodup) :
    ((turnsIn record).map (·.component)).Nodup := by
  have listed : ∀ turn ∈ turnsIn record, turn.member ∈ snapshot := fun turn there =>
    List.mem_reverse.mp (List.mem_of_find?_eq_some (keeps.last turn there))
  have members : ((turnsIn record).map Turn.member).Nodup := by
    refine List.Nodup.of_map Member.name ?_
    rw [List.map_map]
    exact keeps.once
  have components : (((turnsIn record).map Turn.member).map (·.component)).Nodup := by
    refine members.map_on fun first firstThere second secondThere same => ?_
    obtain ⟨turn, there, rfl⟩ := List.mem_map.mp firstThere
    obtain ⟨other, otherThere, rfl⟩ := List.mem_map.mp secondThere
    exact List.inj_on_of_nodup_map separate (listed turn there) (listed other otherThere) same
  rw [List.map_map] at components
  exact components

/-- The calls to a component are those of its turn, if it has one. -/
theorem KeepsTo.callsTo_cases (keeps : KeepsTo snapshot record)
    (strays : (({} : Docket).readAll record).strays = []) (each : EachOnce snapshot)
    (component : Component) : callsTo component record = [] ∨
      ∃ turn ∈ turnsIn record, turn.component = component ∧ callsTo component record = turn.calls := by
  by_cases turned : ∃ turn ∈ turnsIn record, turn.component = component
  · obtain ⟨turn, there, rfl⟩ := turned
    exact Or.inr ⟨turn, there, rfl, filter_callsIn strays (keeps.nodup_components each.components) there⟩
  · refine Or.inl (List.filter_eq_nil_iff.mpr fun call called same => turned ?_)
    rw [keeps.calls] at called
    obtain ⟨turn, there, inTurn⟩ := List.mem_flatMap.mp called
    rw [component_of_mem_turnsIn there inTurn] at same
    exact ⟨turn, there, of_decide_eq_true same⟩

end

/-! ### Start passes -/

section

variable {auto : Component → Bool} {autoOnly : Bool} {surroundings : Surroundings}
  {activity : Component → Activity} {snapshot : List Member} {timeout : Nat} {record : List Exchange}
  {outcome : Except LifecycleError Unit}

/-- A start pass switches on some of the components that are idle, and leaves the others as they are. -/
theorem switches_startPass (each : EachOnce snapshot)
    (yields : (startPass snapshot timeout autoOnly).Yields record outcome)
    (behaved : WellBehaved auto surroundings activity record)
    (settled : ∀ component, (activity component).IsSettled) (component : Component) :
    (activity component).Switches (switchesIn component record)
      ((activity component).afterAll component record) := by
  obtain ⟨_, _, _, _, _, -, -, span, strays, -⟩ := span_startPass yields
  obtain ⟨keeps, -⟩ := keepsTo_startPass yields
  have uncalled : callsTo component record = [] → (activity component).Switches
      (switchesIn component record) ((activity component).afterAll component record) := by
    intro none
    rw [switchesIn, none, Activity.afterAll_of_uncalled none (settled component)]
    exact .keeps (settled component)
  rcases keeps.callsTo_cases strays each component with none | ⟨turn, there, rfl, calls⟩
  · exact uncalled none
  · have ran := (behaved.faithful.keepsState settled).ran_of_mem strays
      (keeps.nodup_components each.components) turn there
    have alone := Activity.leftAlone_afterAll turn.component (activity turn.component) record
    obtain ⟨failure, kind⟩ := span.kinds turn there
    cases kind with
    | running name component => exact uncalled calls
    | declining name component automatic => exact uncalled calls
    | starting name component auto =>
      have idle := (settled component).eq_idle (of_decide_eq_false ran.symm)
      rw [calls, idle] at alone
      rw [switchesIn, calls, idle, alone.eq_of_isSettled nofun]
      exact .on
    | failing name component auto reason =>
      have idle := (settled component).eq_idle (of_decide_eq_false ran.symm)
      rw [calls, idle] at alone
      rw [switchesIn, calls, idle, alone.eq_of_isSettled nofun]
      exact .keeps nofun

/-- After a start pass that ends well, each listed component runs that may be started. -/
theorem running_of_startPass (each : EachOnce snapshot)
    (yields : (startPass snapshot timeout autoOnly).Yields record (.ok ()))
    (behaved : WellBehaved auto surroundings activity record)
    (settled : ∀ component, (activity component).IsSettled) {member : Member}
    (listed : member ∈ snapshot) (meant : member.component.IsMeant auto autoOnly) :
    (activity member.component).afterAll member.component record = .running := by
  obtain ⟨turn, there, its, serves⟩ :=
    exists_turn_of_isMeant each.names yields behaved.autos listed meant
  obtain ⟨_, _, _, _, _, -, -, span, strays, -⟩ := span_startPass yields
  obtain ⟨keeps, -⟩ := keepsTo_startPass yields
  have components := keeps.nodup_components each.components
  have ran := (behaved.faithful.keepsState settled).ran_of_mem strays components turn there
  have calls : callsTo turn.component record = turn.calls := filter_callsIn strays components there
  have alone := Activity.leftAlone_afterAll turn.component (activity turn.component) record
  have served : turn.ran = false → Call.start turn.component none ∈ turn.calls := fun idle =>
    calls ▸ List.mem_filter.mpr ⟨its ▸ serves idle, decide_eq_true rfl⟩
  rw [calls] at alone
  rw [← its]
  obtain ⟨failure, kind⟩ := span.kinds turn there
  cases kind with
  | running name component =>
    have doing : activity component = .running := of_decide_eq_true ran.symm
    exact (alone.eq_of_isSettled (settled component)).trans doing
  | declining name component automatic => exact absurd (served rfl) List.not_mem_nil
  | starting name component auto => exact alone.eq_of_isSettled nofun
  | failing name component auto reason => cases List.mem_singleton.mp (served rfl)

end

/-! ### Waits that end in time -/

/-- If every signal is resolved before the deadline, none is open when the deadline has passed. -/
theorem Awaits.openFor_eq_nil {mark deadline : Nat} {record : List Exchange} {arrivals : List Arrival}
    {expired : Bool} {surroundings : Surroundings}
    (awaits : Awaits mark deadline record arrivals expired) (late : expired = true)
    (inTime : surroundings.KeepsDeadlines record) :
    (surroundings.afterAll record).openFor mark = [] := by
  induction awaits generalizing surroundings with
  | enough => cases late
  | expired resolved instant => exact inTime.1
  | arrived arrival resolved instant rest inductionHypothesis => exact inductionHypothesis late inTime.2

/-- A wait for signals that are resolved before the deadline leaves none of them open, and does not last
until the deadline. The barrier says that the deadline passed just if a signal is still open then. -/
theorem StopRound.Runs.drains {round : StopRound} {start : Surroundings} (runs : round.Runs)
    (settles : round.Settles start) (inTime : start.KeepsDeadlines round.waiting) :
    round.outcome.timedOut = false ∧ (start.afterAll round.waiting).openFor round.mark = [] := by
  obtain ⟨now, resolved, instant, rest, arrivals, expired, waiting, awaits, ends⟩ :=
    Barrier.yields_await runs.awaited
  rw [runs.span.1.mark] at awaits
  have closed : expired = true → (start.afterAll round.waiting).openFor round.mark = [] := by
    intro late
    rw [waiting] at inTime ⊢
    exact awaits.openFor_eq_nil late inTime.2
  have timedOut := settles.timedOut
  rw [ends.timedOut] at timedOut ⊢
  cases expired with
  | true => exact absurd (closed rfl) (timedOut.mp rfl)
  | false =>
    refine ⟨rfl, ?_⟩
    by_contra isOpen
    exact Bool.noConfusion (timedOut.mpr isOpen)

namespace StopHistory

variable {snapshot : List Member} {timeout : Nat} (history : StopHistory snapshot timeout)
  {auto : Component → Bool} {surroundings : Surroundings} {activity : Component → Activity}

/-- The record of the pass up to the end of the wait of a round. -/
def recordThrough (earlier : List StopRound) (round : StopRound) : List Exchange :=
  history.recordBefore earlier ++ (round.opening ++ (round.traversal ++ round.waiting))

theorem drains (each : EachOnce snapshot)
    (behaved : WellBehaved auto surroundings activity history.record)
    {earlier later : List StopRound} {round : StopRound}
    (place : history.rounds = earlier ++ round :: later) :
    round.outcome.timedOut = false ∧
      (surroundings.afterAll (history.recordThrough earlier round)).openFor round.mark = [] := by
  have runs := history.runs_of_mem (place ▸ List.mem_append_right _ List.mem_cons_self)
  have whole : history.record = history.recordBefore earlier ++ (round.opening ++ (round.traversal ++
      (round.waiting ++ (round.closing ++ later.flatMap StopRound.record)))) := by
    simp [record, recordBefore, place, StopRound.record]
  have inTime := behaved.inTime
  rw [whole, Surroundings.keepsDeadlines_append, Surroundings.keepsDeadlines_append,
    Surroundings.keepsDeadlines_append, Surroundings.keepsDeadlines_append] at inTime
  have drained := runs.drains (history.settles each.few each.names place behaved.follows) inTime.2.2.2.1
  rw [recordThrough, Surroundings.afterAll_append, Surroundings.afterAll_append,
    Surroundings.afterAll_append]
  exact drained

theorem timeouts_eq_nil (each : EachOnce snapshot)
    (behaved : WellBehaved auto surroundings activity history.record) :
    history.report.timeouts = [] := by
  rw [history.chained.timeouts_eq, List.nil_append]
  refine List.flatMap_eq_nil_iff.mpr fun round inRounds => ?_
  obtain ⟨earlier, later, place⟩ := List.append_of_mem inRounds
  rw [StopRound.overdue, (history.drains each behaved place).1]
  rfl

/-! ### Stop passes -/

/-- The calls to a component in a stop pass are those of its turn, in which the pass finds what the
component was doing at first. -/
theorem callsTo_cases (each : EachOnce snapshot)
    (behaved : WellBehaved auto surroundings activity history.record)
    (settled : ∀ component, (activity component).IsSettled) (component : Component) :
    (component ∉ snapshot.map (·.component) ∧ callsTo component history.record = []) ∨
      ∃ turn ∈ turnsIn history.record, turn.component = component ∧
        callsTo component history.record = turn.calls ∧
        turn.ran = decide (activity component = .running) ∧ turn.IsSettled := by
  have components : ((turnsIn history.record).map (·.component)).Perm (snapshot.map (·.component)) := by
    rw [history.turnsIn_record]
    exact perm_components (history.perm_members each.names)
  have single := components.nodup_iff.mpr each.components
  by_cases listed : component ∈ snapshot.map (·.component)
  · obtain ⟨turn, there, rfl⟩ := List.mem_map.mp (components.mem_iff.mpr listed)
    exact Or.inr ⟨turn, there, rfl, filter_callsIn history.strays_record single there,
      (behaved.faithful.keepsState settled).ran_of_mem history.strays_record single turn there,
      history.isSettled_of_mem there⟩
  · refine Or.inl ⟨listed, List.filter_eq_nil_iff.mpr fun call called same => listed ?_⟩
    rw [← flatMap_calls_turnsIn history.strays_record] at called
    obtain ⟨turn, there, inTurn⟩ := List.mem_flatMap.mp called
    rw [component_of_mem_turnsIn there inTurn] at same
    exact components.subset (of_decide_eq_true same ▸ List.mem_map_of_mem there)

/-- A component with one call, which hands a signal to it in a round, is not leaving any more after the
wait of the round. Otherwise it was leaving when that wait had ended already, and its signal was open
then. -/
theorem not_leaving_of_called (each : EachOnce snapshot)
    (behaved : WellBehaved auto surroundings activity history.record)
    (settled : ∀ component, (activity component).IsSettled) {component other : Component}
    {signal : Signal} {reason : Option String}
    (calls : callsTo component history.record = [.stopAsync other signal reason]) :
    (activity component).afterAll component history.record ≠ .leaving signal := by
  intro leaving
  obtain ⟨called, its⟩ := mem_callsTo.mp (calls ▸ List.mem_cons_self)
  obtain ⟨exchange, there, itsCall⟩ := List.mem_filterMap.mp called
  obtain ⟨before, after, place⟩ := List.append_of_mem there
  obtain ⟨earlier, round, later, done, rest, rounds, traversal, -⟩ := history.place_of_call place itsCall
  have given : .stopAsync other signal reason ∈ callsIn round.traversal :=
    List.mem_filterMap.mpr ⟨exchange, traversal ▸ List.mem_append_right _ List.mem_cons_self, itsCall⟩
  have whole : history.record = history.recordThrough earlier round ++
      (round.closing ++ later.flatMap StopRound.record) := by
    simp [record, recordThrough, recordBefore, rounds, StopRound.record]
  have calledBefore : callsTo component (history.recordThrough earlier round) ≠ [] := by
    refine List.ne_nil_of_mem (mem_callsTo.mpr ⟨?_, its⟩)
    rw [recordThrough, callsIn_append, callsIn_append, callsIn_append]
    exact List.mem_append_right _ (List.mem_append_right _ (List.mem_append_left _ given))
  rw [whole, callsTo_append] at calls
  obtain ⟨before, -⟩ | ⟨-, uncalled⟩ := List.append_eq_singleton_iff.mp calls
  · exact calledBefore before
  · have alone := Activity.leftAlone_afterAll component ((activity component).afterAll component
      (history.recordThrough earlier round)) (round.closing ++ later.flatMap StopRound.record)
    rw [uncalled, ← Activity.afterAll_append, ← whole, leaving] at alone
    have isOpen : signal ∈ (surroundings.afterAll (history.recordThrough earlier round)).unresolved :=
      Activity.mem_unresolved_afterAll (fun signal doing => absurd doing (settled component signal))
        alone.leaving
    obtain ⟨mark, -, -⟩ := (history.runs_of_mem (rounds ▸ List.mem_append_right _
      List.mem_cons_self)).of_mem_callsIn given
    have drained := (history.drains each behaved rounds).2
    rw [Surroundings.openFor, List.map_eq_nil_iff] at drained
    exact List.filter_eq_nil_iff.mp drained signal isOpen (decide_eq_true mark)

/-- A stop pass switches off the listed components that run, and leaves the others as they are; no listed
component runs afterwards, and none is leaving any more. -/
theorem switches (each : EachOnce snapshot)
    (behaved : WellBehaved auto surroundings activity history.record)
    (settled : ∀ component, (activity component).IsSettled) (component : Component) :
    (activity component).Switches (switchesIn component history.record)
        ((activity component).afterAll component history.record) ∧
      (component ∈ snapshot.map (·.component) →
        (activity component).afterAll component history.record = .idle) := by
  have alone := Activity.leftAlone_afterAll component (activity component) history.record
  rcases history.callsTo_cases each behaved settled component with ⟨absent, uncalled⟩ |
    ⟨turn, -, rfl, called, ran, ended⟩
  · rw [uncalled] at alone
    rw [switchesIn, uncalled, alone.eq_of_isSettled (settled component)]
    exact ⟨.keeps (settled component), fun listed => absurd listed absent⟩
  · rcases ended with ⟨idle, calls⟩ | ⟨runs, -, reason, calls⟩ | ⟨runs, -, signal, reason, calls⟩
    · rw [called, calls] at alone
      rw [idle] at ran
      rw [switchesIn, called, calls, alone.eq_of_isSettled (settled _)]
      exact ⟨.keeps (settled _), fun _ => (settled _).eq_idle (of_decide_eq_false ran.symm)⟩
    · rw [called, calls] at alone
      rw [runs] at ran
      rw [switchesIn, called, calls, alone.eq_of_isSettled nofun, of_decide_eq_true ran.symm]
      exact ⟨.off, fun _ => rfl⟩
    · have gone := history.not_leaving_of_called each behaved settled (called.trans calls)
      rw [called, calls] at alone
      rw [runs] at ran
      rw [switchesIn, called, calls, alone.eq_idle gone, of_decide_eq_true ran.symm]
      exact ⟨.off, fun _ => rfl⟩

/-! ### Reports -/

/-- A signal of a round that ended was completed. -/
theorem fate_eq_completed (faithful : Faithful activity history.record) {round : StopRound}
    (inRounds : round ∈ history.rounds) {signal : Signal} (ended : round.fate signal ≠ none) :
    round.fate signal = some .completed := by
  rw [StopRound.fate] at ended ⊢
  cases found : ((round.traversal ++ round.waiting).flatMap (·.meanwhile)).find? (·.signal = signal) with
  | none => exact absurd (by rw [found]; rfl) ended
  | some resolution =>
    obtain ⟨exchange, there, resolved⟩ := List.mem_flatMap.mp (List.mem_of_find?_eq_some found)
    have inRecord : exchange ∈ history.record := by
      refine List.mem_append_right _ (List.mem_flatMap.mpr ⟨round, inRounds, ?_⟩)
      rw [StopRound.record, ← List.append_assoc round.traversal]
      exact List.mem_append_right _ (List.mem_append_left _ there)
    rw [Option.map_some, faithful.completed inRecord resolved]

/-- The report has the name of a component among the stopped ones if the component ran, and nowhere
else. -/
theorem tally_of_mem (each : EachOnce snapshot)
    (behaved : WellBehaved auto surroundings activity history.record) {turn : Turn}
    (there : turn ∈ turnsIn history.record) :
    history.report.tally turn.name = { stopped := turn.ran.toNat } := by
  obtain ⟨-, round, inRounds, inRound, -⟩ := history.turn_of_mem there
  obtain ⟨idle, waits, signals⟩ :=
    history.accountsFor each.few each.names behaved.follows inRounds inRound
  have obeyed : ∀ call ∈ turn.calls, call.IsObeyed := by
    intro call called
    refine behaved.faithful.obeyed call ?_
    rw [← flatMap_calls_turnsIn history.strays_record]
    exact List.mem_flatMap.mpr ⟨turn, there, called⟩
  cases ran : turn.ran with
  | false => exact (idle ran).2
  | true =>
    cases smart : turn.component.isSmart with
    | false =>
      obtain ⟨reason, calls, tally⟩ := waits ran smart
      obtain rfl : reason = none :=
        obeyed (.stop turn.component reason) (calls ▸ List.mem_cons_self)
      exact tally
    | true =>
      obtain ⟨signal, reason, calls, tally⟩ := signals ran smart
      obtain rfl : reason = none :=
        obeyed (.stopAsync turn.component signal reason) (calls ▸ List.mem_cons_self)
      have ended : round.fate signal ≠ none := by
        intro isOpen
        have pending := congrArg Tally.pending tally
        rw [StopReport.tally, history.timeouts_eq_nil each behaved] at pending
        simp [isOpen] at pending
      rw [tally, history.fate_eq_completed behaved.faithful inRounds ended]
      rfl

/-- Under a name the report has one entry among the stopped ones for the turn in which its component was
found running, and no other. -/
theorem tally_eq (each : EachOnce snapshot)
    (behaved : WellBehaved auto surroundings activity history.record) (name : String) :
    history.report.tally name =
      { stopped := (((turnsIn history.record).filter (·.ran)).map (·.name)).count name } := by
  have nodup := history.nodup_names_turnsIn
  by_cases turned : name ∈ (turnsIn history.record).map (·.name)
  · obtain ⟨turn, there, rfl⟩ := List.mem_map.mp turned
    rw [history.tally_of_mem each behaved there]
    congr 1
    cases ran : turn.ran with
    | true =>
      exact (List.count_eq_one_of_mem (nodup.sublist (List.filter_sublist.map _))
        (List.mem_map_of_mem (List.mem_filter.mpr ⟨there, ran⟩))).symm
    | false =>
      refine (List.count_eq_zero.mpr fun named => ?_).symm
      obtain ⟨other, running, same⟩ := List.mem_map.mp named
      obtain ⟨otherThere, runs⟩ := List.mem_filter.mp running
      rw [eq_of_same_name nodup otherThere there same, ran] at runs
      cases runs
  · have absent : name ∉ ((turnsIn history.record).filter (·.ran)).map (·.name) :=
      fun named => turned ((List.filter_sublist.map _).subset named)
    rw [List.count_eq_zero.mpr absent]
    rw [history.turnsIn_record] at turned
    refine history.chained.tally_of_notMem (fun round inRounds => ?_) turned
    obtain ⟨earlier, later, place⟩ := List.append_of_mem inRounds
    exact ⟨_, history.settles each.few each.names place behaved.follows⟩

/-- The report of a stop pass is clean, and names those as stopped that ran when the pass began. -/
theorem isClean_and_perm_stopped (each : EachOnce snapshot)
    (behaved : WellBehaved auto surroundings activity history.record)
    (settled : ∀ component, (activity component).IsSettled) :
    history.report.isClean = true ∧ history.report.stopped.Perm
      ((snapshot.filter fun member => activity member.component = .running).map (·.name)) := by
  have tally := history.tally_eq each behaved
  have failures : history.report.failures = [] := by
    refine List.eq_nil_iff_forall_not_mem.mpr fun failure there => ?_
    have none := List.countP_eq_zero.mp (congrArg Tally.failed (tally failure.name)) failure there
    exact none (decide_eq_true rfl)
  refine ⟨?_, (List.perm_iff_count.mpr fun name => congrArg Tally.stopped (tally name)).trans ?_⟩
  · rw [StopReport.isClean, failures, history.timeouts_eq_nil each behaved]
    rfl
  · have members : ((turnsIn history.record).map Turn.member).Perm snapshot := by
      rw [history.turnsIn_record]
      exact history.perm_members each.names
    have ran := (behaved.faithful.keepsState settled).ran_of_mem history.strays_record
      ((perm_components members).nodup_iff.mpr each.components)
    have running := (members.filter fun member => activity member.component = .running).map Member.name
    rw [List.filter_map, List.map_map] at running
    rw [List.filter_congr ran]
    exact running

end StopHistory

end PhasedLifecycle
