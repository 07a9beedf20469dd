/-
This file shows that the phases of a stop pass follow each other. When a round comes to the end of its
wait, either all signals given out in it are resolved, or the wait lasted for the whole timeout and
the open ones are on record. Rounds come in descending order of their phases, so whatever a call of a
later phase finds unresolved is in the report's entry of an earlier phase.

The count of a barrier may be too high, if a name is listed twice, but never too low. So a wait can be
longer than its signals need, but it does not end while one of them is open, unless it is late.
-/

import PhasedLifecycle.Proofs.Habits
import PhasedLifecycle.Proofs.StopAccount

namespace PhasedLifecycle

open Pass

/-! ### Resolved signals -/

/-- The signal was resolved before one of the answers in the record. -/
def Signal.IsResolvedIn (signal : Signal) (record : List Exchange) : Prop :=
  ∃ exchange ∈ record, ∃ resolution ∈ exchange.meanwhile, resolution.signal = signal

theorem Signal.IsResolvedIn.mono {signal : Signal} {first last : List Exchange}
    (resolved : signal.IsResolvedIn first) (inside : first ⊆ last) : signal.IsResolvedIn last := by
  obtain ⟨exchange, there, resolution⟩ := resolved
  exact ⟨exchange, inside there, resolution⟩

theorem isResolvedIn_of_mem {mark : Nat} {name : String} {record : List Exchange}
    (there : name ∈ (resolvedIn mark record).map (·.signal.name)) :
    Signal.IsResolvedIn { barrier := mark, name } record := by
  obtain ⟨resolution, resolved, rfl⟩ := List.mem_map.mp there
  obtain ⟨exchange, inRecord, its⟩ := List.mem_flatMap.mp resolved
  obtain ⟨meanwhile, mark⟩ := List.mem_filter.mp its
  have mark : resolution.signal.barrier = _ := of_decide_eq_true mark
  exact ⟨exchange, inRecord, resolution, meanwhile, by rw [← mark]⟩

/-! ### The end of a wait -/

/-- If at least the signals given out are awaited, a wait that leaves one open has lasted until its
deadline, and the outcome names what is open. A wait that ends before has heard of as many signals as
were given out. -/
theorem StopRound.Waits.expires {round : StopRound} {start : Surroundings} {rest : List Exchange}
    {arrivals : List Arrival} {expired : Bool} (waits : round.Waits start rest arrivals expired)
    (ledger : round.Ledger start arrivals)
    (enough : (issuedIn round.mark round.traversal).length ≤ round.stopping.barrier.remaining)
    (isOpen : (start.afterAll round.waiting).openFor round.mark ≠ []) :
    round.outcome.timedOut = true ∧
      round.outcome.pending.Perm ((start.afterAll round.waiting).openFor round.mark) ∧
      (start.afterAll round.waiting).clock = start.clock + round.sorted.timeout := by
  cases expired with
  | true =>
    obtain ⟨ends, unheard⟩ :=
      (waits.awaits.clock_of_expired waits.goesOn (Nat.le_add_right _ _)).2 rfl
    rw [← waits.finish] at ends unheard
    have keeps := ledger.keeps
    rw [WaitingList.Keeps, unheard, List.map_nil, List.nil_append] at keeps
    refine ⟨waits.ends.timedOut, ?_, ends⟩
    rw [waits.ends.pending]
    exact (List.mergeSort_perm _ _).trans keeps
  | false =>
    have taken := waits.ends.enough rfl
    have mailLength := congrArg List.length ledger.mail
    have opensLength := ledger.opens.length_eq
    have positive := List.length_pos_iff.mpr isOpen
    dsimp only at taken
    simp only [List.length_map, List.length_append] at mailLength opensLength taken
    omega

/-- What a round adds to the phases that reached their timeout. -/
def StopRound.overdue (round : StopRound) : List PhaseTimeout :=
  if round.outcome.timedOut && !round.outcome.pending.isEmpty then
    [{ phase := round.sorted.phase, timeout := round.sorted.timeout, pending := round.outcome.pending }]
  else []

namespace StopReport

theorem timeouts_withDropped (report : StopReport) (name : String) :
    (report.withDropped name).timeouts = report.timeouts := by
  unfold withDropped
  split <;> rfl

theorem timeouts_noteTurn (report : StopReport) (turn : Turn) :
    (report.noteTurn turn).timeouts = report.timeouts := by
  unfold noteTurn
  split <;> rfl

/-- What changes no timeouts at any name does not change them at many. -/
theorem timeouts_foldl {Entry : Type} (step : StopReport → Entry → StopReport)
    (keeps : ∀ report entry, (step report entry).timeouts = report.timeouts) (report : StopReport)
    (entries : List Entry) : (entries.foldl step report).timeouts = report.timeouts := by
  induction entries generalizing report with
  | nil => rfl
  | cons entry entries inductionHypothesis =>
    rw [List.foldl_cons, inductionHypothesis, keeps]

end StopReport

theorem StopRound.Runs.timeouts_eq {round : StopRound} (runs : round.Runs) :
    round.after.timeouts = round.before.timeouts ++ round.overdue := by
  rw [runs.after_eq, StopReport.settle, StopRound.overdue]
  have kept : ∀ abandoned completed turns,
      (List.foldl StopReport.withDropped (List.foldl StopReport.recordStopped
        (List.foldl StopReport.noteTurn round.before turns) completed) abandoned).timeouts =
          round.before.timeouts := by
    intro abandoned completed turns
    rw [StopReport.timeouts_foldl _ StopReport.timeouts_withDropped,
      StopReport.timeouts_foldl StopReport.recordStopped fun _ _ => rfl,
      StopReport.timeouts_foldl _ StopReport.timeouts_noteTurn]
  split
  · rw [StopReport.recordTimeout, kept]
  · rw [kept, List.append_nil]

theorem StopRounds.timeouts_eq {groups : List Group} {left laterLeft : WorkingSet}
    {before after : StopReport} {rounds : List StopRound}
    (chained : StopRounds groups left before rounds laterLeft after) :
    after.timeouts = before.timeouts ++ rounds.flatMap StopRound.overdue := by
  induction chained with
  | nil left report => exact (List.append_nil _).symm
  | cons runs rest inductionHypothesis =>
    rw [inductionHypothesis, runs.timeouts_eq, List.flatMap_cons, List.append_assoc]

theorem StopRound.Runs.phase_of_mem_overdue {round : StopRound} (runs : round.Runs)
    {entry : PhaseTimeout} (there : entry ∈ round.overdue) : entry.phase = round.group.phase := by
  unfold StopRound.overdue at there
  split at there
  · rw [List.mem_singleton.mp there]
    exact runs.rearranged.phase
  · exact absurd there List.not_mem_nil

/-! ### The calls of a round -/

theorem Exchange.call?_of_isAside {exchange : Exchange} (aside : exchange.request.isAside) :
    exchange.call? = none := by
  obtain ⟨request, answer, meanwhile, instant⟩ := exchange
  cases request <;> first | rfl | exact absurd aside not_false

theorem Exchange.call?_of_isOutset {exchange : Exchange} (outset : exchange.request.isOutset) :
    exchange.call? = none := by
  obtain ⟨request, answer, meanwhile, instant⟩ := exchange
  cases request <;> first | rfl | exact absurd outset not_false

theorem callsIn_append (first last : List Exchange) :
    callsIn (first ++ last) = callsIn first ++ callsIn last :=
  List.filterMap_append

theorem callsIn_of_isAside {record : List Exchange}
    (aside : ∀ exchange ∈ record, exchange.request.isAside) : callsIn record = [] :=
  List.filterMap_eq_nil_iff.mpr fun exchange there => Exchange.call?_of_isAside (aside exchange there)

theorem callsIn_of_isOutset {record : List Exchange}
    (outset : ∀ exchange ∈ record, exchange.request.isOutset) : callsIn record = [] :=
  List.filterMap_eq_nil_iff.mpr fun exchange there =>
    Exchange.call?_of_isOutset (outset exchange there)

/-- An entry of two lists in a row stands in the first or in the last. -/
theorem place_of_append {Entry : Type} {first last before after : List Entry} {entry : Entry}
    (place : first ++ last = before ++ entry :: after) :
    (∃ middle, first = before ++ entry :: middle ∧ after = middle ++ last) ∨
      ∃ middle, before = first ++ middle ∧ last = middle ++ entry :: after := by
  rcases List.append_eq_append_iff.mp place with ⟨middle, front, back⟩ | ⟨middle, front, back⟩
  · exact Or.inr ⟨middle, front, back⟩
  · rcases List.cons_eq_append_iff.mp back with ⟨rfl, rest⟩ | ⟨middle, rfl, rest⟩
    · exact Or.inr ⟨[], by rw [front, List.append_nil, List.append_nil], rest⟩
    · exact Or.inl ⟨middle, front, rest⟩

namespace StopRound.Runs

variable {round : StopRound}

theorem callsIn_traversal (runs : round.Runs) :
    callsIn round.traversal = round.turns.flatMap (·.calls) :=
  (flatMap_calls_turnsIn (by rw [runs.span.1.reads])).symm

theorem callsIn_record (runs : round.Runs) : callsIn round.record = callsIn round.traversal := by
  rw [StopRound.record, callsIn_append, callsIn_append, callsIn_append,
    callsIn_of_isAside runs.aside_opening, callsIn_of_isAside runs.aside_waiting,
    callsIn_of_isAside runs.aside_closing, List.nil_append, List.append_nil, List.append_nil]

/-- A signal that is given out in a round is one of its barrier, and its name stands for the component
that is called. -/
theorem of_mem_callsIn (runs : round.Runs) {component : Component} {signal : Signal}
    {reason : Option String} (given : .stopAsync component signal reason ∈ callsIn round.traversal) :
    signal.barrier = round.mark ∧ signal.name ∈ issuedIn round.mark round.traversal ∧
      ∃ turn ∈ round.turns, turn.name = signal.name ∧ turn.component = component := by
  obtain ⟨span, -⟩ := runs.span
  rw [runs.callsIn_traversal] at given
  obtain ⟨turn, there, called⟩ := List.mem_flatMap.mp given
  have issued := runs.mem_issued_iff there
  cases span.kinds turn there with
  | idle name component => exact absurd called List.not_mem_nil
  | stopping name component reason waits => cases List.mem_singleton.mp called
  | signalling name component reason smart =>
    cases List.mem_singleton.mp called
    exact ⟨rfl, issued.mpr (by simp [Turn.signals, smart]), _, there, rfl, rfl⟩

/-- The calls of a round are made in its traversal. -/
theorem place_of_call (runs : round.Runs) {before after : List Exchange} {exchange : Exchange}
    {call : Call} (place : round.record = before ++ exchange :: after)
    (calls : exchange.call? = some call) :
    ∃ done rest, round.traversal = done ++ exchange :: rest ∧ before = round.opening ++ done := by
  have aside : ¬ exchange.request.isAside := fun aside => by
    rw [Exchange.call?_of_isAside aside] at calls
    cases calls
  rcases place_of_append place with ⟨_, opening, -⟩ | ⟨done, rfl, goesOn⟩
  · exact absurd (runs.aside_opening exchange (opening ▸ List.mem_append_right _ List.mem_cons_self))
      aside
  · rcases place_of_append goesOn with ⟨rest, traversal, -⟩ | ⟨_, -, later⟩
    · exact ⟨done, rest, traversal, rfl⟩
    · refine absurd ?_ aside
      have there : exchange ∈ round.waiting ++ round.closing :=
        later ▸ List.mem_append_right _ List.mem_cons_self
      rcases List.mem_append.mp there with there | there
      · exact runs.aside_waiting exchange there
      · exact runs.aside_closing exchange there

end StopRound.Runs

/-- The calls of rounds in a row are made in their traversals. -/
theorem StopRounds.place_of_call {groups : List Group} {left laterLeft : WorkingSet}
    {start finish : StopReport} {rounds : List StopRound}
    (chained : StopRounds groups left start rounds laterLeft finish) {before after : List Exchange}
    {exchange : Exchange} {call : Call}
    (place : rounds.flatMap StopRound.record = before ++ exchange :: after)
    (calls : exchange.call? = some call) :
    ∃ earlier round later done rest, rounds = earlier ++ round :: later ∧
      round.traversal = done ++ exchange :: rest ∧
      before = earlier.flatMap StopRound.record ++ (round.opening ++ done) := by
  induction chained generalizing before with
  | nil left report => cases before <;> cases place
  | @cons round groups rounds left report runs rest inductionHypothesis =>
    rw [List.flatMap_cons] at place
    rcases place_of_append place with ⟨_, its, -⟩ | ⟨middle, rfl, goesOn⟩
    · obtain ⟨done, others, traversal, rfl⟩ := runs.place_of_call its calls
      exact ⟨[], round, rounds, done, others, rfl, traversal, rfl⟩
    · obtain ⟨earlier, other, later, done, others, rfl, traversal, rfl⟩ :=
        inductionHypothesis goesOn
      refine ⟨round :: earlier, other, later, done, others, rfl, traversal, ?_⟩
      rw [List.flatMap_cons, List.append_assoc]

/-! ### The rounds of a pass, one after the other -/

namespace StopHistory

variable {snapshot : List Member} {timeout : Nat} (history : StopHistory snapshot timeout)
  {earlier later : List StopRound} {round : StopRound}

/-- The wait of the round lasts for the whole timeout. -/
def WaitsOut (surroundings : Surroundings) (round : StopRound) : Prop :=
  ∃ earlier later, history.rounds = earlier ++ round :: later ∧
    (surroundings.afterAll (history.recordBefore earlier ++
        (round.opening ++ (round.traversal ++ round.waiting)))).clock =
      (surroundings.afterAll (history.recordBefore earlier ++
        (round.opening ++ round.traversal))).clock + timeout

/-- The rounds come in descending order of their phases. -/
theorem descending_rounds :
    history.rounds.Pairwise fun first second => second.group.phase < first.group.phase := by
  have ascending := ascending_groupSnapshot history.gathered
  rw [← List.pairwise_reverse, ← history.chained.groups_eq, List.pairwise_map] at ascending
  exact ascending

/-- The rounds before a round are those of the higher phases. -/
theorem lt_phase_iff_mem_earlier (place : history.rounds = earlier ++ round :: later)
    {other : StopRound} (inRounds : other ∈ history.rounds) :
    round.group.phase < other.group.phase ↔ other ∈ earlier := by
  have descending := history.descending_rounds
  rw [place, List.pairwise_append, List.pairwise_cons] at descending
  obtain ⟨-, ⟨lower, -⟩, higher⟩ := descending
  refine ⟨fun above => ?_, fun there => higher other there round List.mem_cons_self⟩
  rw [place] at inRounds
  rcases List.mem_append.mp inRounds with there | there
  · exact there
  · rcases List.mem_cons.mp there with rfl | there
    · exact absurd above (Int.lt_irrefl _)
    · exact absurd above (Int.lt_asymm (lower other there))

theorem record_subset_recordBefore (inEarlier : round ∈ earlier) :
    round.record ⊆ history.recordBefore earlier :=
  fun _ there => List.mem_append_right _ (List.mem_flatMap.mpr ⟨round, inEarlier, there⟩)

/-- Each call of a stop pass is made in the traversal of a round. -/
theorem place_of_call {before after : List Exchange} {exchange : Exchange} {call : Call}
    (place : history.record = before ++ exchange :: after) (calls : exchange.call? = some call) :
    ∃ earlier round later done rest, history.rounds = earlier ++ round :: later ∧
      round.traversal = done ++ exchange :: rest ∧
      before = history.recordBefore earlier ++ (round.opening ++ done) := by
  have outset : ¬ exchange.request.isOutset := fun outset => by
    rw [Exchange.call?_of_isOutset outset] at calls
    cases calls
  rcases place_of_append place with ⟨_, gathering, -⟩ | ⟨middle, rfl, goesOn⟩
  · exact absurd (history.gathered.request_of_asks (asks_groupSnapshot snapshot timeout false) exchange
      (gathering ▸ List.mem_append_right _ List.mem_cons_self)) outset
  · obtain ⟨earlier, round, later, done, rest, rounds, traversal, rfl⟩ :=
      history.chained.place_of_call goesOn calls
    refine ⟨earlier, round, later, done, rest, rounds, traversal, ?_⟩
    rw [recordBefore, List.append_assoc]

/-- What was called up to a point in the traversal of a round was called in the traversal of a round
before, or earlier in the same one. -/
theorem callsIn_before (done : List Exchange) (place : history.rounds = earlier ++ round :: later) :
    callsIn (history.recordBefore earlier ++ (round.opening ++ done)) =
      (earlier.flatMap fun round => callsIn round.traversal) ++ callsIn done := by
  have runs := history.runs_of_mem (place ▸ List.mem_append_right _ List.mem_cons_self)
  have rounds : callsIn (earlier.flatMap StopRound.record) =
      earlier.flatMap fun round => callsIn round.traversal := by
    rw [callsIn, List.filterMap_flatMap]
    exact List.flatMap_congr fun other there =>
      (history.runs_of_mem (place ▸ List.mem_append_left _ there)).callsIn_record
  rw [recordBefore, callsIn_append, callsIn_append, callsIn_append, rounds,
    callsIn_of_isOutset (history.gathered.request_of_asks (asks_groupSnapshot snapshot timeout false)),
    callsIn_of_isAside runs.aside_opening, List.nil_append, List.nil_append]

/-- The report has one entry for the phase of a round that reached its timeout with a signal open, and
none for the phase of another round. -/
theorem filter_timeouts (inRounds : round ∈ history.rounds) :
    history.report.timeouts.filter (·.phase = round.group.phase) = round.overdue := by
  obtain ⟨earlier, later, place⟩ := List.append_of_mem inRounds
  have descending := history.descending_rounds
  rw [place, List.pairwise_append, List.pairwise_cons] at descending
  obtain ⟨-, ⟨lower, -⟩, higher⟩ := descending
  have foreign : ∀ rounds : List StopRound, (∀ other ∈ rounds, other ∈ history.rounds ∧
      other.group.phase ≠ round.group.phase) →
      (rounds.flatMap StopRound.overdue).filter (·.phase = round.group.phase) = [] := by
    intro rounds apart
    refine List.filter_eq_nil_iff.mpr fun entry there same => ?_
    obtain ⟨other, inside, overdue⟩ := List.mem_flatMap.mp there
    have same : entry.phase = round.group.phase := of_decide_eq_true same
    rw [(history.runs_of_mem (apart other inside).1).phase_of_mem_overdue overdue] at same
    exact (apart other inside).2 same
  have own : round.overdue.filter (·.phase = round.group.phase) = round.overdue :=
    List.filter_eq_self.mpr fun entry there =>
      decide_eq_true ((history.runs_of_mem inRounds).phase_of_mem_overdue there)
  rw [history.chained.timeouts_eq, List.nil_append]
  rw [place] at foreign ⊢
  rw [List.flatMap_append, List.flatMap_cons, List.filter_append, List.filter_append, own,
    foreign earlier, foreign later, List.nil_append, List.append_nil]
  · exact fun other there => ⟨List.mem_append_right _ (List.mem_cons_of_mem _ there),
      Int.ne_of_lt (lower other there)⟩
  · exact fun other there => ⟨List.mem_append_left _ there,
      Int.ne_of_gt (higher other there round List.mem_cons_self)⟩

/-- Each round waits, for at least as many signals as were given out in it. -/
theorem exists_waits (few : snapshot.length < 0x10000000000000000)
    (place : history.rounds = earlier ++ round :: later) {surroundings : Surroundings}
    (follows : surroundings.Follows history.record) :
    ∃ rest arrivals expired,
      round.Waits (((surroundings.afterAll (history.recordBefore earlier)).afterAll
        round.opening).afterAll round.traversal) rest arrivals expired ∧
      round.Ledger (((surroundings.afterAll (history.recordBefore earlier)).afterAll
        round.opening).afterAll round.traversal) arrivals ∧
      (issuedIn round.mark round.traversal).length ≤ round.stopping.barrier.remaining := by
  have inRounds : round ∈ history.rounds := place ▸ List.mem_append_right _ List.mem_cons_self
  have runs := history.runs_of_mem inRounds
  obtain ⟨opening, goesOn⟩ := history.follows_round place follows
  obtain ⟨unopened, unheard⟩ := runs.fresh opening
  obtain ⟨-, waiting⟩ := Surroundings.follows_append.mp goesOn
  obtain ⟨rest, arrivals, expired, waits⟩ := runs.waits waiting
  refine ⟨rest, arrivals, expired, waits, runs.ledger unopened unheard goesOn waits, ?_⟩
  rw [(history.remaining_eq few inRounds).2]
  exact Nat.le_add_right _ _

/-- At the end of a round, a signal that was given out in it is resolved, or the wait lasted for the
whole timeout and the report has one entry for the phase, with the name of the signal. -/
theorem resolved_or_pending (few : snapshot.length < 0x10000000000000000)
    {surroundings : Surroundings} (follows : surroundings.Follows history.record)
    (inRounds : round ∈ history.rounds) {component : Component} {signal : Signal}
    {reason : Option String} (given : .stopAsync component signal reason ∈ callsIn round.traversal) :
    signal.IsResolvedIn round.record ∨
      (history.WaitsOut surroundings round ∧
        ∃ entry, history.report.timeouts.filter (·.phase = round.group.phase) = [entry] ∧
          entry.timeout = timeout ∧ signal.name ∈ entry.pending) := by
  obtain ⟨earlier, later, place⟩ := List.append_of_mem inRounds
  have runs := history.runs_of_mem inRounds
  obtain ⟨rest, arrivals, expired, waits, ledger, enough⟩ := history.exists_waits few place follows
  obtain ⟨mark, issued, -⟩ := runs.of_mem_callsIn given
  obtain ⟨barrier, name⟩ := signal
  obtain rfl : barrier = round.mark := mark
  rcases List.mem_append.mp (ledger.opens.mem_iff.mp issued) with resolved | isOpen
  · refine Or.inl ((isResolvedIn_of_mem resolved).mono fun exchange there => ?_)
    rw [StopRound.record, ← List.append_assoc round.traversal]
    exact List.mem_append_right _ (List.mem_append_left _ there)
  · obtain ⟨timedOut, pending, whole⟩ :=
      waits.expires ledger enough (List.ne_nil_of_mem isOpen)
    have sameTimeout : round.sorted.timeout = timeout := by
      rw [runs.rearranged.timeout]
      exact (settings_of_groupSnapshot history.gathered _ (history.group_mem inRounds)).1
    have named := pending.mem_iff.mpr isOpen
    have overdue : round.overdue =
        [⟨round.sorted.phase, round.sorted.timeout, round.outcome.pending⟩] := by
      rw [StopRound.overdue, if_pos]
      simpa [timedOut] using List.ne_nil_of_mem named
    rw [sameTimeout] at whole
    refine Or.inr ⟨⟨earlier, later, place, ?_⟩, _, (history.filter_timeouts inRounds).trans overdue,
      sameTimeout, named⟩
    rw [Surroundings.afterAll_append, Surroundings.afterAll_append, Surroundings.afterAll_append,
      Surroundings.afterAll_append, Surroundings.afterAll_append]
    exact whole

/-- A signal is given out to the component that its name stands for. -/
theorem get?_signal (inRounds : round ∈ history.rounds) {component : Component} {signal : Signal}
    {reason : Option String} (given : .stopAsync component signal reason ∈ callsIn round.traversal) :
    (WorkingSet.ofList snapshot).get? signal.name = some component := by
  obtain ⟨-, -, turn, there, name, rfl⟩ := (history.runs_of_mem inRounds).of_mem_callsIn given
  rw [← name]
  exact history.chained.once_and_drawn.2 turn (List.mem_flatMap.mpr ⟨round, inRounds, there⟩)

end StopHistory

/-- The phases of a stop pass follow each other, whatever the registry answers, whatever components do
and however often a name is listed. Each call is made in the traversal of one round, and the rounds
before that one are those of the higher phases. Each signal that was given out in one of them, to a
component of whatever phase, is resolved by the time of the call, or that round's wait lasted for the
whole timeout and the signal's name is pending in the report's only entry for the round's phase. The
length of a snapshot is a word of 64 bits. -/
theorem stopPass_drains_phases_or_reports_them {snapshot : List Member} {timeout : Nat}
    {record : List Exchange} {report : StopReport} {surroundings : Surroundings}
    (few : snapshot.length < 0x10000000000000000)
    (yields : (stopPass snapshot timeout).Yields record report)
    (follows : surroundings.Follows record) :
    ∃ history : StopHistory snapshot timeout, history.record = record ∧ history.report = report ∧
      ∀ before exchange after call, record = before ++ exchange :: after →
        exchange.call? = some call →
        ∃ earlier calling later done rest, history.rounds = earlier ++ calling :: later ∧
          calling.traversal = done ++ exchange :: rest ∧
          before = history.recordBefore earlier ++ (calling.opening ++ done) ∧
          (∀ issuing ∈ history.rounds,
            calling.group.phase < issuing.group.phase ↔ issuing ∈ earlier) ∧
          ∀ issuing ∈ earlier, ∀ component signal reason,
            .stopAsync component signal reason ∈ callsIn issuing.traversal →
            (WorkingSet.ofList snapshot).get? signal.name = some component ∧
            (signal.IsResolvedIn before ∨
              (history.WaitsOut surroundings issuing ∧
                ∃ entry, report.timeouts.filter (·.phase = issuing.group.phase) = [entry] ∧
                  entry.timeout = timeout ∧ signal.name ∈ entry.pending)) := by
  obtain ⟨history, rfl, rfl⟩ := exists_stopHistory yields
  refine ⟨history, rfl, rfl, fun before exchange after call place calls => ?_⟩
  obtain ⟨earlier, calling, later, done, rest, rounds, traversal, rfl⟩ :=
    history.place_of_call place calls
  refine ⟨earlier, calling, later, done, rest, rounds, traversal, rfl,
    fun issuing inRounds => history.lt_phase_iff_mem_earlier rounds inRounds,
    fun issuing inEarlier component signal reason given => ?_⟩
  have inRounds : issuing ∈ history.rounds := rounds ▸ List.mem_append_left _ inEarlier
  refine ⟨history.get?_signal inRounds given, ?_⟩
  refine (history.resolved_or_pending few follows inRounds given).imp_left fun resolved => ?_
  exact resolved.mono fun _ there =>
    List.mem_append_left _ (history.record_subset_recordBefore inEarlier there)

/-- A queue that takes longer to stop than its phase may last, and a site of the next phase. -/
def queueAndSite : List Member :=
  [⟨"site", ⟨"site", .plain⟩⟩, ⟨"queue", ⟨"queue", .smart⟩⟩]

def slowQueue : Habits where
  dependents _ := []
  phase component := if component.key = "queue" then 1 else 0
  delay := some 500

def slowQueueRecord : List Exchange :=
  slowQueue.record (queueAndSite.map Member.component) (stopPass queueAndSite 100)

def slowQueueReport : StopReport :=
  slowQueue.value (queueAndSite.map Member.component) (stopPass queueAndSite 100)

theorem site_stops_after_slow_queue_expires :
    slowQueueReport.timeouts = [{ phase := 1, timeout := 100, pending := ["queue"] }] ∧
    ∃ history : StopHistory queueAndSite 100, history.record = slowQueueRecord ∧
      ∃ earlier calling later, history.rounds = earlier ++ calling :: later ∧
        ⟨.stop ⟨"site", .plain⟩, none, [], 100⟩ ∈ calling.traversal ∧
        ∀ issuing ∈ earlier, ∀ component signal reason,
          .stopAsync component signal reason ∈ callsIn issuing.traversal →
          signal.IsResolvedIn (slowQueueRecord.take 19) ∨
            (history.WaitsOut {} issuing ∧
              ∃ entry, slowQueueReport.timeouts.filter (·.phase = issuing.group.phase) = [entry] ∧
                entry.timeout = 100 ∧ signal.name ∈ entry.pending) := by
  refine ⟨by cbv, ?_⟩
  have stops : slowQueueRecord = slowQueueRecord.take 19 ++
      ⟨.stop ⟨"site", .plain⟩, none, [], 100⟩ :: slowQueueRecord.drop 20 := by cbv
  obtain ⟨history, record, -, calls⟩ := stopPass_drains_phases_or_reports_them (by decide)
    (slowQueue.yields_record (queueAndSite.map Member.component) (stopPass queueAndSite 100))
    (slowQueue.follows_record (queueAndSite.map Member.component) (stopPass queueAndSite 100))
  obtain ⟨earlier, calling, later, done, rest, rounds, traversal, -, -, drains⟩ :=
    calls _ _ _ _ stops rfl
  exact ⟨history, record, earlier, calling, later, rounds,
    traversal ▸ List.mem_append_right _ List.mem_cons_self,
    fun issuing inEarlier component signal reason given =>
      (drains issuing inEarlier component signal reason given).2⟩

end PhasedLifecycle
