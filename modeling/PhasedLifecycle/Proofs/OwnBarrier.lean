/-
This file shows that a stop pass asks after the barrier of its phase and after no other, and that it is
done with a component once the component has had its turn. So a pass has nothing to do with a barrier
whose wait has ended, and where every name has a component of its own, nothing with the components whose
signals were given out under it.

What carries this through the rounds is that nobody in the working set was asked to stop in the
background: a turn takes the name out of the set before the component is asked.
-/

import PhasedLifecycle.Proofs.Lockstep
import PhasedLifecycle.Proofs.StopRounds

namespace PhasedLifecycle

open Pass

/-! ### Questions that have to do with no barrier -/

/-- A question that is neither of the traversal nor of the wait of a phase. -/
def Request.isQuiet : Request → Prop
  | .phase _ | .isAutoStartup _ | .barrierMark | .note _ => True
  | _ => False

namespace Watch

/-- Every exchange that was seen was seen before a record or is one of the record's. -/
theorem request_of_mem_past {watch : Watch} {record : List Exchange} {exchange : Exchange}
    (there : exchange ∈ (watch.afterAll record).past) :
    exchange ∈ watch.past ∨ ∃ asked ∈ record, asked.request = exchange.request := by
  induction record generalizing watch with
  | nil => exact Or.inl there
  | cons asked record inductionHypothesis =>
    rcases inductionHypothesis there with seen | ⟨later, inside, same⟩
    · rcases List.mem_append.mp seen with seen | now
      · exact Or.inl seen
      · rw [List.mem_singleton.mp now]
        exact Or.inr ⟨asked, List.mem_cons_self, rfl⟩
    · exact Or.inr ⟨later, List.mem_cons_of_mem _ inside, same⟩

/-- Only a wait can tell that a barrier is over. -/
theorem elapsed_after (watch : Watch) {exchange : Exchange}
    (other : ∀ barrier deadline, exchange.request ≠ .nextArrival barrier deadline) :
    (watch.after exchange).elapsed = watch.elapsed := by
  obtain ⟨request, answer, meanwhile, instant⟩ := exchange
  cases request with
  | nextArrival barrier deadline => exact absurd rfl (other barrier deadline)
  | _ => rfl

theorem elapsed_afterAll (watch : Watch) {record : List Exchange}
    (others : ∀ exchange ∈ record, ∀ barrier deadline,
      exchange.request ≠ .nextArrival barrier deadline) :
    (watch.afterAll record).elapsed = watch.elapsed := by
  induction record generalizing watch with
  | nil => rfl
  | cons exchange record inductionHypothesis =>
    exact (inductionHypothesis (watch.after exchange) fun later there =>
      others later (List.mem_cons_of_mem _ there)).trans
        (watch.elapsed_after (others exchange List.mem_cons_self))

/-- Nobody in a working set was asked to stop in the background. -/
def Spares (watch : Watch) (left : WorkingSet) : Prop :=
  ∀ exchange ∈ watch.past, ∀ component signal, exchange.request = .stopAsync component signal →
    ∀ name, left.get? name ≠ some component

theorem Spares.afterAll {watch : Watch} {left : WorkingSet} (spares : watch.Spares left)
    {record : List Exchange} (none : ∀ exchange ∈ record, ∀ component signal,
      exchange.request = .stopAsync component signal → ∀ name, left.get? name ≠ some component) :
    (watch.afterAll record).Spares left := by
  intro exchange there component signal asks
  rcases request_of_mem_past there with seen | ⟨asked, inside, same⟩
  · exact spares exchange seen component signal asks
  · exact none asked inside component signal (same.trans asks)

theorem Spares.afterAll_of_quiet {watch : Watch} {left : WorkingSet} (spares : watch.Spares left)
    {record : List Exchange} (quiet : ∀ exchange ∈ record, exchange.request.isQuiet) :
    (watch.afterAll record).Spares left :=
  spares.afterAll fun exchange there component signal asks => by
    have quietly := quiet exchange there
    rw [asks] at quietly
    exact absurd quietly not_false

theorem heedsAll_of_quiet (watch : Watch) {record : List Exchange}
    (quiet : ∀ exchange ∈ record, exchange.request.isQuiet) : watch.HeedsAll record := by
  induction record generalizing watch with
  | nil => exact trivial
  | cons exchange record inductionHypothesis =>
    refine ⟨?_, inductionHypothesis _ fun other there => quiet other (List.mem_cons_of_mem _ there)⟩
    have quietly := quiet exchange List.mem_cons_self
    cases asks : exchange.request <;> rw [asks] at quietly <;>
      first | exact trivial | exact absurd quietly not_false

/-! ### The wait -/

/-- A wait asks after its own barrier, and tells at its end that the deadline has passed, if at all. -/
theorem heedsAll_of_awaits {watch : Watch} {mark deadline : Nat} {record : List Exchange}
    {arrivals : List Arrival} {expired : Bool} (awaits : Awaits mark deadline record arrivals expired)
    (current : mark ∉ watch.elapsed) : watch.HeedsAll record := by
  induction awaits generalizing watch with
  | enough => exact trivial
  | expired resolved instant => exact ⟨current, trivial⟩
  | arrived arrival resolved instant rest inductionHypothesis =>
    exact ⟨current, inductionHypothesis current⟩

end Watch

/-! ### The traversal -/

/-- What the turn of a component may ask. -/
def Request.IsOfTurn (component : Component) (mark : Nat) : Request → Prop
  | .isRunning asked => asked = component
  | .stop _ | .note _ => True
  | .stopAsync asked signal => asked = component ∧ signal.barrier = mark
  | .arrivals barrier => barrier = mark
  | _ => False

namespace Stopping

theorem asks_collect (component : Component) (stopping : Stopping) :
    stopping.collect.Asks (Request.IsOfTurn component stopping.barrier.mark) :=
  asks_bind (asks_ask rfl) fun _ => asks_pure _ _

theorem asks_fail (component : Component) (mark : Nat) (name reason : String) (stopping : Stopping) :
    (fail name reason stopping).Asks (Request.IsOfTurn component mark) :=
  asks_bind (asks_ask trivial) fun _ => asks_pure _ _

theorem asks_stopNow (name : String) (component : Component) (stopping : Stopping) :
    (stopNow name component stopping).Asks (Request.IsOfTurn component stopping.barrier.mark) := by
  refine asks_bind (asks_ask trivial) fun _ => asks_bind (asks_ask trivial) fun answer => ?_
  refine asks_bind (asks_collect component stopping) fun _ => ?_
  cases answer with
  | none => exact asks_bind (asks_ask trivial) fun _ => asks_pure _ _
  | some reason => exact asks_fail component _ name reason _

theorem asks_requestStop (foreign : Bool) (name : String) (component : Component)
    (stopping : Stopping) :
    (requestStop foreign name component stopping).Asks
      (Request.IsOfTurn component stopping.barrier.mark) := by
  have mark : (if foreign then stopping.barrier.extend else stopping.barrier).mark =
      stopping.barrier.mark := by
    cases foreign <;> rfl
  refine asks_bind (asks_ask trivial) fun _ => asks_bind (asks_ask ⟨rfl, mark⟩) fun answer => ?_
  refine asks_bind (mark ▸ asks_collect component _) fun _ => ?_
  cases answer with
  | none => exact asks_pure _ _
  | some reason => exact asks_fail component _ name reason _

theorem asks_turn (members : List String) (name : String) (component : Component)
    (stopping : Stopping) :
    (turn members name component stopping).Asks
      (Request.IsOfTurn component stopping.barrier.mark) := by
  refine asks_bind (asks_ask rfl) fun ran => ?_
  cases ran with
  | true =>
    rw [if_pos rfl]
    cases component.isSmart with
    | true => exact asks_requestStop _ name component stopping
    | false => exact asks_stopNow name component stopping
  | false =>
    rw [if_neg Bool.false_ne_true]
    split <;> exact asks_pure _ _

/-- What a stretch of a traversal may ask: after its own barrier, and after components that it takes
out of the working set. -/
def MayAsk (before after : Stopping) : Request → Prop
  | .isRunning component =>
    ∃ name, before.left.get? name = some component ∧ name ∉ after.left.names
  | .stopAsync component signal => signal.barrier = before.barrier.mark ∧
    ∃ name, before.left.get? name = some component ∧ name ∉ after.left.names
  | .arrivals barrier => barrier = before.barrier.mark
  | .now | .nextArrival _ _ | .barrierMark => False
  | _ => True

end Stopping

/-- A stretch of a traversal keeps to its barrier and to the names it takes out of the working set. -/
structure Confined (record : List Exchange) (before after : Stopping) : Prop where
  mark : after.barrier.mark = before.barrier.mark
  shrinks : ∀ name component,
    after.left.get? name = some component → before.left.get? name = some component
  asks : ∀ exchange ∈ record, before.MayAsk after exchange.request

namespace Confined

variable {members : List String} {record first last : List Exchange}
  {before middle after : Stopping}

theorem refl (stopping : Stopping) : Confined [] stopping stopping :=
  ⟨rfl, fun _ _ found => found, fun _ there => absurd there List.not_mem_nil⟩

theorem names_subset (confined : Confined record before after) :
    after.left.names ⊆ before.left.names := by
  intro name there
  obtain ⟨component, found⟩ := WorkingSet.get?_of_mem_names there
  exact WorkingSet.mem_names_of_get? (confined.shrinks name component found)

/-- What may be asked before more is taken out of the working set may be asked still. -/
theorem mayAsk_of_first {request : Request} (confined : Confined last middle after)
    (may : before.MayAsk middle request) : before.MayAsk after request := by
  cases request with
  | isRunning component =>
    obtain ⟨name, found, gone⟩ := may
    exact ⟨name, found, fun there => gone (confined.names_subset there)⟩
  | stopAsync component signal =>
    obtain ⟨mark, name, found, gone⟩ := may
    exact ⟨mark, name, found, fun there => gone (confined.names_subset there)⟩
  | _ => exact may

/-- What may be asked after something was taken out of the working set might have been asked
before. -/
theorem mayAsk_of_last {request : Request} (confined : Confined first before middle)
    (may : middle.MayAsk after request) : before.MayAsk after request := by
  cases request with
  | isRunning component =>
    obtain ⟨name, found, gone⟩ := may
    exact ⟨name, confined.shrinks name component found, gone⟩
  | stopAsync component signal =>
    obtain ⟨mark, name, found, gone⟩ := may
    exact ⟨mark.trans confined.mark, name, confined.shrinks name component found, gone⟩
  | arrivals barrier => exact may.trans confined.mark
  | _ => exact may

theorem trans (head : Confined first before middle) (tail : Confined last middle after) :
    Confined (first ++ last) before after where
  mark := tail.mark.trans head.mark
  shrinks := fun name component found => head.shrinks name component (tail.shrinks name component found)
  asks := by
    intro exchange there
    rcases List.mem_append.mp there with there | there
    · exact tail.mayAsk_of_first (head.asks exchange there)
    · exact head.mayAsk_of_last (tail.asks exchange there)

theorem foldlM {Entry : Type} {step : Stopping → Entry → Pass Stopping} {entries : List Entry}
    (each : ∀ {stopping result record} (entry : Entry), (step stopping entry).Yields record result →
      Confined record stopping result)
    (yields : (entries.foldlM step before).Yields record after) : Confined record before after := by
  induction entries generalizing before record with
  | nil =>
    obtain ⟨rfl, rfl⟩ := yields
    exact refl _
  | cons entry entries inductionHypothesis =>
    obtain ⟨first, middle, last, round, rounds, rfl⟩ := yields_foldlM_cons.mp yields
    exact (each entry round).trans (inductionHypothesis rounds)

/-- The turn of a component whose name was taken out of the working set. It leaves the working set
alone; what it may ask is judged by what was taken before. -/
theorem turn {name : String} {component : Component}
    (found : before.left.get? name = some component)
    (descended : Confined first { before with left := before.left.erase name } middle)
    (yields : (Stopping.turn members name component middle).Yields last after) :
    Confined (first ++ last) before after := by
  obtain ⟨turn, -, -, span⟩ := Stopping.yields_turn yields
  have gone : name ∉ after.left.names := by
    rw [span.left]
    intro there
    exact ((WorkingSet.mem_names_erase _ _ _).mp (descended.names_subset there)).2 rfl
  have taken : Confined [] before { before with left := before.left.erase name } := by
    refine ⟨rfl, fun other component kept => ?_, fun _ there => absurd there List.not_mem_nil⟩
    dsimp only at kept
    rw [WorkingSet.erase_eq_without] at kept
    exact (WorkingSet.get?_without kept).2
  have whole := taken.trans descended
  have own : Confined [] middle after := ⟨span.mark,
    fun other component kept => span.left ▸ kept, fun _ there => absurd there List.not_mem_nil⟩
  have both := whole.trans own
  rw [List.append_nil] at both
  refine ⟨both.mark, both.shrinks, fun exchange there => ?_⟩
  rcases List.mem_append.mp there with there | there
  · exact both.asks exchange there
  · have asks := yields.request_of_asks (Stopping.asks_turn members name component middle) exchange
      there
    rw [descended.mark] at asks
    cases asked : exchange.request with
    | isRunning other =>
      rw [asked] at asks
      obtain rfl : other = component := asks
      exact ⟨name, found, gone⟩
    | stopAsync other signal =>
      rw [asked] at asks
      obtain ⟨rfl, mark⟩ : other = component ∧ signal.barrier = before.barrier.mark := asks
      exact ⟨mark, name, found, gone⟩
    | arrivals _ | now | nextArrival _ _ | barrierMark =>
      rw [asked] at asks
      exact asks
    | _ => exact trivial

theorem visit {depth : Nat} {name : String}
    (yields : (Stopping.visit members depth before name).Yields record after) :
    Confined record before after := by
  induction depth generalizing before after record name with
  | zero =>
    obtain ⟨rfl, rfl⟩ := yields
    exact refl _
  | succ depth inductionHypothesis =>
    cases found : before.left.get? name with
    | none =>
      rw [Stopping.visit, found] at yields
      obtain ⟨rfl, rfl⟩ := yields
      exact refl _
    | some component =>
      rw [Stopping.visit, found] at yields
      obtain ⟨dependents, resolved, instant, rest, rfl, answered⟩ := yields_ask_bind.mp yields
      obtain ⟨first, middle, last, descended, turned, rfl⟩ := yields_bind.mp answered
      have below := turn found (foldlM (fun next goes => inductionHypothesis goes) descended) turned
      refine ⟨below.mark, below.shrinks, fun exchange there => ?_⟩
      rcases List.mem_cons.mp there with rfl | there
      · exact trivial
      · exact below.asks exchange there

end Confined

theorem Group.confined_traverse {group : Group} {mark : Nat} {left : WorkingSet} {report : StopReport}
    {after : Stopping} {record : List Exchange}
    (yields : (group.traverse mark left report).Yields record after) :
    Confined record { left, barrier := { mark, remaining := group.smartCount }, report } after := by
  refine Confined.foldlM (fun member reached => ?_) yields
  unfold Group.reach at reached
  split at reached
  · exact Confined.visit reached
  · split at reached <;>
    · obtain ⟨rfl, rfl⟩ := reached
      exact ⟨rfl, fun _ _ found => found, fun _ there => absurd there List.not_mem_nil⟩

/-! ### Whole passes -/

/-- Every component stands in the set under one name. -/
def WorkingSet.Separate (set : WorkingSet) : Prop :=
  ∀ name other component, set.get? name = some component → set.get? other = some component →
    name = other

theorem WorkingSet.separate_ofList {snapshot : List Member}
    (separate : (snapshot.map (·.component)).Nodup) : (ofList snapshot).Separate := by
  intro name other component found foundOther
  have same : (⟨name, component⟩ : Member) = ⟨other, component⟩ :=
    List.inj_on_of_nodup_map separate (mem_of_get?_ofList found) (mem_of_get?_ofList foundOther) rfl
  exact congrArg Member.name same

namespace Confined

variable {record : List Exchange} {before after : Stopping} {watch : Watch}

/-- A stretch of a traversal has nothing to do with barriers that are over, if its own is not. A signal
that is given out in it is one of the current barrier, so it is not late. -/
theorem heedsAll (asks : ∀ exchange ∈ record, before.MayAsk after exchange.request)
    (current : before.barrier.mark ∉ watch.elapsed)
    (apart : ∀ exchange ∈ watch.past, ∀ component signal,
      exchange.request = .stopAsync component signal → signal.barrier ∈ watch.elapsed →
        ∀ name, before.left.get? name ≠ some component) :
    watch.HeedsAll record := by
  induction record generalizing watch with
  | nil => exact trivial
  | cons exchange record inductionHypothesis =>
    have now := asks exchange List.mem_cons_self
    have unexpired : (watch.after exchange).elapsed = watch.elapsed :=
      watch.elapsed_after fun barrier deadline asked => by
        rw [asked] at now
        exact now
    refine ⟨?_, inductionHypothesis (fun later there => asks later (List.mem_cons_of_mem _ there))
      (unexpired ▸ current) ?_⟩
    · cases asked : exchange.request with
      | arrivals barrier =>
        rw [asked] at now
        obtain rfl : barrier = before.barrier.mark := now
        exact current
      | stopAsync component signal =>
        rw [asked] at now
        obtain ⟨mark, -⟩ := now
        show signal.barrier ∉ watch.elapsed
        rwa [mark]
      | isRunning component =>
        rw [asked] at now
        obtain ⟨name, found, -⟩ := now
        rintro ⟨earlier, there, signal, given, elapsed⟩
        exact apart earlier there component signal given elapsed name found
      | nextArrival barrier deadline =>
        rw [asked] at now
        exact absurd now not_false
      | _ => exact trivial
    · rw [unexpired]
      intro earlier there component signal given elapsed name
      rcases List.mem_append.mp there with there | there
      · exact apart earlier there component signal given elapsed name
      · rw [List.mem_singleton.mp there] at given
        rw [show exchange.request = .stopAsync component signal from given] at now
        exact absurd elapsed (now.1 ▸ current)

/-- Who is still in the working set after a stretch was not asked to stop in it. What was asked was
asked under the name that was taken out, and it stands under no other. -/
theorem spares (confined : Confined record before after) (separate : before.left.Separate)
    (spares : watch.Spares before.left) : (watch.afterAll record).Spares after.left := by
  have stays : watch.Spares after.left := fun exchange there component signal asks name found =>
    spares exchange there component signal asks name (confined.shrinks name component found)
  refine stays.afterAll fun exchange there component signal given name found => ?_
  have may := confined.asks exchange there
  rw [given] at may
  obtain ⟨-, other, drawn, gone⟩ := may
  obtain rfl := separate name other component (confined.shrinks name component found) drawn
  exact gone (WorkingSet.mem_names_of_get? found)

theorem separate (confined : Confined record before after) (separate : before.left.Separate) :
    after.left.Separate := fun name other component found foundOther =>
  separate name other component (confined.shrinks name component found)
    (confined.shrinks other component foundOther)

end Confined

namespace StopRound.Runs

variable {round : StopRound}

theorem quiet_opening (runs : round.Runs) :
    ∀ exchange ∈ round.opening, exchange.request.isQuiet :=
  runs.opened.request_of_asks (asks_opens (fun _ => trivial) (fun _ => trivial) trivial _)

theorem quiet_closing (runs : round.Runs) :
    ∀ exchange ∈ round.closing, exchange.request.isQuiet :=
  runs.settled.request_of_asks (Group.asks_settle (fun _ => trivial) _ _ _)

/-- The barrier of a round is not over when the round has been opened. -/
theorem current (runs : round.Runs) {script : Script} {watch : Watch}
    (plays : script.Plays watch round.opening) :
    round.mark ∉ (watch.afterAll round.opening).elapsed := by
  obtain ⟨asides, resolved, instant, opening⟩ := runs.opening_eq
  rw [opening] at plays ⊢
  obtain ⟨-, -, ⟨fresh, -⟩, -⟩ := Script.plays_append.mp plays
  rw [Watch.afterAll_append]
  exact fresh

/-- A round has nothing to do with barriers that are over, and nobody who is left after it was asked to
stop in the background. -/
theorem heeds (runs : round.Runs) {script : Script} {watch : Watch}
    (plays : script.Plays watch round.record) (separate : round.left.Separate)
    (spares : watch.Spares round.left) :
    watch.HeedsAll round.record ∧ (watch.afterAll round.record).Spares round.stopping.left ∧
      round.stopping.left.Separate := by
  have confined := Group.confined_traverse runs.traversed
  have opening := runs.quiet_opening
  have current := runs.current (Script.plays_append.mp plays).1
  have sparesOpened := spares.afterAll_of_quiet opening
  have traversed := confined.spares separate sparesOpened
  obtain ⟨now, resolved, instant, rest, arrivals, expired, waiting, awaits, -⟩ :=
    Barrier.yields_await runs.awaited
  have sparesWaited : (((watch.afterAll round.opening).afterAll round.traversal).afterAll
      round.waiting).Spares round.stopping.left :=
    traversed.afterAll fun exchange there component signal asks => by
      have aside := runs.aside_waiting exchange there
      rw [asks] at aside
      exact absurd aside not_false
  have elapsed : ((watch.afterAll round.opening).afterAll round.traversal).elapsed =
      (watch.afterAll round.opening).elapsed :=
    Watch.elapsed_afterAll _ fun exchange there barrier deadline asks => by
      have may := confined.asks exchange there
      rw [asks] at may
      exact may
  refine ⟨?_, ?_, confined.separate separate⟩
  · rw [StopRound.record, Watch.heedsAll_append, Watch.heedsAll_append, Watch.heedsAll_append]
    refine ⟨watch.heedsAll_of_quiet opening, ?_, ?_, Watch.heedsAll_of_quiet _ runs.quiet_closing⟩
    · exact Confined.heedsAll confined.asks current fun exchange there component signal asks _ =>
        sparesOpened exchange there component signal asks
    · rw [waiting]
      refine ⟨trivial, Watch.heedsAll_of_awaits awaits ?_⟩
      show round.stopping.barrier.mark ∉
        ((watch.afterAll round.opening).afterAll round.traversal).elapsed
      rw [elapsed, confined.mark]
      exact current
  · rw [StopRound.record, Watch.afterAll_append, Watch.afterAll_append, Watch.afterAll_append]
    exact sparesWaited.afterAll_of_quiet runs.quiet_closing

end StopRound.Runs

theorem StopRounds.heeds {groups : List Group} {left laterLeft : WorkingSet}
    {before after : StopReport} {rounds : List StopRound} {script : Script} {watch : Watch}
    (chained : StopRounds groups left before rounds laterLeft after)
    (plays : script.Plays watch (rounds.flatMap StopRound.record)) (separate : left.Separate)
    (spares : watch.Spares left) : watch.HeedsAll (rounds.flatMap StopRound.record) := by
  induction chained generalizing watch with
  | nil left report => exact trivial
  | cons runs rest inductionHypothesis =>
    rw [List.flatMap_cons] at plays ⊢
    obtain ⟨playsNow, playsLater⟩ := Script.plays_append.mp plays
    obtain ⟨heeds, sparesLater, separateLater⟩ := runs.heeds playsNow separate spares
    exact Watch.heedsAll_append.mpr
      ⟨heeds, inductionHypothesis playsLater separateLater sparesLater⟩

/-- Where every name has a component of its own, a stop pass has nothing to do with barriers that are
over, nor with the components whose signals were given out under them. -/
theorem heedsAll_stopPass {snapshot : List Member} {timeout : Nat} {record : List Exchange}
    {report : StopReport} {script : Script} {elapsed : List Nat}
    (separate : (snapshot.map (·.component)).Nodup)
    (yields : (stopPass snapshot timeout).Yields record report)
    (plays : script.Plays { elapsed } record) : Watch.HeedsAll { elapsed } record := by
  obtain ⟨history, rfl, rfl⟩ := exists_stopHistory yields
  have quiet : ∀ exchange ∈ history.gathering, exchange.request.isQuiet :=
    history.gathered.request_of_asks
      (asks_gathering (fun _ => trivial) (fun _ _ => trivial) snapshot timeout)
  have spares : Watch.Spares { elapsed } (WorkingSet.ofList snapshot) :=
    fun exchange there => absurd there List.not_mem_nil
  rw [StopHistory.record] at plays ⊢
  refine Watch.heedsAll_append.mpr ⟨Watch.heedsAll_of_quiet _ quiet, ?_⟩
  exact history.chained.heeds (Script.plays_append.mp plays).2 (WorkingSet.separate_ofList separate)
    (spares.afterAll_of_quiet quiet)

end PhasedLifecycle
