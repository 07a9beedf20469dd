/-
This file bounds how many questions a pass asks, whatever it is answered. A pass has a few questions to
spend for every name that is left, for every member of a group and for every signal that is awaited.
What it spends is gone: a name leaves the working set before its edges are followed, so a circle of
edges, or edges that change from one answer to the next, cost no more than others.
-/

import Mathlib.Algebra.GroupWithZero.Nat
import PhasedLifecycle.Proofs.Groups
import PhasedLifecycle.Proofs.Waiting

namespace PhasedLifecycle

namespace Pass

variable {First Second Value : Type}

/-! ### Budgets -/

/-- Whatever the answers, the questions of the pass and what is due after its value are within a
budget. -/
def Spends (pass : Pass Value) (budget : Nat) (due : Value → Nat) : Prop :=
  ∀ record result, pass.Yields record result → record.length + due result ≤ budget

theorem spends_pure {value : Value} {budget : Nat} {due : Value → Nat} (enough : due value ≤ budget) :
    (pure value : Pass Value).Spends budget due := by
  rintro record result ⟨rfl, rfl⟩
  simpa using enough

theorem Spends.mono {pass : Pass Value} {budget larger : Nat} {due : Value → Nat}
    (spends : pass.Spends budget due) (larger_le : budget ≤ larger) : pass.Spends larger due :=
  fun record result yields => (spends record result yields).trans larger_le

/-- A budget has room for what is due anyway. -/
theorem Spends.add {pass : Pass Value} {budget : Nat} {due : Value → Nat}
    (spends : pass.Spends budget due) (more : Nat) :
    pass.Spends (budget + more) fun value => due value + more :=
  fun record result yields => by
    have bound := spends record result yields
    dsimp only
    omega

theorem spends_ask_bind {request : Request} {next : request.Answer → Pass Value} {budget : Nat}
    {due : Value → Nat} (goesOn : ∀ answer, (next answer).Spends budget due) :
    (ask request >>= next).Spends (budget + 1) due := by
  intro record result yields
  obtain ⟨answer, _, _, rest, rfl, answered⟩ := yields_ask_bind.mp yields
  have bound := goesOn answer rest result answered
  rw [List.length_cons]
  omega

theorem spends_bind {pass : Pass First} {next : First → Pass Second} {budget : Nat}
    {middle : First → Nat} {due : Second → Nat} (first : pass.Spends budget middle)
    (second : ∀ value, (next value).Spends (middle value) due) : (pass >>= next).Spends budget due := by
  intro record result yields
  obtain ⟨front, value, back, firstYields, secondYields, rfl⟩ := yields_bind.mp yields
  have boundFirst := first front value firstYields
  have boundSecond := second value back result secondYields
  rw [List.length_append]
  omega

/-- A loop spends what its rounds cost. -/
theorem spends_foldlM {Entry State : Type} {step : State → Entry → Pass State} {due : State → Nat}
    (cost : Entry → Nat) (each : ∀ state entry, (step state entry).Spends (due state + cost entry) due)
    (entries : List Entry) (state : State) :
    (entries.foldlM step state).Spends (due state + (entries.map cost).sum) due := by
  induction entries generalizing state with
  | nil => exact spends_pure (Nat.le_refl _)
  | cons entry entries inductionHypothesis =>
    rw [List.foldlM_cons]
    have round := (each state entry).add (entries.map cost).sum
    rw [Nat.add_assoc] at round
    exact spends_bind round inductionHypothesis

/-- A loop costs nothing but what its rounds take off what is due. -/
theorem spends_foldlM_of_free {Entry State : Type} {step : State → Entry → Pass State}
    {due : State → Nat} (each : ∀ state entry, (step state entry).Spends (due state) due)
    (entries : List Entry) (state : State) : (entries.foldlM step state).Spends (due state) due := by
  have spends := spends_foldlM (fun _ => 0) each entries state
  simpa using spends

end Pass

open Pass

/-! ### Gathering and sorting -/

theorem Component.spends_phase (component : Component) : component.phase.Spends 1 fun _ => 0 := by
  unfold Component.phase
  cases component.capability with
  | plain => exact spends_pure (Nat.zero_le _)
  | phased => exact spends_ask_bind fun _ => spends_pure (Nat.le_refl _)
  | smart => exact spends_ask_bind fun _ => spends_pure (Nat.le_refl _)

theorem Component.spends_isWanted (autoOnly : Bool) (component : Component) :
    (component.isWanted autoOnly).Spends 1 fun _ => 0 := by
  unfold Component.isWanted Component.isAutoStartup
  cases autoOnly with
  | false => exact spends_pure (Nat.zero_le _)
  | true =>
    cases component.capability with
    | plain => exact spends_pure (Nat.zero_le _)
    | phased => exact spends_pure (Nat.zero_le _)
    | smart => exact spends_ask_bind fun _ => spends_pure (Nat.le_refl _)

theorem Group.spends_phases (group : Group) :
    group.phases.Spends group.members.length fun _ => 0 := by
  unfold Group.phases
  induction group.members with
  | nil => exact spends_pure (Nat.le_refl _)
  | cons member members inductionHypothesis =>
    have others : ∀ entry : Int × Member,
        ((members.mapM fun member => return (← member.component.phase, member)) >>=
          fun entries => pure (entry :: entries) : Pass (List (Int × Member))).Spends
            members.length fun _ => 0 :=
      fun entry => spends_bind inductionHypothesis fun _ => spends_pure (Nat.le_refl _)
    have first : (do return (← member.component.phase, member) : Pass (Int × Member)).Spends
        (members.length + 1) fun _ => members.length := by
      have asked := member.component.spends_phase.add members.length
      simp only [Nat.zero_add, Nat.add_comm 1] at asked
      exact spends_bind asked fun _ => spends_pure (Nat.le_refl _)
    rw [List.mapM_cons]
    exact spends_bind first others

/-- To sort a group takes a question for each member. -/
theorem Group.spends_ascending (group : Group) :
    group.ascending.Spends group.members.length fun _ => 0 :=
  spends_bind group.spends_phases fun _ => spends_pure (Nat.le_refl _)

theorem Group.spends_descending (group : Group) :
    group.descending.Spends group.members.length fun _ => 0 :=
  spends_bind group.spends_phases fun _ => spends_pure (Nat.le_refl _)

/-- What is due for groups: an amount for each of them, and one for each of their members. -/
def dueFor (opening each : Nat) (groups : List Group) : Nat :=
  (groups.map fun group => opening + each * group.members.length).sum

theorem dueFor_addToGroups {empty : Group} (bare : empty.members = []) (opening each : Nat)
    (member : Member) (groups : List Group) :
    dueFor opening each (addToGroups empty member groups) ≤
      dueFor opening each groups + (opening + each) := by
  unfold dueFor
  induction groups with
  | nil => simp [addToGroups, Group.add, bare]
  | cons group groups inductionHypothesis =>
    rw [addToGroups]
    split
    · simp [Group.add, bare]
      omega
    · split
      · simp [Group.add, Nat.mul_add]
        omega
      · simp only [List.map_cons, List.sum_cons]
        omega

/-- To gather the groups of a snapshot takes two questions for each listed name, besides what is due for
the groups. -/
theorem spends_groupSnapshot (snapshot : List Member) (timeout : Nat) (autoOnly : Bool)
    (opening each : Nat) :
    (groupSnapshot snapshot timeout autoOnly).Spends ((opening + each + 2) * snapshot.length)
      (dueFor opening each) := by
  have gathers : ∀ (groups : List Group) (listed : Member),
      (gather (WorkingSet.ofList snapshot) timeout autoOnly groups listed).Spends
        (dueFor opening each groups + (opening + each + 2)) (dueFor opening each) := by
    intro groups listed
    unfold gather
    cases (WorkingSet.ofList snapshot).get? listed.name with
    | none => exact spends_pure (Nat.le_add_right _ _)
    | some component =>
      have wanted := (component.spends_isWanted autoOnly).add
        (dueFor opening each groups + (opening + each + 1))
      refine Spends.mono (spends_bind wanted fun isWanted => ?_) (by omega)
      cases isWanted with
      | false => exact spends_pure (by omega)
      | true =>
        have asked := component.spends_phase.add (dueFor opening each groups + (opening + each))
        refine Spends.mono (spends_bind asked fun phase => spends_pure ?_) (by omega)
        rw [Nat.zero_add]
        exact dueFor_addToGroups rfl opening each _ groups
  have spends := spends_foldlM (fun _ => opening + each + 2) gathers snapshot []
  rw [List.map_const', List.sum_replicate_nat, Nat.mul_comm] at spends
  exact spends.mono (Nat.le_of_eq (Nat.zero_add _))

/-! ### Start passes -/

namespace Starting

/-- What a start under way may still ask: six questions for each name that is left. -/
def due (starting : Starting) : Nat :=
  6 * starting.left.size

theorem spends_turn (autoOnly : Bool) (name : String) (component : Component) (starting : Starting) :
    (turn autoOnly name component starting).Spends (starting.due + 5) due := by
  refine spends_ask_bind fun ran => ?_
  cases ran with
  | true => exact spends_pure (Nat.le_add_right _ _)
  | false =>
    have wanted := (component.spends_isWanted autoOnly).add (starting.due + 3)
    refine Spends.mono (spends_bind wanted fun isWanted => ?_) (by omega)
    cases isWanted with
    | false => exact spends_pure (by omega)
    | true =>
      refine Spends.mono (spends_ask_bind fun _ => spends_ask_bind fun reason => ?_ : Spends _
        (starting.due + 1 + 1 + 1) _) (by omega)
      cases reason with
      | some reason => exact spends_pure (Nat.le_add_right _ _)
      | none => exact spends_ask_bind fun _ => spends_pure (Nat.le_refl _)

theorem spends_visit (autoOnly : Bool) (depth : Nat) (starting : Starting) (name : String) :
    (visit autoOnly depth starting name).Spends starting.due due := by
  induction depth generalizing starting name with
  | zero => exact spends_pure (Nat.le_refl _)
  | succ depth inductionHypothesis =>
    rw [visit]
    split
    · rename_i component unfailed found
      have smaller := starting.left.size_erase_lt name (WorkingSet.mem_names_of_get? found)
      have below := fun dependencies => (spends_foldlM_of_free inductionHypothesis dependencies
        { starting with left := starting.left.erase name }).add 5
      refine Spends.mono (spends_ask_bind fun dependencies => spends_bind (below dependencies)
        fun middle => ?_) ?_
      · split
        · exact spends_pure (Nat.le_add_right _ _)
        · exact spends_turn autoOnly name component middle
      · unfold due
        dsimp only
        omega
    · exact spends_pure (Nat.le_refl _)

theorem spends_start (autoOnly : Bool) (starting : Starting) (name : String) :
    (start autoOnly starting name).Spends starting.due due :=
  spends_visit autoOnly _ starting name

end Starting

/-- To start groups takes two questions for each group and one for each member, besides what is due for
the names that are left. -/
theorem spends_startGroups (groups : List Group) (starting : Starting) :
    (startGroups groups starting).Spends (starting.due + dueFor 2 1 groups) Starting.due := by
  refine spends_foldlM (fun group => 2 + 1 * group.members.length) (fun starting group => ?_)
    groups starting
  split
  · exact spends_pure (Nat.le_add_right _ _)
  · have starts : (group.start starting.left).Spends
        (starting.due + (1 + group.members.length)) fun result => result.2.due := by
      unfold Group.start
      split
      · exact spends_pure (Nat.le_add_right _ _)
      · have sorted := group.spends_ascending.add starting.due
        refine Spends.mono (spends_ask_bind fun _ => spends_bind sorted fun arranged => ?_)
          (by omega)
        rw [Nat.zero_add]
        exact spends_bind (spends_foldlM_of_free (fun starting member =>
          Starting.spends_start _ starting member.name) arranged.members { left := starting.left })
          fun _ => spends_pure (Nat.le_refl _)
    refine Spends.mono (spends_ask_bind fun _ => spends_bind starts fun result =>
      spends_pure (Nat.le_refl _)) (by omega)

/-- Whatever it is answered, a start pass asks at most eleven questions for each listed name. -/
theorem length_le_of_startPass {snapshot : List Member} {timeout : Nat} {autoOnly : Bool}
    {record : List Exchange} {outcome : Except LifecycleError Unit}
    (yields : (startPass snapshot timeout autoOnly).Yields record outcome) :
    record.length ≤ 11 * snapshot.length := by
  have size := WorkingSet.size_ofList_le snapshot
  have gathers := (spends_groupSnapshot snapshot timeout autoOnly 2 1).add
    (6 * (WorkingSet.ofList snapshot).size)
  have spends : (startPass snapshot timeout autoOnly).Spends
      ((2 + 1 + 2) * snapshot.length + 6 * (WorkingSet.ofList snapshot).size) fun _ => 0 := by
    refine spends_bind gathers fun groups => ?_
    refine spends_bind (Spends.mono (spends_startGroups groups _) ?_) fun starting => ?_
    · exact Nat.le_of_eq (Nat.add_comm _ _)
    · split <;> exact spends_pure (Nat.zero_le _)
  have bound := spends record outcome yields
  omega

/-! ### Stop passes -/

namespace Stopping

/-- What a stop under way may still ask: eight questions for each name that is left, and two for each
signal that is awaited. -/
def due (stopping : Stopping) : Nat :=
  8 * stopping.left.size + 2 * stopping.barrier.remaining

theorem spends_collect (stopping : Stopping) : stopping.collect.Spends (stopping.due + 1) due := by
  have folded : ∀ (arrivals : List Arrival) (barrier : Barrier),
      (arrivals.foldl Barrier.resolve barrier).remaining = barrier.remaining := by
    intro arrivals
    induction arrivals with
    | nil => exact fun _ => rfl
    | cons arrival arrivals inductionHypothesis => exact fun barrier => inductionHypothesis _
  refine spends_ask_bind fun arrivals => spends_pure ?_
  unfold due
  rw [folded]

theorem spends_fail (name reason : String) (stopping : Stopping) :
    (fail name reason stopping).Spends (stopping.due + 1) due :=
  spends_ask_bind fun _ => spends_pure (Nat.le_refl _)

theorem spends_stopNow (name : String) (component : Component) (stopping : Stopping) :
    (stopNow name component stopping).Spends (stopping.due + 4) due := by
  refine spends_ask_bind fun _ => spends_ask_bind fun answer => ?_
  refine spends_bind (stopping.spends_collect.add 1) fun collected => ?_
  cases answer with
  | some reason => exact collected.spends_fail name reason
  | none => exact spends_ask_bind fun _ => spends_pure (Nat.le_refl _)

theorem spends_requestStop (foreign : Bool) (name : String) (component : Component)
    (stopping : Stopping) :
    (requestStop foreign name component stopping).Spends (stopping.due + 6) due := by
  have extended : (if foreign then stopping.barrier.extend else stopping.barrier).remaining ≤
      stopping.barrier.remaining + 1 := by
    split
    · exact Nat.mod_le _ _
    · exact Nat.le_succ _
  refine spends_ask_bind fun _ => ?_
  dsimp only
  generalize (if foreign then stopping.barrier.extend else stopping.barrier) = barrier at extended
  refine Spends.mono (spends_ask_bind fun answer => spends_bind
    (Spends.add (spends_collect { stopping with barrier := barrier.issue name }) 1)
      fun collected => ?_) ?_
  · cases answer with
    | some reason => exact collected.spends_fail name reason
    | none => exact spends_pure (Nat.le_succ _)
  · unfold due
    dsimp only [Barrier.issue]
    omega

theorem spends_turn (members : List String) (name : String) (component : Component)
    (stopping : Stopping) : (turn members name component stopping).Spends (stopping.due + 7) due := by
  refine spends_ask_bind fun ran => ?_
  split
  · split
    · exact spends_requestStop _ name component stopping
    · exact (spends_stopNow name component stopping).mono (by omega)
  · split
    · refine spends_pure ?_
      unfold due Barrier.countDown
      dsimp only
      omega
    · exact spends_pure (Nat.le_add_right _ _)

theorem spends_visit (members : List String) (depth : Nat) (stopping : Stopping) (name : String) :
    (visit members depth stopping name).Spends stopping.due due := by
  induction depth generalizing stopping name with
  | zero => exact spends_pure (Nat.le_refl _)
  | succ depth inductionHypothesis =>
    rw [visit]
    split
    · exact spends_pure (Nat.le_refl _)
    · rename_i component found
      have smaller := stopping.left.size_erase_lt name (WorkingSet.mem_names_of_get? found)
      have below := fun dependents => (spends_foldlM_of_free inductionHypothesis dependents
        { stopping with left := stopping.left.erase name }).add 7
      refine Spends.mono (spends_ask_bind fun dependents => spends_bind (below dependents)
        fun middle => spends_turn members name component middle) ?_
      unfold due
      dsimp only
      omega

end Stopping

/-- A wait asks for the time, and at most once more than signals are awaited; and it hears at most of as
many dropped signals. -/
theorem Barrier.spends_await (barrier : Barrier) (timeout : Nat) :
    (barrier.await timeout).Spends (2 * barrier.remaining + 2) fun outcome =>
      outcome.abandoned.length := by
  have asks : ∀ (deadline questions : Nat) (wait : Wait),
      (Wait.run deadline questions wait).Spends questions fun _ => 0 := by
    intro deadline questions
    induction questions with
    | zero => exact fun wait => spends_pure (Nat.le_refl _)
    | succ questions inductionHypothesis =>
      intro wait
      rw [Wait.run]
      split
      · exact spends_pure (Nat.zero_le _)
      · refine spends_ask_bind fun answer => ?_
        cases answer with
        | none => exact spends_pure (Nat.zero_le _)
        | some arrival => exact inductionHypothesis _
  intro record outcome yields
  have bound := spends_ask_bind (fun now => asks (now + timeout) (barrier.remaining + 1) { barrier })
    record outcome yields
  obtain ⟨_, _, _, _, _, _, -, -, ends⟩ := Barrier.yields_await yields
  have taken : outcome.abandoned.length ≤ barrier.remaining := by
    rw [ends.abandoned, List.nil_append, endedIn, List.length_map]
    exact (List.length_filter_le _ _).trans (List.length_take_le _ _)
  dsimp only
  omega

theorem Group.spends_settle (group : Group) (outcome : BarrierOutcome) (report : StopReport) :
    (group.settle outcome report).Spends (outcome.abandoned.length + 1) fun _ => 0 := by
  have drops : ∀ (report : StopReport) (name : String),
      (report.recordDropped name).Spends (0 + 1) fun _ => 0 := by
    intro report name
    unfold StopReport.recordDropped
    split
    · exact spends_pure (Nat.zero_le _)
    · exact spends_ask_bind fun _ => spends_pure (Nat.le_refl _)
  have dropped := spends_foldlM (fun _ => 1) drops outcome.abandoned
    (outcome.completed.foldl StopReport.recordStopped report)
  rw [List.map_const', List.sum_replicate_nat, Nat.mul_one, Nat.zero_add] at dropped
  refine spends_bind (dropped.add 1) fun settled => ?_
  split
  · exact spends_ask_bind fun _ => spends_pure (Nat.le_refl _)
  · exact spends_pure (Nat.zero_le _)

theorem Group.spends_traverse (group : Group) (mark : Nat) (left : WorkingSet) (report : StopReport) :
    (group.traverse mark left report).Spends (8 * left.size + 2 * group.members.length)
      Stopping.due := by
  have reaches : ∀ (stopping : Stopping) (member : Member),
      (group.reach left stopping member).Spends stopping.due Stopping.due := by
    intro stopping member
    unfold Group.reach
    split
    · exact Stopping.spends_visit _ _ stopping member.name
    · split
      · refine spends_pure ?_
        unfold Stopping.due Barrier.countDown
        dsimp only
        omega
      · exact spends_pure (Nat.le_refl _)
  have smart : group.smartCount ≤ group.members.length := List.countP_le_length
  refine (spends_foldlM_of_free reaches group.members _).mono ?_
  unfold Stopping.due
  dsimp only
  omega

theorem Group.spends_stop (group : Group) (left : WorkingSet) (report : StopReport) :
    (group.stop left report).Spends (8 * left.size + (5 + 3 * group.members.length)) fun result =>
      8 * result.2.1.size := by
  have sorts : group.descending.Spends (3 * group.members.length) fun sorted =>
      2 * sorted.members.length := by
    intro record sorted yields
    have bound := group.spends_descending record sorted yields
    have length := (Group.yields_descending yields).members.length_eq
    dsimp only at bound ⊢
    omega
  unfold Group.stop
  split
  · exact spends_pure (Nat.le_add_right _ _)
  · have begins : group.beginStop.Spends (8 * left.size + (5 + 3 * group.members.length))
        fun result => 8 * left.size + 2 * result.1.members.length + 3 := by
      refine Spends.mono (spends_ask_bind fun _ => spends_bind (sorts.add (8 * left.size + 4))
        fun sorted => ?_) (by omega)
      have marks : (do return (sorted, ← ask .barrierMark) : Pass (Group × Nat)).Spends
          (8 * left.size + 2 * sorted.members.length + 3 + 1) fun result =>
            8 * left.size + 2 * result.1.members.length + 3 :=
        spends_ask_bind fun mark => spends_pure (Nat.le_refl _)
      exact marks.mono (by omega)
    refine spends_bind begins fun ⟨sorted, mark⟩ => ?_
    refine spends_bind ((sorted.spends_traverse mark left report).add 3) fun stopping => ?_
    refine Spends.mono (spends_bind ((stopping.barrier.spends_await sorted.timeout).add
      (8 * stopping.left.size + 1)) fun outcome => ?_) ?_
    · refine Spends.mono (spends_bind ((sorted.spends_settle outcome stopping.report).add
        (8 * stopping.left.size)) fun report => spends_pure ?_) ?_
      · exact Nat.le_of_eq (Nat.zero_add _).symm
      · omega
    · unfold Stopping.due
      omega

/-- To stop groups takes six questions for each group and three for each member, besides what is due for
the names that are left. -/
theorem spends_stopGroups (groups : List Group) (left : WorkingSet) (report : StopReport) :
    (stopGroups groups left report).Spends (8 * left.size + dueFor 6 3 groups) fun stopped =>
      8 * stopped.1.size := by
  refine spends_foldlM (fun group => 6 + 3 * group.members.length) (fun stopped group => ?_) groups
    (left, report)
  refine Spends.mono (spends_ask_bind fun _ => spends_bind
    (group.spends_stop stopped.1 stopped.2) fun result => spends_pure (Nat.le_refl _)) (by omega)

/-- Whatever it is answered, a stop pass asks at most nineteen questions for each listed name. -/
theorem length_le_of_stopPass {snapshot : List Member} {timeout : Nat} {record : List Exchange}
    {report : StopReport} (yields : (stopPass snapshot timeout).Yields record report) :
    record.length ≤ 19 * snapshot.length := by
  have size := WorkingSet.size_ofList_le snapshot
  have gathers := (spends_groupSnapshot snapshot timeout false 6 3).add
    (8 * (WorkingSet.ofList snapshot).size)
  have spends : (stopPass snapshot timeout).Spends
      ((6 + 3 + 2) * snapshot.length + 8 * (WorkingSet.ofList snapshot).size) fun _ => 0 := by
    refine spends_bind gathers fun groups => ?_
    refine spends_bind (Spends.mono (spends_stopGroups groups.reverse _ _) ?_) fun stopped =>
      spends_pure (Nat.zero_le _)
    have same : dueFor 6 3 groups.reverse = dueFor 6 3 groups := by
      rw [dueFor, List.map_reverse, List.sum_reverse]
      rfl
    rw [same]
    exact Nat.le_of_eq (Nat.add_comm _ _)
  have bound := spends record report yields
  omega

end PhasedLifecycle
