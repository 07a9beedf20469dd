/-
This file shows in which order the turns of a stop pass come, whatever phases components answer,
whichever of them run and however they stop. With a registry that answers each question in one way
throughout, a stop pass follows the search of `Descent` along the edges from a name to those that
depend on it. Nothing that happens in a turn changes what comes next, so the two stay abreast to the
end of the pass.
-/

import PhasedLifecycle.Proofs.Descent
import PhasedLifecycle.Proofs.StopRounds

namespace PhasedLifecycle

open Pass

/-- A stop under way has the same names left and the same turns behind it as a search over the same
edges. -/
structure Abreast (stack : List String) (docket : Docket) (descent : Descent) (left : WorkingSet) :
    Prop where
  left : left = descent.left
  entered : docket.entered = stack
  names : docket.names = descent.order

namespace Abreast

variable {stack : List String} {docket : Docket} {descent : Descent} {edges : String → List String}
  {members : List String} {before after : Stopping} {record : List Exchange}

/-- A loop stays abreast of a search if each of its rounds does. -/
theorem foldlM {step : Stopping → String → Pass Stopping} {search : Descent → String → Descent}
    (each : ∀ {docket descent before after record} (name : String),
      (∀ exchange ∈ record, exchange.KeepsDependents edges) →
      (step before name).Yields record after → Abreast stack docket descent before.left →
      Abreast stack (docket.readAll record) (search descent name) after.left)
    {roots : List String} (fixed : ∀ exchange ∈ record, exchange.KeepsDependents edges)
    (yields : (roots.foldlM step before).Yields record after)
    (abreast : Abreast stack docket descent before.left) :
    Abreast stack (docket.readAll record) (roots.foldl search descent) after.left := by
  induction roots generalizing docket descent before record with
  | nil =>
    obtain ⟨rfl, rfl⟩ := yields
    exact abreast
  | cons root roots inductionHypothesis =>
    obtain ⟨first, middle, last, round, rounds, rfl⟩ := yields_foldlM_cons.mp yields
    rw [Docket.readAll_append]
    exact inductionHypothesis (fun exchange there => fixed exchange (List.mem_append_right _ there))
      rounds (each root (fun exchange there => fixed exchange (List.mem_append_left _ there)) round
        abreast)

/-- Back from everything below a name, its turn takes the name off the stack. -/
theorem turn {name : String} {component : Component}
    (abreast : Abreast (name :: stack) docket descent before.left)
    (yields : (Stopping.turn members name component before).Yields record after) :
    Abreast stack (docket.readAll record) { descent with order := descent.order ++ [name] }
      after.left := by
  obtain ⟨left, entered, names⟩ := abreast
  obtain ⟨turn, rfl, -, own⟩ := Stopping.yields_turn yields
  obtain ⟨_, turns, strays⟩ := docket
  obtain rfl := entered
  rw [own.reads, own.left]
  exact ⟨left, rfl, (Docket.names_cons _ _ _ _).trans (congrArg (· ++ [turn.name]) names)⟩

/-- Going down from a name, a stop stays abreast of the search. -/
theorem visit (depth : Nat) (name : String)
    (fixed : ∀ exchange ∈ record, exchange.KeepsDependents edges)
    (yields : (Stopping.visit members depth before name).Yields record after)
    (abreast : Abreast stack docket descent before.left) :
    Abreast stack (docket.readAll record) (descent.visit edges depth name) after.left := by
  induction depth generalizing docket descent before after record name stack with
  | zero =>
    obtain ⟨rfl, rfl⟩ := yields
    exact abreast
  | succ depth inductionHypothesis =>
    cases found : before.left.get? name with
    | none =>
      have absent : name ∉ descent.left.names := by
        rw [← abreast.left]
        exact (WorkingSet.get?_eq_none_iff _ _).mp found
      rw [Stopping.visit, found] at yields
      obtain ⟨rfl, rfl⟩ := yields
      rw [Descent.visit_of_notMem _ absent]
      exact abreast
    | some component =>
      have present : name ∈ descent.left.names := by
        rw [← abreast.left]
        exact WorkingSet.mem_names_of_get? found
      rw [Stopping.visit, found] at yields
      obtain ⟨dependents, _, _, rest, rfl, answered⟩ := yields_ask_bind.mp yields
      obtain ⟨below, middle, last, descended, turned, rfl⟩ := yields_bind.mp answered
      obtain rfl : dependents = edges name := fixed _ List.mem_cons_self
      have fixedBelow : ∀ exchange ∈ below, exchange.KeepsDependents edges :=
        fun exchange there =>
          fixed exchange (List.mem_cons_of_mem _ (List.mem_append_left _ there))
      have wentDown : Abreast (name :: stack) (docket.goDown name)
          { descent with left := descent.left.erase name } (before.left.erase name) :=
        ⟨by rw [abreast.left], by rw [← abreast.entered]; rfl, abreast.names⟩
      have cameBack := foldlM (fun next => inductionHypothesis next) fixedBelow descended wentDown
      rw [Descent.visit_of_mem _ present, Docket.readAll_cons, Docket.readAll_append]
      exact cameBack.turn turned

/-- Going down from a name as deep as the working set allows, a stop stays abreast of the search. -/
theorem stop (name : String) (fixed : ∀ exchange ∈ record, exchange.KeepsDependents edges)
    (yields : (before.stop members name).Yields record after)
    (abreast : Abreast stack docket descent before.left) :
    Abreast stack (docket.readAll record) (descent.enter edges name) after.left := by
  have same : descent.enter edges name = descent.visit edges before.left.size name := by
    rw [Descent.enter, abreast.left]
  rw [same]
  exact abreast.visit _ name fixed yields

/-- Coming to a member, a stop stays abreast of a search from its name. One whose turn came before the
group began is not left to the search either. -/
theorem reach {group : Group} {left : WorkingSet} {member : Member}
    (fixed : ∀ exchange ∈ record, exchange.KeepsDependents edges)
    (yields : (group.reach left before member).Yields record after)
    (within : ∀ name ∈ before.left.names, name ∈ left.names)
    (abreast : Abreast stack docket descent before.left) :
    Abreast stack (docket.readAll record) (descent.enter edges member.name) after.left := by
  unfold Group.reach at yields
  cases present : left.contains member.name with
  | true =>
    rw [if_pos present] at yields
    exact abreast.stop member.name fixed yields
  | false =>
    rw [present, if_neg Bool.false_ne_true] at yields
    have absent : member.name ∉ descent.left.names := fun there => by
      rw [← abreast.left] at there
      rw [(left.contains_iff member.name).mpr (within _ there)] at present
      cases present
    rw [Descent.enter, Descent.visit_of_notMem _ absent]
    cases smart : member.component.isSmart with
    | false =>
      rw [smart] at yields
      obtain ⟨rfl, rfl⟩ := yields
      exact abreast
    | true =>
      rw [if_pos smart] at yields
      obtain ⟨rfl, rfl⟩ := yields
      exact abreast

/-- Coming to all members of a group, a stop stays abreast of a search from their names. -/
theorem traverse {group : Group} {left : WorkingSet} {listed : List Member}
    (fixed : ∀ exchange ∈ record, exchange.KeepsDependents edges)
    (yields : (listed.foldlM (group.reach left) before).Yields record after)
    (within : ∀ name ∈ before.left.names, name ∈ left.names)
    (abreast : Abreast stack docket descent before.left) :
    Abreast stack (docket.readAll record)
      ((listed.map (·.name)).foldl (Descent.enter edges) descent) after.left := by
  induction listed generalizing docket descent before record with
  | nil =>
    obtain ⟨rfl, rfl⟩ := yields
    exact abreast
  | cons member listed inductionHypothesis =>
    obtain ⟨first, middle, last, round, rounds, rfl⟩ := yields_foldlM_cons.mp yields
    obtain ⟨turns, span, -⟩ := Group.span_reach round
    rw [Docket.readAll_append]
    refine inductionHypothesis
      (fun exchange there => fixed exchange (List.mem_append_right _ there)) rounds
      (fun name there => within name ?_)
      (reach (fun exchange there => fixed exchange (List.mem_append_left _ there)) round within
        abreast)
    rw [span.left] at there
    exact ((WorkingSet.mem_names_without _ _ _).mp there).1

end Abreast

/-- A round stays abreast of a search from the names of its group, as they are sorted. -/
theorem StopRound.Runs.abreast {round : StopRound} (runs : round.Runs) {docket : Docket}
    {descent : Descent} {edges : String → List String}
    (fixed : ∀ exchange ∈ round.record, exchange.KeepsDependents edges)
    (abreast : Abreast [] docket descent round.left) :
    Abreast [] (docket.readAll round.record)
      ((round.sorted.members.map (·.name)).foldl (Descent.enter edges) descent)
      round.stopping.left := by
  have inTraversal : ∀ exchange ∈ round.traversal, exchange.KeepsDependents edges := by
    intro exchange there
    exact fixed exchange (List.mem_append_right _ (List.mem_append_left _ there))
  rw [StopRound.record, Docket.readAll_append, Docket.readAll_of_isAside runs.aside_opening,
    Docket.readAll_append, Docket.readAll_append, Docket.readAll_of_isAside runs.aside_waiting,
    Docket.readAll_of_isAside runs.aside_closing]
  exact Abreast.traverse inTraversal runs.traversed (fun name there => there) abreast

/-- Rounds in a row stay abreast of one search. -/
theorem StopRounds.abreast {groups : List Group} {left laterLeft : WorkingSet}
    {before after : StopReport} {rounds : List StopRound}
    (chained : StopRounds groups left before rounds laterLeft after) {docket : Docket}
    {descent : Descent} {edges : String → List String}
    (fixed : ∀ exchange ∈ rounds.flatMap StopRound.record, exchange.KeepsDependents edges)
    (abreast : Abreast [] docket descent left) :
    Abreast [] (docket.readAll (rounds.flatMap StopRound.record))
      ((rounds.flatMap fun round => round.sorted.members.map (·.name)).foldl (Descent.enter edges)
        descent) laterLeft := by
  induction chained generalizing docket descent with
  | nil left report => exact abreast
  | cons runs rest inductionHypothesis =>
    rw [List.flatMap_cons] at fixed
    rw [List.flatMap_cons, List.flatMap_cons, Docket.readAll_append, List.foldl_append]
    exact inductionHypothesis (fun exchange there => fixed exchange (List.mem_append_right _ there))
      (runs.abreast (fun exchange there => fixed exchange (List.mem_append_left _ there)) abreast)

/-- The names from which a stop pass follows dependents, in the order in which it comes to them. -/
def StopHistory.roots {snapshot : List Member} {timeout : Nat}
    (history : StopHistory snapshot timeout) : List String :=
  history.rounds.flatMap fun round => round.sorted.members.map (·.name)

section

variable {snapshot : List Member} {timeout : Nat} (history : StopHistory snapshot timeout)
  {edges : String → List String}

/-- The turns of a stop pass come in the order of a search along dependents. -/
theorem StopHistory.names_turnsIn
    (fixed : ∀ exchange ∈ history.record, exchange.KeepsDependents edges) :
    (turnsIn history.record).map (·.name) =
      (history.roots.foldl (Descent.enter edges) { left := WorkingSet.ofList snapshot }).order := by
  have outset := history.gathered.request_of_asks (asks_groupSnapshot snapshot timeout false)
  have begun : Abreast [] (({} : Docket).readAll history.gathering)
      { left := WorkingSet.ofList snapshot } (WorkingSet.ofList snapshot) := by
    rw [Docket.readAll_of_isOutset outset]
    exact ⟨rfl, rfl, rfl⟩
  have abreast := history.chained.abreast
    (fun exchange there => fixed exchange (List.mem_append_right _ there)) begun
  rw [← Docket.readAll_append] at abreast
  exact abreast.names

/-- They are those of the members of the groups, the last group first, each as it is sorted. -/
theorem StopHistory.arranged :
    Group.Arranged history.record history.groups.reverse history.roots := by
  have all : ∀ {groups : List Group} {left laterLeft : WorkingSet} {before after : StopReport}
      {rounds : List StopRound}, StopRounds groups left before rounds laterLeft after →
      rounds ⊆ history.rounds → Group.Arranged history.record groups
        (rounds.flatMap fun round => round.sorted.members.map (·.name)) := by
    intro groups left laterLeft before after rounds chained inside
    induction chained with
    | nil left report => exact .nil
    | @cons round groups rounds left report runs rest inductionHypothesis =>
      obtain ⟨sorting, opens, sorts⟩ := runs.sorting
      obtain ⟨first, others⟩ := List.cons_subset.mp inside
      refine .cons (.descending (fun exchange there => ?_) sorts) (inductionHypothesis others)
      exact List.mem_append_right _
        (List.mem_flatMap.mpr ⟨round, first, List.mem_append_left _ (opens exchange there)⟩)
  exact all history.chained (List.Subset.refl _)

theorem StopHistory.ordered
    (fixed : ∀ exchange ∈ history.record, exchange.KeepsDependents edges) :
    Descent.Ordered edges (WorkingSet.ofList snapshot).names
      ((turnsIn history.record).map (·.name)) := by
  rw [history.names_turnsIn fixed]
  exact Descent.ordered_search (WorkingSet.distinct_ofList snapshot) _

end

end PhasedLifecycle
