/-
This file shows that the search for circles finds one just when there is one, and that what it finds
is one. A name is cleared once everything it lists is cleared, so cleared names lead to cleared names
only; and none of them is on the path that the search follows, so none of them leads back. A name met
again on the path closes a circle, since each name on the path lists the next.
-/

import Mathlib.Data.List.Nodup
import Mathlib.Data.List.Perm.Subperm
import PhasedLifecycle.Proofs.Edges
import PhasedLifecycle.Registry.Cycle

namespace PhasedLifecycle

open Relation

/-! ### The edges of a graph -/

namespace DependencyGraph

/-- The names with a node. -/
def names (graph : DependencyGraph) : List String :=
  graph.map (·.name)

/-- What the node of a name lists; without a node, nothing. -/
def edges (graph : DependencyGraph) (name : String) : List String :=
  ((graph.node? name).map (·.dependencies)).getD []

theorem node?_eq_none_iff (graph : DependencyGraph) (name : String) :
    graph.node? name = none ↔ name ∉ graph.names := by
  simp [node?, names]

theorem mem_names_of_node? {graph : DependencyGraph} {name : String} {node : DependencyNode}
    (found : graph.node? name = some node) : name ∈ graph.names := by
  by_contra stranger
  rw [(graph.node?_eq_none_iff name).mpr stranger] at found
  cases found

theorem edges_of_node? {graph : DependencyGraph} {name : String} {node : DependencyNode}
    (found : graph.node? name = some node) : graph.edges name = node.dependencies := by
  rw [edges, found]
  rfl

/-- A path of distinct names with nodes is shorter than the graph if a name with a node is not on
it. -/
theorem length_path_lt {graph : DependencyGraph} {path : List String} {name : String}
    {node : DependencyNode} (distinct : path.Nodup) (known : ∀ above ∈ path, above ∈ graph.names)
    (above : name ∉ path) (found : graph.node? name = some node) :
    path.length < graph.names.length := by
  have longer := (List.subperm_of_subset (List.nodup_cons.mpr ⟨above, distinct⟩)
    (List.cons_subset.mpr ⟨mem_names_of_node? found, known⟩)).length_le
  rwa [List.length_cons] at longer

end DependencyGraph

/-- A circle is a walk along edges from a name back to it, with no other name twice. -/
def Circle.Closes (edges : String → List String) (names : List String) (circle : Circle) : Prop :=
  ∃ first rest, circle.stations = first :: rest ++ [first] ∧ (first :: rest).Nodup ∧
    circle.stations.IsChain (Leads edges names)

/-- Meeting a name again on the path that led to it closes a circle. -/
theorem Circle.closes_close {edges : String → List String} {names path : List String} {name : String}
    (distinct : path.Nodup) (linked : (path ++ [name]).IsChain (Leads edges names))
    (meets : name ∈ path) : (Circle.close path name).Closes edges names := by
  obtain ⟨front, back, rfl, fresh⟩ := List.eq_append_cons_of_mem meets
  have stations : (Circle.close (front ++ name :: back) name).stations = name :: back ++ [name] := by
    have skipped : (front ++ name :: back).dropWhile (fun other => decide (other ≠ name)) =
        name :: back := by
      have others : ∀ other ∈ front, decide (other ≠ name) = true := by
        intro other there
        exact decide_eq_true fun same => fresh (same ▸ there)
      rw [List.dropWhile_append_of_pos others]
      exact List.dropWhile_cons_of_neg (by simp)
    exact congrArg (· ++ [name]) skipped
  refine ⟨name, back, stations, (List.nodup_append.mp distinct).2.1, ?_⟩
  rw [stations]
  rw [List.append_assoc] at linked
  exact linked.right_of_append

/-! ### What the search keeps -/

/-- The names that are cleared while a path is followed. -/
structure Clears (edges : String → List String) (names path cleared : List String) : Prop where
  closed : ∀ name ∈ cleared, ∀ next, Leads edges names name next → next ∈ cleared
  straight : ∀ name ∈ cleared, ¬ OnCircle edges names name
  apart : ∀ name ∈ cleared, name ∉ path

namespace Clears

variable {edges : String → List String} {names path cleared : List String}

/-- Cleared names lead to cleared names only. -/
theorem of_path (clears : Clears edges names path cleared) {name last : String}
    (leads : ReflTransGen (Leads edges names) name last) (there : name ∈ cleared) :
    last ∈ cleared := by
  induction leads with
  | refl => exact there
  | tail path edge inductionHypothesis => exact clears.closed _ inductionHypothesis _ edge

/-- The path may be followed to a name that is not cleared. -/
theorem push {name : String} (clears : Clears edges names path cleared) (fresh : name ∉ cleared) :
    Clears edges names (path ++ [name]) cleared where
  closed := clears.closed
  straight := clears.straight
  apart := by
    intro other there above
    rcases List.mem_append.mp above with above | same
    · exact clears.apart other there above
    · exact fresh (List.mem_singleton.mp same ▸ there)

/-- Once everything a name lists is cleared, so is the name. -/
theorem pop {name : String} (clears : Clears edges names (path ++ [name]) cleared)
    (fresh : name ∉ path) (below : ∀ next ∈ edges name, next ∈ names → next ∈ cleared) :
    Clears edges names path (name :: cleared) where
  closed := by
    intro other there next edge
    rcases List.mem_cons.mp there with rfl | there
    · exact List.mem_cons_of_mem _ (below next edge.2.2 edge.2.1)
    · exact List.mem_cons_of_mem _ (clears.closed other there next edge)
  straight := by
    intro other there circle
    rcases List.mem_cons.mp there with rfl | there
    · obtain ⟨next, edge, back⟩ := TransGen.head'_iff.mp circle
      have again := clears.of_path back (below next edge.2.2 edge.2.1)
      exact clears.apart other again (List.mem_append_right _ (List.mem_singleton.mpr rfl))
    · exact clears.straight other there circle
  apart := by
    intro other there above
    rcases List.mem_cons.mp there with rfl | there
    · exact fresh above
    · exact clears.apart other there (List.mem_append_left _ above)

end Clears

/-- How a search along a path ends for some targets: more names are cleared, among them the targets
that have a node, or a circle was met. -/
def SearchEnds (edges : String → List String) (names path cleared targets : List String) :
    Except Circle (List String) → Prop
  | .ok result => Clears edges names path result ∧ cleared ⊆ result ∧
      ∀ name ∈ targets, name ∈ names → name ∈ result
  | .error circle => circle.Closes edges names

/-- A loop of searches ends as each of them does. -/
theorem searchEnds_foldlM {edges : String → List String} {names path cleared targets : List String}
    {step : List String → String → Except Circle (List String)}
    (each : ∀ cleared, ∀ name ∈ targets, Clears edges names path cleared →
      SearchEnds edges names path cleared [name] (step cleared name))
    (clears : Clears edges names path cleared) :
    SearchEnds edges names path cleared targets (targets.foldlM step cleared) := by
  induction targets generalizing cleared with
  | nil => exact ⟨clears, List.Subset.refl _, fun name there => absurd there List.not_mem_nil⟩
  | cons target targets inductionHypothesis =>
    have first := each cleared target List.mem_cons_self clears
    rw [List.foldlM_cons]
    cases found : step cleared target with
    | error circle =>
      rw [found] at first
      exact first
    | ok middle =>
      rw [found] at first
      obtain ⟨kept, grown, reached⟩ := first
      have rest := inductionHypothesis
        (fun cleared name there => each cleared name (List.mem_cons_of_mem _ there)) kept
      show SearchEnds edges names path cleared (target :: targets) (targets.foldlM step middle)
      cases ended : targets.foldlM step middle with
      | error circle =>
        rw [ended] at rest
        exact rest
      | ok result =>
        rw [ended] at rest
        obtain ⟨kept, grownLater, reachedLater⟩ := rest
        refine ⟨kept, fun name there => grownLater (grown there), fun name there known => ?_⟩
        rcases List.mem_cons.mp there with rfl | there
        · exact grownLater (reached name (List.mem_singleton.mpr rfl) known)
        · exact reachedLater name there known

/-! ### The search -/

section

variable (graph : DependencyGraph) {depth : Nat} {path cleared : List String} {name : String}

/-- A search ends as it should if it meets a name again, finds it cleared or without a node, or ends
as it should after going down from it. -/
theorem searchEnds_of_below (clears : Clears graph.edges graph.names path cleared)
    (distinct : path.Nodup) (known : ∀ above ∈ path, above ∈ graph.names)
    (linked : name ∈ graph.names → (path ++ [name]).IsChain (Leads graph.edges graph.names))
    (below : name ∉ path → name ∉ cleared → ∀ node, graph.node? name = some node →
      ∃ smaller, depth = smaller + 1 ∧ SearchEnds graph.edges graph.names path cleared [name] (do
        let cleared ← node.dependencies.foldlM (searchCircle graph smaller (path ++ [name])) cleared
        return name :: cleared)) :
    SearchEnds graph.edges graph.names path cleared [name]
      (searchCircle graph depth path cleared name) := by
  have stays : (name ∈ graph.names → name ∈ cleared) →
      SearchEnds graph.edges graph.names path cleared [name] (.ok cleared) := by
    refine fun there => ⟨clears, List.Subset.refl _, fun other same known => ?_⟩
    obtain rfl := List.mem_singleton.mp same
    exact there known
  unfold searchCircle
  by_cases above : name ∈ path
  · rw [if_pos above]
    exact Circle.closes_close distinct (linked (known name above)) above
  · rw [if_neg above]
    by_cases there : name ∈ cleared
    · rw [if_pos there]
      exact stays fun _ => there
    · rw [if_neg there]
      cases found : graph.node? name with
      | none => exact stays fun known => absurd known ((graph.node?_eq_none_iff name).mp found)
      | some node =>
        obtain ⟨smaller, rfl, ends⟩ := below above there node found
        exact ends

/-- A search along a path of names with nodes, each listing the next, ends as it should if it may go
as deep as there are names beside the path. -/
theorem searchEnds_searchCircle (clears : Clears graph.edges graph.names path cleared)
    (distinct : path.Nodup) (known : ∀ above ∈ path, above ∈ graph.names)
    (linked : name ∈ graph.names → (path ++ [name]).IsChain (Leads graph.edges graph.names))
    (deep : graph.names.length ≤ depth + path.length) :
    SearchEnds graph.edges graph.names path cleared [name]
      (searchCircle graph depth path cleared name) := by
  induction depth generalizing path cleared name with
  | zero =>
    refine searchEnds_of_below graph clears distinct known linked fun above _ node found => ?_
    have shorter := DependencyGraph.length_path_lt distinct known above found
    omega
  | succ depth inductionHypothesis =>
    refine searchEnds_of_below graph clears distinct known linked fun above fresh node found => ?_
    have listed := DependencyGraph.mem_names_of_node? found
    have lists := DependencyGraph.edges_of_node? found
    have distinctBelow : (path ++ [name]).Nodup := by
      rw [← List.concat_eq_append]
      exact distinct.concat above
    have knownBelow : ∀ other ∈ path ++ [name], other ∈ graph.names := by
      intro other there
      rcases List.mem_append.mp there with there | same
      · exact known other there
      · exact List.mem_singleton.mp same ▸ listed
    have linkedBelow : ∀ next ∈ node.dependencies, next ∈ graph.names →
        (path ++ [name] ++ [next]).IsChain (Leads graph.edges graph.names) := by
      intro next inside nextListed
      rw [List.append_assoc]
      exact List.isChain_append_cons_cons.mpr
        ⟨linked listed, ⟨listed, nextListed, lists ▸ inside⟩, List.isChain_singleton _⟩
    have deepBelow : graph.names.length ≤ depth + (path ++ [name]).length := by
      rw [List.length_append, List.length_singleton]
      omega
    have ends : SearchEnds graph.edges graph.names (path ++ [name]) cleared node.dependencies
        (node.dependencies.foldlM (searchCircle graph depth (path ++ [name])) cleared) :=
      searchEnds_foldlM (fun cleared next inside clears => inductionHypothesis clears distinctBelow
        knownBelow (linkedBelow next inside) deepBelow) (clears.push fresh)
    refine ⟨depth, rfl, ?_⟩
    cases result : node.dependencies.foldlM (searchCircle graph depth (path ++ [name])) cleared with
    | error circle =>
      rw [result] at ends
      exact ends
    | ok below =>
      rw [result] at ends
      obtain ⟨kept, grown, reached⟩ := ends
      refine ⟨kept.pop above fun next inside => ?_, fun other there => ?_, fun other same _ => ?_⟩
      · rw [lists] at inside
        exact reached next inside
      · exact List.mem_cons_of_mem _ (grown there)
      · exact List.mem_singleton.mp same ▸ List.mem_cons_self

end

/-- The search finds a circle just when some name lies on one, and what it finds is one. -/
theorem DependencyGraph.findCircle?_spec (graph : DependencyGraph) :
    match graph.findCircle? with
    | none => ∀ name, ¬ OnCircle graph.edges graph.names name
    | some circle => circle.Closes graph.edges graph.names := by
  have length : graph.names.length = graph.length := List.length_map _
  have begun : Clears graph.edges graph.names [] [] :=
    ⟨fun _ there => absurd there List.not_mem_nil, fun _ there => absurd there List.not_mem_nil,
      fun _ there => absurd there List.not_mem_nil⟩
  have ends : SearchEnds graph.edges graph.names [] [] graph.names
      (graph.names.foldlM (searchCircle graph graph.length []) []) :=
    searchEnds_foldlM (fun cleared name _ clears => searchEnds_searchCircle graph clears
      List.nodup_nil (fun _ there => absurd there List.not_mem_nil)
      (fun _ => List.isChain_singleton _) (by omega)) begun
  rw [names, List.foldlM_map] at ends
  unfold findCircle?
  cases result : graph.foldlM
      (fun cleared node => searchCircle graph graph.length [] cleared node.name) [] with
  | error circle =>
    rw [result] at ends
    exact ends
  | ok cleared =>
    rw [result] at ends
    obtain ⟨clears, -, reached⟩ := ends
    intro name circle
    obtain ⟨next, edge, -⟩ := TransGen.head'_iff.mp circle
    exact clears.straight name (reached name edge.1 edge.1) circle

theorem DependencyGraph.findCircle?_eq_none_iff (graph : DependencyGraph) :
    graph.findCircle? = none ↔ ∀ name, ¬ OnCircle graph.edges graph.names name := by
  have spec := graph.findCircle?_spec
  cases found : graph.findCircle? with
  | none =>
    rw [found] at spec
    exact ⟨fun _ => spec, fun _ => rfl⟩
  | some circle =>
    rw [found] at spec
    obtain ⟨first, rest, stations, -, walk⟩ := spec
    rw [stations] at walk
    refine ⟨fun none => ?_, fun straight => absurd (onCircle_of_walk walk) (straight first)⟩
    cases none

end PhasedLifecycle
