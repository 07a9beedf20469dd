/-
This file shows that the bound on the depth of the search for circles cuts nothing off. The search
without the bound is a relation between where it stands and how it ends, and a finite derivation in
it is a search that terminates. The path has distinct names with nodes, so it is never longer than
there are nodes, and the bounded search goes wherever the unbounded one goes.

With that the search is described by the graph alone: it terminates, meets a circle just when there
is one, and the chain it reports runs around one.
-/

import PhasedLifecycle.Proofs.CircleSearch

namespace PhasedLifecycle

open Relation

/-! ### The dependencies that count -/

/-- One name lists another that has a node. Of several nodes with one name the last one counts. -/
def DependencyGraph.Lists (graph : DependencyGraph) (first second : String) : Prop :=
  second ∈ graph.names ∧ ∃ before node after, graph = before ++ node :: after ∧ node.name = first ∧
    first ∉ DependencyGraph.names after ∧ second ∈ node.dependencies

theorem DependencyGraph.node?_eq_some_iff (graph : DependencyGraph) (name : String)
    (node : DependencyNode) : graph.node? name = some node ↔
      ∃ before after, graph = before ++ node :: after ∧ node.name = name ∧
        name ∉ DependencyGraph.names after := by
  rw [node?, List.find?_eq_some_iff_append, beq_iff_eq]
  constructor
  · rintro ⟨named, later, earlier, split, others⟩
    refine ⟨earlier.reverse, later.reverse, ?_, named, fun there => ?_⟩
    · simpa using congrArg List.reverse split
    · obtain ⟨other, inside, same⟩ := List.mem_map.mp there
      have differs := others other (List.mem_reverse.mp inside)
      simp [same] at differs
  · rintro ⟨before, after, rfl, named, last⟩
    refine ⟨named, after.reverse, before.reverse, by simp, fun other inside => ?_⟩
    have differs : other.name ≠ name := by
      rintro rfl
      exact last (List.mem_map_of_mem (List.mem_reverse.mp inside))
    simpa using differs

/-- The edges that the search follows are the dependencies that count. -/
theorem DependencyGraph.leads_eq_lists (graph : DependencyGraph) :
    Leads graph.edges graph.names = graph.Lists := by
  funext first second
  refine propext ⟨?_, ?_⟩
  · rintro ⟨known, listed, edge⟩
    cases found : graph.node? first with
    | none => exact absurd known ((graph.node?_eq_none_iff first).mp found)
    | some node =>
      rw [edges_of_node? found] at edge
      obtain ⟨before, after, split, named, last⟩ := (graph.node?_eq_some_iff first node).mp found
      exact ⟨listed, before, node, after, split, named, last, edge⟩
  · rintro ⟨listed, before, node, after, split, named, last, edge⟩
    have found := (graph.node?_eq_some_iff first node).mpr ⟨before, after, split, named, last⟩
    refine ⟨mem_names_of_node? found, listed, ?_⟩
    rw [edges_of_node? found]
    exact edge

/-! ### The search without a bound -/

/-- How a search from some targets, one after another, ends along a path, however deep it goes. -/
inductive Explores (graph : DependencyGraph) :
    List String → List String → List String → Except Circle (List String) → Prop
  | done {path cleared} : Explores graph path cleared [] (.ok cleared)
  | meets {path cleared name targets} (above : name ∈ path) :
    Explores graph path cleared (name :: targets) (.error (Circle.close path name))
  | known {path cleared name targets result} (fresh : name ∉ path) (there : name ∈ cleared)
    (rest : Explores graph path cleared targets result) :
    Explores graph path cleared (name :: targets) result
  | stranger {path cleared name targets result} (fresh : name ∉ path) (unknown : name ∉ cleared)
    (missing : graph.node? name = none) (rest : Explores graph path cleared targets result) :
    Explores graph path cleared (name :: targets) result
  | fails {path cleared name targets node circle} (fresh : name ∉ path) (unknown : name ∉ cleared)
    (found : graph.node? name = some node)
    (below : Explores graph (path ++ [name]) cleared node.dependencies (.error circle)) :
    Explores graph path cleared (name :: targets) (.error circle)
  | clears {path cleared name targets node grown result} (fresh : name ∉ path)
    (unknown : name ∉ cleared) (found : graph.node? name = some node)
    (below : Explores graph (path ++ [name]) cleared node.dependencies (.ok grown))
    (rest : Explores graph path (name :: grown) targets result) :
    Explores graph path cleared (name :: targets) result

section

variable {graph : DependencyGraph} {depth : Nat} {path cleared targets : List String}

/-- Where a search stands decides how it ends. -/
theorem Explores.unique {first second : Except Circle (List String)}
    (one : Explores graph path cleared targets first)
    (another : Explores graph path cleared targets second) : first = second := by
  induction one generalizing second with
  | done =>
    cases another
    rfl
  | meets above =>
    cases another with
    | meets => rfl
    | _ => contradiction
  | known fresh there rest inductionHypothesis =>
    cases another with
    | known _ _ rest => exact inductionHypothesis rest
    | _ => contradiction
  | stranger fresh unknown missing rest inductionHypothesis =>
    cases another with
    | stranger _ _ _ rest => exact inductionHypothesis rest
    | fails _ _ found | clears _ _ found => cases missing.symm.trans found
    | _ => contradiction
  | fails fresh unknown found below inductionHypothesis =>
    cases another with
    | stranger _ _ missing => cases missing.symm.trans found
    | fails _ _ again below =>
      cases found.symm.trans again
      exact inductionHypothesis below
    | clears _ _ again below =>
      cases found.symm.trans again
      cases inductionHypothesis below
    | _ => contradiction
  | clears fresh unknown found below rest belowHypothesis restHypothesis =>
    cases another with
    | stranger _ _ missing => cases missing.symm.trans found
    | fails _ _ again below =>
      cases found.symm.trans again
      cases belowHypothesis below
    | clears _ _ again below rest =>
      cases found.symm.trans again
      cases belowHypothesis below
      exact restHypothesis rest
    | _ => contradiction

/-- A bounded search does what the unbounded one does if it may still go down wherever that one goes
down, and does there what that one does. -/
theorem explores_foldlM_of_below
    (below : ∀ cleared name node, name ∉ path → graph.node? name = some node →
      ∃ smaller, depth = smaller + 1 ∧ Explores graph (path ++ [name]) cleared node.dependencies
        (node.dependencies.foldlM (searchCircle graph smaller (path ++ [name])) cleared)) :
    Explores graph path cleared targets (targets.foldlM (searchCircle graph depth path) cleared) := by
  induction targets generalizing cleared with
  | nil => exact .done
  | cons name targets inductionHypothesis =>
    rw [List.foldlM_cons]
    unfold searchCircle
    by_cases above : name ∈ path
    · rw [if_pos above]
      exact .meets above
    · rw [if_neg above]
      by_cases there : name ∈ cleared
      · rw [if_pos there]
        exact .known above there inductionHypothesis
      · rw [if_neg there]
        cases found : graph.node? name with
        | none => exact .stranger above there found inductionHypothesis
        | some node =>
          obtain ⟨smaller, rfl, explores⟩ := below cleared name node above found
          show Explores graph path cleared (name :: targets)
            ((node.dependencies.foldlM (searchCircle graph smaller (path ++ [name])) cleared >>=
              fun grown => pure (name :: grown)) >>=
              fun cleared => targets.foldlM (searchCircle graph (smaller + 1) path) cleared)
          cases ended : node.dependencies.foldlM (searchCircle graph smaller (path ++ [name]))
              cleared with
          | error circle =>
            rw [ended] at explores
            exact .fails above there found explores
          | ok grown =>
            rw [ended] at explores
            exact .clears above there found explores inductionHypothesis

/-- As deep as there are names beside the path, the bounded search does what the unbounded one
does. -/
theorem explores_foldlM (distinct : path.Nodup) (known : ∀ above ∈ path, above ∈ graph.names)
    (deep : graph.names.length ≤ depth + path.length) :
    Explores graph path cleared targets (targets.foldlM (searchCircle graph depth path) cleared) := by
  induction depth generalizing path cleared targets with
  | zero =>
    refine explores_foldlM_of_below fun _ name node above found => ?_
    have shorter := DependencyGraph.length_path_lt distinct known above found
    omega
  | succ depth inductionHypothesis =>
    refine explores_foldlM_of_below fun cleared name node above found => ⟨depth, rfl, ?_⟩
    refine inductionHypothesis ?_ ?_ ?_
    · rw [← List.concat_eq_append]
      exact distinct.concat above
    · intro other there
      rcases List.mem_append.mp there with there | same
      · exact known other there
      · exact List.mem_singleton.mp same ▸ DependencyGraph.mem_names_of_node? found
    · rw [List.length_append, List.length_singleton]
      omega

end

/-- The search that is run from each node in turn ends, bound or no bound, in what is found. -/
theorem DependencyGraph.explores_names (graph : DependencyGraph) :
    ∃ result, Explores graph [] [] graph.names result ∧
      graph.findCircle? = match result with
        | .ok _ => none
        | .error circle => some circle := by
  have length : graph.names.length = graph.length := List.length_map _
  refine ⟨graph.names.foldlM (searchCircle graph graph.length []) [], ?_, ?_⟩
  · refine explores_foldlM List.nodup_nil (fun _ there => absurd there List.not_mem_nil) ?_
    rw [length]
    exact Nat.le_add_right _ _
  · rw [names, List.foldlM_map]
    rfl

/-! ### What is found -/

/-- A circle is found just when some name lies on one. -/
theorem DependencyGraph.findCircle?_ne_none_iff (graph : DependencyGraph) :
    graph.findCircle? ≠ none ↔ ∃ name, TransGen graph.Lists name name := by
  rw [Ne, findCircle?_eq_none_iff, not_forall_not, ← leads_eq_lists]
  rfl

/-- A walk leaves each of its names but the last one by an edge. -/
theorem known_of_walk {edges : String → List String} {names rest : List String}
    {first last : String} (walk : (first :: rest ++ [last]).IsChain (Leads edges names)) :
    ∀ name ∈ first :: rest, name ∈ names := by
  induction rest generalizing first with
  | nil =>
    intro name there
    rw [List.mem_singleton.mp there]
    exact (List.isChain_pair.mp walk).1
  | cons next rest inductionHypothesis =>
    obtain ⟨edge, walk⟩ := List.isChain_cons_cons.mp walk
    intro name there
    rcases List.mem_cons.mp there with rfl | there
    · exact edge.1
    · exact inductionHypothesis walk name there

/-- For every list of nodes: the search that goes as deep as it likes terminates, in one way only,
and the circle that is found is the one it meets. One is found just when the listed dependencies
with a node, each name standing for its last node, lead from some name back to it. The chain that is
reported then joins distinct names with nodes, each listing the next, and the last of them the first,
which is repeated at the end. -/
theorem findCircle?_sound_and_complete (graph : DependencyGraph) :
    (∃ result, (∀ other, Explores graph [] [] graph.names other ↔ other = result) ∧
      graph.findCircle? = match result with
        | .ok _ => none
        | .error circle => some circle) ∧
    (graph.findCircle? ≠ none ↔ ∃ name, TransGen graph.Lists name name) ∧
    ∀ circle ∈ graph.findCircle?, ∃ first rest,
      circle.chain = " -> ".intercalate (first :: rest ++ [first]) ∧ (first :: rest).Nodup ∧
      (∀ name ∈ first :: rest, name ∈ graph.names) ∧
      (first :: rest ++ [first]).IsChain graph.Lists := by
  refine ⟨?_, graph.findCircle?_ne_none_iff, fun circle found => ?_⟩
  · obtain ⟨result, explores, found⟩ := graph.explores_names
    exact ⟨result, fun other => ⟨fun another => another.unique explores, fun same => same ▸ explores⟩,
      found⟩
  · have spec := graph.findCircle?_spec
    rw [Option.mem_def.mp found] at spec
    obtain ⟨first, rest, stations, distinct, walk⟩ := spec
    rw [stations] at walk
    refine ⟨first, rest, ?_, distinct, known_of_walk walk, ?_⟩
    · rw [Circle.chain, stations]
    · rw [← graph.leads_eq_lists]
      exact walk

/-- A tail leads into a circle; an earlier node of one name lists nothing, and there is a stranger. -/
theorem chain_of_tail_and_circle :
    let graph : DependencyGraph :=
      [⟨"tail", ["stranger", "b"]⟩, ⟨"b", []⟩, ⟨"c", ["b"]⟩, ⟨"b", ["c"]⟩]
    (∃ name, TransGen graph.Lists name name) ∧ ∃ first rest,
      Circle.chain ⟨["b", "c", "b"]⟩ = " -> ".intercalate (first :: rest ++ [first]) ∧
      (first :: rest).Nodup ∧ (∀ name ∈ first :: rest, name ∈ graph.names) ∧
      (first :: rest ++ [first]).IsChain graph.Lists := by
  intro graph
  have found : graph.findCircle? = some ⟨["b", "c", "b"]⟩ := by decide
  obtain ⟨-, complete, sound⟩ := findCircle?_sound_and_complete graph
  exact ⟨complete.mp (found ▸ Option.some_ne_none _), sound _ found⟩

end PhasedLifecycle
