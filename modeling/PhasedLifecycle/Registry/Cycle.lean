/-
This file looks for circles in a dependency graph. The graph is a list of nodes with the names each
depends on; of two nodes with one name the later counts, and a name without a node depends on
nothing. The search follows dependencies depth first, keeping the path that led to where it is; a
name met again on that path closes a circle.
-/

namespace PhasedLifecycle

/-! ### The graph -/

/-- A name with the names it depends on: a `DependencyGraphNode`. -/
structure DependencyNode where
  name : String
  dependencies : List String
  deriving DecidableEq

/-- A list of nodes. -/
abbrev DependencyGraph := List DependencyNode

/-- The node that counts for a name: the last one. -/
def DependencyGraph.node? (graph : DependencyGraph) (name : String) : Option DependencyNode :=
  graph.reverse.find? (·.name == name)

/-! ### The search -/

/-- A circle: its stations from the first name to its next occurrence, both included. -/
structure Circle where
  stations : List String
  deriving DecidableEq

/-- The stations joined by arrows. -/
def Circle.chain (circle : Circle) : String :=
  " -> ".intercalate circle.stations

/-- The circle closed by meeting a name again on the path that led to it. -/
def Circle.close (path : List String) (name : String) : Circle :=
  { stations := path.dropWhile (· ≠ name) ++ [name] }

/-- Searches from a name that was reached along a path, and returns the names found to lead into no
circle (`dfs_check`). The path has distinct names with nodes, so a search as deep as there are nodes
misses nothing. -/
def searchCircle (graph : DependencyGraph) :
    Nat → List String → List String → String → Except Circle (List String)
  | depth, path, cleared, name =>
    if name ∈ path then .error (Circle.close path name)
    else if name ∈ cleared then .ok cleared
    else match graph.node? name, depth with
      | none, _ => .ok cleared
      | some _, 0 => .ok cleared
      | some node, depth + 1 => do
        let cleared ← node.dependencies.foldlM
          (fun cleared dependency => searchCircle graph depth (path ++ [name]) cleared dependency)
          cleared
        return name :: cleared

/-- The first circle that a search from each node in turn meets, if there is one: what
`DefaultCircularDependencyDetector` detects. -/
def DependencyGraph.findCircle? (graph : DependencyGraph) : Option Circle :=
  match graph.foldlM (fun cleared node => searchCircle graph graph.length [] cleared node.name)
      ([] : List String) with
  | .ok _ => none
  | .error circle => some circle

end PhasedLifecycle
