/-
This file says when names stand in a circle. Edges are given as the names that each name lists, and
only those between given names count: a pass and the search for circles both ignore strangers.
-/

import Mathlib.Data.List.Chain
import Mathlib.Logic.Relation

namespace PhasedLifecycle

open Relation

/-- One of the given names lists another of them. -/
def Leads (edges : String → List String) (names : List String) (first second : String) : Prop :=
  first ∈ names ∧ second ∈ names ∧ second ∈ edges first

/-- Following edges from a name leads back to it. -/
def OnCircle (edges : String → List String) (names : List String) (name : String) : Prop :=
  TransGen (Leads edges names) name name

section

variable {edges others : String → List String} {names : List String}

/-- Only which names are given matters, not their order. -/
theorem leads_congr {first second : List String} (same : ∀ name, name ∈ first ↔ name ∈ second) :
    Leads edges first = Leads edges second := by
  funext name next
  exact propext (and_congr (same name) (and_congr_left' (same next)))

/-- Only what the given names list matters. -/
theorem leads_congr_edges (same : ∀ name ∈ names, edges name = others name) :
    Leads edges names = Leads others names := by
  funext name next
  refine propext (and_congr_right fun there => ?_)
  rw [same name there]

/-- Edges that are listed the other way round make the same circles. -/
theorem onCircle_mirror (mirror : ∀ first second, second ∈ edges first ↔ first ∈ others second)
    (name : String) : OnCircle others names name ↔ OnCircle edges names name := by
  have swapped : Leads others names = Function.swap (Leads edges names) := by
    funext first second
    refine propext ?_
    show first ∈ names ∧ second ∈ names ∧ second ∈ others first ↔
      second ∈ names ∧ first ∈ names ∧ first ∈ edges second
    rw [mirror second first]
    exact and_left_comm
  rw [OnCircle, OnCircle, swapped]
  exact transGen_swap

/-- Where every edge leads to a smaller rank, no name lies on a circle. -/
theorem not_onCircle_of_rank (rank : String → Nat)
    (falls : ∀ first second, Leads edges names first second → rank second < rank first)
    (name : String) : ¬ OnCircle edges names name := by
  have all : ∀ last, TransGen (Leads edges names) name last → rank last < rank name := by
    intro last path
    induction path with
    | single edge => exact falls _ _ edge
    | tail path edge inductionHypothesis => exact (falls _ _ edge).trans inductionHypothesis
  exact fun circle => Nat.lt_irrefl _ (all name circle)

/-- The first name of a walk along edges that ends where it began lies on a circle. -/
theorem onCircle_of_walk {first : String} {rest : List String}
    (walk : (first :: rest ++ [first]).IsChain (Leads edges names)) : OnCircle edges names first := by
  have all : ∀ (rest : List String) (start : String),
      (start :: rest ++ [first]).IsChain (Leads edges names) →
        TransGen (Leads edges names) start first := by
    intro rest
    induction rest with
    | nil => exact fun start walk => .single (List.isChain_pair.mp walk)
    | cons next rest inductionHypothesis =>
      intro start walk
      obtain ⟨edge, walk⟩ := List.isChain_cons_cons.mp walk
      exact .head edge (inductionHypothesis next walk)
  exact all rest first walk

end

end PhasedLifecycle
