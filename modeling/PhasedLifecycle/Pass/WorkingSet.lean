/-
This file holds the working set of a pass: the components whose turn has not come yet, each under
its own name. A pass takes a name out when its turn begins and never puts one back, so the size of
the set bounds how deep and how long a pass can go.
-/

import PhasedLifecycle.Component

namespace PhasedLifecycle

/-- Components under distinct names. -/
structure WorkingSet where
  members : List Member := []
  deriving DecidableEq

namespace WorkingSet

/-- The number of names in the set. -/
def size (set : WorkingSet) : Nat :=
  set.members.length

/-- The names in the set. -/
def names (set : WorkingSet) : List String :=
  set.members.map (·.name)

/-- Whether a name is in the set. -/
def contains (set : WorkingSet) (name : String) : Bool :=
  set.members.any (·.name == name)

/-- The component under a name. -/
def get? (set : WorkingSet) (name : String) : Option Component :=
  (set.members.find? (·.name == name)).map (·.component)

/-- The set without a name. -/
def erase (set : WorkingSet) (name : String) : WorkingSet :=
  { members := set.members.filter (·.name ≠ name) }

/-- Puts a component under a name, in the place of the one that stood there. -/
def insert (set : WorkingSet) (member : Member) : WorkingSet :=
  if set.contains member.name then
    { members := set.members.map fun other =>
        if other.name == member.name then member else other }
  else { members := set.members ++ [member] }

/-- The set of the listed members; of two with one name the later counts. -/
def ofList (members : List Member) : WorkingSet :=
  members.foldl insert {}

theorem get?_eq_none_iff (set : WorkingSet) (name : String) :
    set.get? name = none ↔ name ∉ set.names := by
  simp [get?, names]

theorem mem_names_erase (set : WorkingSet) (erased name : String) :
    name ∈ (set.erase erased).names ↔ name ∈ set.names ∧ name ≠ erased := by
  simp only [names, erase, List.mem_map, List.mem_filter, decide_eq_true_eq]
  constructor
  · rintro ⟨member, ⟨present, different⟩, rfl⟩
    exact ⟨⟨member, present, rfl⟩, different⟩
  · rintro ⟨⟨member, present, rfl⟩, different⟩
    exact ⟨member, ⟨present, different⟩, rfl⟩

theorem size_erase_lt (set : WorkingSet) (name : String) (member : name ∈ set.names) :
    (set.erase name).size < set.size := by
  simp only [names, List.mem_map] at member
  obtain ⟨found, present, same⟩ := member
  exact List.length_filter_lt_length_iff_exists.mpr ⟨found, present, by simp [same]⟩

end WorkingSet

end PhasedLifecycle
