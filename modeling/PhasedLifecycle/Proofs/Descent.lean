/-
This file holds the search that both kinds of passes make when every question about edges has one
fixed answer: take a name out of the working set, go down to every name it lists, and only then let
it have its turn. The order of the turns is the order in which the search comes back from names.

The main result is `Descent.Ordered.precedes`: a name that lies on no circle has its turn after all
names it leads to, from whatever roots the search began and whatever circles there are elsewhere. A
name that is missing from the working set has had its turn or is still being gone down from; the
names of the second kind all lead to the name at hand, so only a name on a circle can meet one.
-/

import PhasedLifecycle.Proofs.Edges
import PhasedLifecycle.Proofs.WorkingSet

namespace PhasedLifecycle

open Relation

/-! ### The search -/

/-- A search under way: the components whose turn has not come, and the names whose turn has, in the
order of their turns. -/
structure Descent where
  left : WorkingSet
  order : List String := []

namespace Descent

/-- Goes down from a name: nothing if it is not left, else everything it lists and then its own
turn. -/
def visit (edges : String → List String) : Nat → Descent → String → Descent
  | 0, descent, _ => descent
  | depth + 1, descent, name =>
    if name ∈ descent.left.names then
      let below := (edges name).foldl (visit edges depth)
        { descent with left := descent.left.erase name }
      { below with order := below.order ++ [name] }
    else descent

/-- Goes down from a name as deep as the working set allows. -/
def enter (edges : String → List String) (descent : Descent) (name : String) : Descent :=
  descent.visit edges descent.left.size name

variable {edges : String → List String} {names : List String}

theorem visit_of_mem {descent : Descent} {name : String} (depth : Nat)
    (present : name ∈ descent.left.names) :
    descent.visit edges (depth + 1) name =
      { left := ((edges name).foldl (visit edges depth)
          { descent with left := descent.left.erase name }).left
        order := ((edges name).foldl (visit edges depth)
          { descent with left := descent.left.erase name }).order ++ [name] } :=
  if_pos present

theorem visit_of_notMem {descent : Descent} {name : String} (depth : Nat)
    (absent : name ∉ descent.left.names) : descent.visit edges depth name = descent := by
  cases depth with
  | zero => rfl
  | succ depth => exact if_neg absent

/-! ### The working set shrinks and the order grows -/

/-- A loop over searches that each shrink the working set and lengthen the order does so too. -/
private theorem foldl_grows {step : Descent → String → Descent}
    (each : ∀ descent name, (step descent name).left.members.Sublist descent.left.members ∧
      descent.order <+: (step descent name).order) (roots : List String) (descent : Descent) :
    (roots.foldl step descent).left.members.Sublist descent.left.members ∧
      descent.order <+: (roots.foldl step descent).order := by
  induction roots generalizing descent with
  | nil => exact ⟨List.Sublist.refl _, List.prefix_refl _⟩
  | cons root roots inductionHypothesis =>
    obtain ⟨shrunk, grown⟩ := each descent root
    obtain ⟨shrinks, grows⟩ := inductionHypothesis (step descent root)
    exact ⟨shrinks.trans shrunk, grown.trans grows⟩

private theorem visit_grows (depth : Nat) (descent : Descent) (name : String) :
    (descent.visit edges depth name).left.members.Sublist descent.left.members ∧
      descent.order <+: (descent.visit edges depth name).order := by
  induction depth generalizing descent name with
  | zero => exact ⟨List.Sublist.refl _, List.prefix_refl _⟩
  | succ depth inductionHypothesis =>
    by_cases present : name ∈ descent.left.names
    · obtain ⟨shrinks, grows⟩ := foldl_grows inductionHypothesis (edges name)
        { descent with left := descent.left.erase name }
      rw [visit_of_mem depth present]
      exact ⟨shrinks.trans List.filter_sublist, grows.trans (List.prefix_append _ _)⟩
    · rw [visit_of_notMem _ present]
      exact ⟨List.Sublist.refl _, List.prefix_refl _⟩

theorem left_visit_sublist (depth : Nat) (descent : Descent) (name : String) :
    (descent.visit edges depth name).left.members.Sublist descent.left.members :=
  (visit_grows depth descent name).1

theorem order_prefix_visit (depth : Nat) (descent : Descent) (name : String) :
    descent.order <+: (descent.visit edges depth name).order :=
  (visit_grows depth descent name).2

theorem order_prefix_foldl_enter (roots : List String) (descent : Descent) :
    descent.order <+: (roots.foldl (enter edges) descent).order :=
  (foldl_grows (fun descent name => visit_grows descent.left.size descent name) roots descent).2

/-! ### The order of turns -/

/-- Whenever a name has its turn, whatever a name led to whose turn has come has had its turn too,
or leads back to the name at hand. -/
def Ordered (edges : String → List String) (names order : List String) : Prop :=
  ∀ earlier name later, order = earlier ++ name :: later →
    ∀ done ∈ earlier ++ [name], ∀ next, Leads edges names done next →
      next ∈ earlier ++ [name] ∨ ReflTransGen (Leads edges names) next name

/-- In an ordered list, a name on no circle comes after everything else that it leads to. A name that
leads back would close a circle through the name at hand. -/
theorem Ordered.precedes {order earlier later : List String} {name other : String}
    (ordered : Ordered edges names order) (place : order = earlier ++ name :: later)
    (straight : ¬ OnCircle edges names name)
    (reaches : ReflTransGen (Leads edges names) name other) (different : other ≠ name) :
    other ∈ earlier := by
  have done : other ∈ earlier ++ [name] := by
    induction reaches with
    | refl => exact List.mem_append_right _ (List.mem_singleton.mpr rfl)
    | tail path edge inductionHypothesis =>
      rename_i middle last
      have middleDone : middle ∈ earlier ++ [name] := by
        by_cases same : middle = name
        · exact List.mem_append_right _ (List.mem_singleton.mpr same)
        · exact inductionHypothesis same
      rcases ordered earlier name later place middle middleDone last edge with there | back
      · exact there
      · exact absurd ((TransGen.tail' path edge).trans_left back) straight
  rcases List.mem_append.mp done with there | same
  · exact there
  · exact absurd (List.mem_singleton.mp same) different

/-! ### The search keeps its turns in order -/

/-- What holds of a search at every step, below the names it is still going down from. -/
structure Sound (edges : String → List String) (names stack : List String) (descent : Descent) :
    Prop where
  distinct : descent.left.Distinct
  within : ∀ name ∈ descent.left.names, name ∈ names
  covered : ∀ name ∈ names, name ∈ descent.left.names ∨ name ∈ descent.order ∨ name ∈ stack
  once : descent.order.Nodup
  apart : ∀ name ∈ descent.order, name ∉ descent.left.names
  below : ∀ name ∈ stack, name ∉ descent.left.names ∧ name ∉ descent.order
  closed : ∀ name ∈ descent.order, ∀ next, Leads edges names name next →
    next ∈ descent.order ∨ next ∈ stack
  ordered : Ordered edges names descent.order

/-- Taking a name out of the working set puts it on the stack. -/
private theorem Sound.push {stack : List String} {descent : Descent} {name : String}
    (sound : descent.Sound edges names stack) (present : name ∈ descent.left.names) :
    ({ descent with left := descent.left.erase name } : Descent).Sound edges names
      (name :: stack) where
  distinct := WorkingSet.distinct_erase sound.distinct name
  within := fun other there =>
    sound.within other ((WorkingSet.mem_names_erase _ _ _).mp there).1
  covered := by
    intro other listed
    by_cases same : other = name
    · exact Or.inr (Or.inr (by rw [same]; exact List.mem_cons_self))
    · rcases sound.covered other listed with there | done | above
      · exact Or.inl ((WorkingSet.mem_names_erase _ _ _).mpr ⟨there, same⟩)
      · exact Or.inr (Or.inl done)
      · exact Or.inr (Or.inr (List.mem_cons_of_mem _ above))
  once := sound.once
  apart := fun other done there =>
    sound.apart other done ((WorkingSet.mem_names_erase _ _ _).mp there).1
  below := by
    intro other above
    rcases List.mem_cons.mp above with rfl | above
    · exact ⟨fun there => ((WorkingSet.mem_names_erase _ _ _).mp there).2 rfl,
        fun done => sound.apart other done present⟩
    · exact ⟨fun there => (sound.below other above).1 ((WorkingSet.mem_names_erase _ _ _).mp there).1,
        (sound.below other above).2⟩
  closed := by
    intro other done next edge
    rcases sound.closed other done next edge with there | above
    · exact Or.inl there
    · exact Or.inr (List.mem_cons_of_mem _ above)
  ordered := sound.ordered

/-- Once nothing that a name lists is left, its own turn takes it off the stack. The turn just had is
the last, and all names still gone down from lead to it. -/
private theorem Sound.pop {stack : List String} {descent : Descent} {name : String}
    (sound : descent.Sound edges names (name :: stack))
    (fresh : name ∉ stack) (spent : ∀ next ∈ edges name, next ∉ descent.left.names)
    (leads : ∀ above ∈ stack, ReflTransGen (Leads edges names) above name) :
    ({ descent with order := descent.order ++ [name] } : Descent).Sound edges names stack := by
  obtain ⟨notLeft, notDone⟩ := sound.below name List.mem_cons_self
  have closed : ∀ other ∈ descent.order ++ [name], ∀ next, Leads edges names other next →
      next ∈ descent.order ++ [name] ∨ next ∈ stack := by
    intro other done next edge
    have settled : next ∈ descent.order ∨ next ∈ name :: stack := by
      rcases List.mem_append.mp done with done | same
      · exact sound.closed other done next edge
      · obtain rfl := List.mem_singleton.mp same
        rcases sound.covered next edge.2.1 with there | done | above
        · exact absurd there (spent next edge.2.2)
        · exact Or.inl done
        · exact Or.inr above
    rcases settled with done | above
    · exact Or.inl (List.mem_append_left _ done)
    · rcases List.mem_cons.mp above with rfl | above
      · exact Or.inl (List.mem_append_right _ (List.mem_singleton.mpr rfl))
      · exact Or.inr above
  refine ⟨sound.distinct, sound.within, ?_, ?_, ?_, ?_, closed, ?_⟩
  · intro other listed
    rcases sound.covered other listed with there | done | above
    · exact Or.inl there
    · exact Or.inr (Or.inl (List.mem_append_left _ done))
    · rcases List.mem_cons.mp above with rfl | above
      · exact Or.inr (Or.inl (List.mem_append_right _ (List.mem_singleton.mpr rfl)))
      · exact Or.inr (Or.inr above)
  · exact List.nodup_append.mpr ⟨sound.once, List.nodup_singleton _,
      fun other done last same equal =>
        notDone (by rw [← List.mem_singleton.mp same, ← equal]; exact done)⟩
  · intro other done
    rcases List.mem_append.mp done with done | same
    · exact sound.apart other done
    · rw [List.mem_singleton.mp same]
      exact notLeft
  · intro other above
    obtain ⟨otherNotLeft, otherNotDone⟩ := sound.below other (List.mem_cons_of_mem _ above)
    refine ⟨otherNotLeft, fun done => ?_⟩
    rcases List.mem_append.mp done with done | same
    · exact otherNotDone done
    · exact fresh (by rw [← List.mem_singleton.mp same]; exact above)
  · intro earlier last later place
    rcases List.eq_nil_or_concat later with rfl | ⟨front, final, rfl⟩
    · obtain ⟨rfl, same⟩ := List.append_inj' place rfl
      obtain rfl : name = last := by simpa using same
      intro done there next edge
      rcases closed done there next edge with settled | above
      · exact Or.inl settled
      · exact Or.inr (leads next above)
    · have shorter : descent.order = earlier ++ last :: front := by
        have place' : descent.order ++ [name] = (earlier ++ last :: front) ++ [final] := by
          simpa using place
        exact (List.append_inj' place' rfl).1
      exact sound.ordered earlier last front shorter

/-- A loop over searches keeps a search sound, and leaves none of its roots, if each search does so
on its own. -/
private theorem Sound.foldl (deep : Descent → Prop) {step : Descent → String → Descent}
    {stack roots : List String} {descent : Descent}
    (shrinks : ∀ descent root, (step descent root).left.members.Sublist descent.left.members)
    (each : ∀ descent root, deep descent → descent.Sound edges names stack → root ∈ roots →
      (step descent root).Sound edges names stack ∧ root ∉ (step descent root).left.names)
    (keeps : ∀ descent root, deep descent → deep (step descent root))
    (enough : deep descent) (sound : descent.Sound edges names stack) :
    (roots.foldl step descent).Sound edges names stack ∧
      ∀ root ∈ roots, root ∉ (roots.foldl step descent).left.names := by
  induction roots generalizing descent with
  | nil => exact ⟨sound, fun root member => absurd member List.not_mem_nil⟩
  | cons root roots inductionHypothesis =>
    obtain ⟨first, gone⟩ := each descent root enough sound List.mem_cons_self
    obtain ⟨rest, spent⟩ := inductionHypothesis
      (fun descent other enough sound member =>
        each descent other enough sound (List.mem_cons_of_mem _ member))
      (keeps descent root enough) first
    refine ⟨rest, fun other member => ?_⟩
    rcases List.mem_cons.mp member with rfl | member
    · have shrunk : (roots.foldl step (step descent other)).left.members.Sublist
          (step descent other).left.members :=
        List.foldlRecOn roots step (List.Sublist.refl _)
          fun descent shrunk root _ => (shrinks descent root).trans shrunk
      exact fun there => gone ((shrunk.map (·.name)).subset there)
    · exact spent other member

/-- Going down from a name keeps the search sound and leaves the name no more. -/
theorem Sound.visit {stack : List String} {descent : Descent} {name : String} {depth : Nat}
    (sound : descent.Sound edges names stack) (deep : descent.left.size ≤ depth)
    (leads : name ∈ descent.left.names → ∀ above ∈ stack,
      ReflTransGen (Leads edges names) above name) :
    (descent.visit edges depth name).Sound edges names stack ∧
      name ∉ (descent.visit edges depth name).left.names := by
  induction depth generalizing descent name stack with
  | zero =>
    refine ⟨sound, fun there => ?_⟩
    have none : descent.left.names = [] := by
      simpa [WorkingSet.size, WorkingSet.names] using deep
    rw [Descent.visit, none] at there
    exact absurd there List.not_mem_nil
  | succ depth inductionHypothesis =>
    by_cases present : name ∈ descent.left.names
    · rw [visit_of_mem depth present]
      have smaller : (descent.left.erase name).size ≤ depth :=
        Nat.le_of_lt_succ (Nat.lt_of_lt_of_le
          (WorkingSet.size_erase_lt descent.left name present) deep)
      have leadsOn : ∀ next ∈ edges name, next ∈ names → ∀ above ∈ name :: stack,
          ReflTransGen (Leads edges names) above next := by
        intro next listed inside above member
        have edge : Leads edges names name next := ⟨sound.within name present, inside, listed⟩
        rcases List.mem_cons.mp member with rfl | member
        · exact ReflTransGen.single edge
        · exact (leads present above member).tail edge
      obtain ⟨all, spent⟩ := Sound.foldl (fun descent => descent.left.size ≤ depth)
        (fun descent root => left_visit_sublist depth descent root)
        (fun descent next enough sound listed => inductionHypothesis sound enough
          fun there => leadsOn next listed (sound.within next there))
        (fun descent root enough =>
          Nat.le_trans (left_visit_sublist depth descent root).length_le enough)
        smaller (sound.push present)
      refine ⟨all.pop (fun above => (sound.below name above).1 present) spent (leads present),
        (all.below name List.mem_cons_self).1⟩
    · rw [visit_of_notMem _ present]
      exact ⟨sound, present⟩

/-- A search from roots, one after the other, keeps its turns in order and leaves no root. -/
theorem Sound.enterAll {descent : Descent} (sound : descent.Sound edges names [])
    (roots : List String) :
    (roots.foldl (enter edges) descent).Sound edges names [] ∧
      ∀ root ∈ roots, root ∉ (roots.foldl (enter edges) descent).left.names :=
  Sound.foldl (fun _ => True)
    (fun descent root => left_visit_sublist descent.left.size descent root)
    (fun _ _ _ sound _ => sound.visit (Nat.le_refl _)
      fun _ _ member => absurd member List.not_mem_nil)
    (fun _ _ _ => trivial) trivial sound

/-- A search begins sound. -/
theorem sound_initial {left : WorkingSet} (distinct : left.Distinct) :
    ({ left } : Descent).Sound edges left.names [] where
  distinct := distinct
  within := fun _ there => there
  covered := fun _ there => Or.inl there
  once := List.nodup_nil
  apart := fun _ done => absurd done List.not_mem_nil
  below := fun _ above => absurd above List.not_mem_nil
  closed := fun _ done => absurd done List.not_mem_nil
  ordered := fun earlier name later place => absurd place (by simp)

/-- A search from roots over a whole working set keeps its turns in order. -/
theorem ordered_search {left : WorkingSet} (distinct : left.Distinct) (roots : List String) :
    Ordered edges left.names (roots.foldl (enter edges) { left }).order :=
  ((sound_initial distinct).enterAll roots).1.ordered

/-- Every root that is in the working set has its turn. -/
theorem mem_order_search {left : WorkingSet} (distinct : left.Distinct) {roots : List String}
    {name : String} (root : name ∈ roots) (there : name ∈ left.names) :
    name ∈ (roots.foldl (enter edges) { left }).order := by
  obtain ⟨sound, spent⟩ := (@sound_initial edges left distinct).enterAll roots
  rcases sound.covered name there with rest | done | above
  · exact absurd rest (spent name root)
  · exact done
  · exact absurd above List.not_mem_nil

/-! ### Where a search comes from -/

/-- A loop over searches comes only to what its roots lead to, if each search does so on its own. -/
private theorem mem_order_foldl {step : Descent → String → Descent} {roots : List String}
    {other : String}
    (shrinks : ∀ descent root, (step descent root).left.members.Sublist descent.left.members)
    (each : ∀ descent root, (∀ name ∈ descent.left.names, name ∈ names) →
      other ∈ (step descent root).order →
        other ∈ descent.order ∨ root ∈ names ∧ ReflTransGen (Leads edges names) root other)
    {descent : Descent} (within : ∀ name ∈ descent.left.names, name ∈ names)
    (there : other ∈ (roots.foldl step descent).order) :
    other ∈ descent.order ∨
      ∃ root ∈ roots, root ∈ names ∧ ReflTransGen (Leads edges names) root other := by
  induction roots generalizing descent with
  | nil => exact Or.inl there
  | cons root roots inductionHypothesis =>
    have stays : ∀ name ∈ (step descent root).left.names, name ∈ names := fun name left =>
      within name (((shrinks descent root).map Member.name).subset left)
    rcases inductionHypothesis stays there with early | ⟨later, listed, reached⟩
    · exact (each descent root within early).imp_right fun reached =>
        ⟨root, List.mem_cons_self, reached⟩
    · exact Or.inr ⟨later, List.mem_cons_of_mem _ listed, reached⟩

/-- Going down from a name, a search comes only to what the name leads to. -/
theorem mem_order_visit {depth : Nat} {descent : Descent} {name other : String}
    (within : ∀ name ∈ descent.left.names, name ∈ names)
    (there : other ∈ (descent.visit edges depth name).order) :
    other ∈ descent.order ∨ name ∈ names ∧ ReflTransGen (Leads edges names) name other := by
  induction depth generalizing descent name with
  | zero => exact Or.inl there
  | succ depth inductionHypothesis =>
    by_cases present : name ∈ descent.left.names
    · have listed := within name present
      rw [visit_of_mem depth present] at there
      rcases List.mem_append.mp there with there | same
      · have stays : ∀ other ∈ (descent.left.erase name).names, other ∈ names := fun other left =>
          within other ((WorkingSet.mem_names_erase _ _ _).mp left).1
        refine (mem_order_foldl (left_visit_sublist depth)
          (fun descent next within there => inductionHypothesis within there) stays there).imp_right ?_
        rintro ⟨next, inEdges, nextListed, reached⟩
        exact ⟨listed, .head ⟨listed, nextListed, inEdges⟩ reached⟩
      · rw [List.mem_singleton.mp same]
        exact Or.inr ⟨listed, .refl⟩
    · rw [visit_of_notMem _ present] at there
      exact Or.inl there

/-- Whatever has its turn in a search, one of the roots leads to it. -/
theorem exists_root_of_mem_order {left : WorkingSet} {roots : List String} {name : String}
    (there : name ∈ (roots.foldl (enter edges) { left }).order) :
    ∃ root ∈ roots, ReflTransGen (Leads edges left.names) root name := by
  rcases mem_order_foldl (fun descent root => left_visit_sublist descent.left.size descent root)
    (fun descent root within there => mem_order_visit within there) (fun name there => there) there with
    none | ⟨root, listed, -, reached⟩
  · exact absurd none List.not_mem_nil
  · exact ⟨root, listed, reached⟩

/-- What leads from a name whose turn has come has had its turn as well. -/
theorem mem_order_of_leads {left : WorkingSet} (distinct : left.Distinct) {roots : List String}
    {name other : String} (there : name ∈ (roots.foldl (enter edges) { left }).order)
    (leads : ReflTransGen (Leads edges left.names) name other) :
    other ∈ (roots.foldl (enter edges) { left }).order := by
  obtain ⟨sound, -⟩ := (@sound_initial edges left distinct).enterAll roots
  induction leads with
  | refl => exact there
  | tail path edge inductionHypothesis =>
    rcases sound.closed _ inductionHypothesis _ edge with done | above
    · exact done
    · exact absurd above List.not_mem_nil

end Descent

end PhasedLifecycle
