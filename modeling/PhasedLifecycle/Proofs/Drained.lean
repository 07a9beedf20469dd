/-
This file says which names one traversal takes out of the working set, where the registry answers each
question in one way: exactly those that its name leads to along edges between names of the set. The set
shrinks as the traversal goes, so what it comes to later it sees in a smaller graph; but a name that is
missing there was gone down from before, and what it leads to was taken out with it. Circles, repeated
names and strangers change nothing about this.

A start that fails stops on the way. It has taken out nothing but such names then, among them the one
that failed.
-/

import PhasedLifecycle.Proofs.StartTraversal
import PhasedLifecycle.Proofs.StopOrder

namespace PhasedLifecycle

open Pass Relation

/-! ### What a name leads to -/

/-- From a name of the working set, edges between names of the set lead to another one. -/
def WorkingSet.Reaches (left : WorkingSet) (edges : String → List String) (name other : String) :
    Prop :=
  name ∈ left.names ∧ ReflTransGen (Leads edges left.names) name other

/-- One search has its turns at the names that its root leads to. -/
theorem Descent.mem_order_enter_iff {left : WorkingSet} (distinct : left.Distinct)
    {edges : String → List String} {name other : String} :
    other ∈ (({ left } : Descent).enter edges name).order ↔ left.Reaches edges name other := by
  constructor
  · intro there
    rcases mem_order_visit (fun name there => there) there with none | reached
    · exact absurd none List.not_mem_nil
    · exact reached
  · rintro ⟨inside, leads⟩
    have first : name ∈ ([name].foldl (Descent.enter edges) { left }).order :=
      mem_order_search distinct List.mem_cons_self inside
    exact mem_order_of_leads distinct first leads

/-! ### What a traversal does -/

/-- A traversal takes the names that are reached out of the working set, each with one turn for the
component it stands for, and leaves every other name as it is. -/
structure WorkingSet.Drains (left : WorkingSet) (record : List Exchange) (after : WorkingSet)
    (reached : String → Prop) : Prop where
  once : ((turnsIn record).map (·.name)).Nodup
  turns : ∀ name, name ∈ (turnsIn record).map (·.name) ↔ reached name
  drawn : ∀ turn ∈ turnsIn record, left.get? turn.name = some turn.component
  gone : ∀ name, reached name → after.get? name = none
  kept : ∀ name, ¬ reached name → after.get? name = left.get? name

/-- To give turns to the names that are reached, and to take out those, is to drain them. -/
theorem WorkingSet.Drains.of_turns {left after : WorkingSet} {record : List Exchange}
    {reached : String → Prop} (once : ((turnsIn record).map (·.name)).Nodup)
    (turns : ∀ name, name ∈ (turnsIn record).map (·.name) ↔ reached name)
    (drawn : ∀ turn ∈ turnsIn record, left.get? turn.name = some turn.component)
    (rest : after = left.without ((turnsIn record).map (·.name))) : left.Drains record after reached where
  once := once
  turns := turns
  drawn := drawn
  gone := fun name reaches => by
    rw [rest, get?_eq_none_iff, mem_names_without]
    exact fun there => there.2 ((turns name).mpr reaches)
  kept := fun name fails => by
    rw [rest]
    exact get?_without_of_notMem _ (mt (turns name).mp fails)

namespace Starting

variable {autoOnly : Bool} {starting result : Starting} {record : List Exchange} {name : String}
  {edges : String → List String} {names : List String}

/-- Whatever a start takes out of the working set, whether it fails or not, its name leads to it: it was
taken out for the name itself, or on the way down from one of the names listed. -/
theorem leads_of_drained {depth : Nat} {other : String}
    (within : ∀ name ∈ starting.left.names, name ∈ names)
    (fixed : ∀ exchange ∈ record, exchange.KeepsDependencies edges)
    (yields : (visit autoOnly depth starting name).Yields record result)
    (there : other ∈ starting.left.names) (gone : other ∉ result.left.names) :
    name ∈ names ∧ ReflTransGen (Leads edges names) name other := by
  induction depth generalizing starting result record name with
  | zero =>
    obtain ⟨-, rfl⟩ := yields
    exact absurd there gone
  | succ depth inductionHypothesis =>
    by_cases unfailed : starting.failure = none
    · cases found : starting.left.get? name with
      | none =>
        rw [visit, unfailed, found] at yields
        obtain ⟨-, rfl⟩ := yields
        exact absurd there gone
      | some component =>
        have listed := within name (WorkingSet.mem_names_of_get? found)
        rw [visit, unfailed, found] at yields
        obtain ⟨dependencies, resolved, instant, rest, rfl, answered⟩ := yields_ask_bind.mp yields
        obtain ⟨below, middle, last, descended, turned, rfl⟩ := yields_bind.mp answered
        obtain rfl : dependencies = edges name := fixed _ List.mem_cons_self
        have fixedBelow : ∀ exchange ∈ below, exchange.KeepsDependencies edges := fun exchange there =>
          fixed exchange (List.mem_cons_of_mem _ (List.mem_append_left _ there))
        have kept : middle.left = result.left := by
          by_cases failed : middle.failure = none
          · rw [failed] at turned
            obtain ⟨_, _, -, -, -, rfl, -⟩ := yields_turn failed turned
            rfl
          · rw [if_pos (Option.isSome_iff_ne_none.mpr failed)] at turned
            obtain ⟨-, rfl⟩ := turned
            rfl
        by_cases same : other = name
        · rw [same]
          exact ⟨listed, .refl⟩
        · have loop := foldlM_induction
            (motive := fun done before state =>
              (∀ exchange ∈ before, exchange.KeepsDependencies edges) →
              (∀ name ∈ state.left.names, name ∈ names) ∧ (other ∈ state.left.names ∨
                ∃ next ∈ done, next ∈ names ∧ ReflTransGen (Leads edges names) next other))
            (fun _ => ⟨fun name there => within name ((WorkingSet.mem_names_erase _ _ _).mp there).1,
              Or.inl ((WorkingSet.mem_names_erase _ _ _).mpr ⟨there, same⟩)⟩)
            (fun done next before state round later holds goes fixed => by
              obtain ⟨inside, early⟩ :=
                holds fun exchange there => fixed exchange (List.mem_append_left _ there)
              obtain ⟨_, _, span, -⟩ := StartSpan.visit goes
              refine ⟨fun name there => inside name (span.mem_names there), ?_⟩
              rcases early with still | ⟨first, among, reached⟩
              · by_cases stays : other ∈ later.left.names
                · exact Or.inl stays
                · exact Or.inr ⟨next, List.mem_append_right _ (List.mem_singleton.mpr rfl),
                    inductionHypothesis inside
                      (fun exchange there => fixed exchange (List.mem_append_right _ there)) goes still
                      stays⟩
              · exact Or.inr ⟨first, List.mem_append_left _ among, reached⟩)
            descended fixedBelow
          rcases loop.2 with still | ⟨next, inEdges, nextListed, reached⟩
          · exact absurd (kept ▸ still) gone
          · exact ⟨listed, .head ⟨listed, nextListed, inEdges⟩ reached⟩
    · obtain ⟨-, rfl⟩ := yields_visit_of_failed unfailed yields
      exact absurd there gone

end Starting

/-! ### The names that are taken out -/

/-- Where the registry answers each question in one way throughout, to start what a name stands for takes
exactly the names out of the working set that it leads to along dependencies between names of the set,
each with one turn of its own, and so does to stop it along dependents. A start that fails has taken out
only such names, the one that failed among them. -/
theorem traversals_drain_what_names_reach {left : WorkingSet} (distinct : left.Distinct)
    (edges : String → List String) (name : String) :
    (∀ (autoOnly : Bool) (record : List Exchange) (result : Starting),
      (({ left } : Starting).start autoOnly name).Yields record result →
      (∀ exchange ∈ record, exchange.KeepsDependencies edges) →
        (result.failure = none → left.Drains record result.left (left.Reaches edges name)) ∧
        ∀ error, result.failure = some error →
          (∀ other, result.left.get? other = left.get? other ∨
            left.Reaches edges name other ∧ result.left.get? other = none) ∧
          ∃ failing reason, error = .startFailed failing reason ∧ left.Reaches edges name failing ∧
            result.left.get? failing = none) ∧
    ∀ (members : List String) (stopping : Stopping) (record : List Exchange) (result : Stopping),
      stopping.left = left → (stopping.stop members name).Yields record result →
      (∀ exchange ∈ record, exchange.KeepsDependents edges) →
        left.Drains record result.left (left.Reaches edges name) := by
  constructor
  · intro autoOnly record result yields fixed
    obtain ⟨turns, entered, span, -⟩ := StartSpan.start yields
    have accord := (Accord.initial autoOnly left).start name fixed yields
    have its : turnsIn record = turns := by
      rw [turnsIn, span.reads]
      simp
    constructor
    · intro unfailed
      obtain ⟨-, rfl⟩ := span.closed unfailed
      have names : (turnsIn record).map (·.name) = (({ left } : Descent).enter edges name).order :=
        (accord.along unfailed).names
      refine .of_turns (its ▸ span.once) (fun other => ?_) (its ▸ span.drawn) (its ▸ span.left)
      rw [names]
      exact Descent.mem_order_enter_iff distinct
    · intro error failed
      have taken : ∀ other ∈ left.names, other ∉ result.left.names →
          left.Reaches edges name other :=
        fun other => Starting.leads_of_drained (fun name there => there) fixed yields
      refine ⟨fun other => ?_, ?_⟩
      · by_cases stays : other ∈ entered ++ turns.map (·.name)
        · have gone : other ∉ result.left.names := fun there => by
            rw [span.left, WorkingSet.mem_names_without] at there
            exact there.2 stays
          by_cases present : other ∈ left.names
          · exact Or.inr ⟨taken other present gone, (WorkingSet.get?_eq_none_iff _ _).mpr gone⟩
          · rw [(WorkingSet.get?_eq_none_iff _ _).mpr gone, (WorkingSet.get?_eq_none_iff _ _).mpr present]
            exact Or.inl rfl
        · rw [span.left]
          exact Or.inl (WorkingSet.get?_without_of_notMem _ stays)
      · obtain ⟨turn, earlier, latest, kind⟩ := accord.failed error failed
        have there : turn ∈ turns := by
          rw [← its, turnsIn, latest]
          exact List.mem_reverse.mpr List.mem_cons_self
        have gone : turn.name ∉ result.left.names := fun stays => by
          rw [span.left, WorkingSet.mem_names_without] at stays
          exact stays.2 (List.mem_append_right _ (List.mem_map_of_mem there))
        have present := WorkingSet.mem_names_of_get? (span.drawn turn there)
        cases kind with
        | failing failing component auto reason =>
          exact ⟨failing, reason, rfl, taken failing present gone,
            (WorkingSet.get?_eq_none_iff _ _).mpr gone⟩
  · rintro members stopping record result rfl yields fixed
    obtain ⟨turns, span, -⟩ := StopSpan.visit yields
    have begun : Abreast [] {} { left := stopping.left } stopping.left := ⟨rfl, rfl, rfl⟩
    have abreast := begun.stop name fixed yields
    have its : turnsIn record = turns := by
      rw [turnsIn, span.reads]
      simp
    have names : (turnsIn record).map (·.name) =
        (({ left := stopping.left } : Descent).enter edges name).order := abreast.names
    refine .of_turns (its ▸ span.once) (fun other => ?_) (its ▸ span.drawn) (its ▸ span.left)
    rw [names]
    exact Descent.mem_order_enter_iff distinct

/-- A gate and a yard that depend on each other, a wall that they stand on, and a shed apart. -/
def gateAndShed : WorkingSet :=
  .ofList [⟨"gate", ⟨"gate", .plain⟩⟩, ⟨"shed", ⟨"shed", .plain⟩⟩, ⟨"yard", ⟨"yard", .plain⟩⟩,
    ⟨"wall", ⟨"wall", .plain⟩⟩]

def gateEdges : String → List String
  | "gate" => ["ghost", "yard", "yard"]
  | "yard" => ["gate", "wall"]
  | _ => []

def gateHabits : Habits where
  dependencies := gateEdges
  phase _ := 0

/-- From the gate a start comes to the yard and to the wall, though the yard leads back; the shed stays. -/
theorem gate_drains_yard_and_wall :
    let result := gateHabits.value [] (({ left := gateAndShed } : Starting).start false "gate")
    result.left.get? "wall" = none ∧ result.left.get? "yard" = none ∧
      result.left.get? "shed" = some ⟨"shed", .plain⟩ := by
  have drains := ((traversals_drain_what_names_reach (WorkingSet.distinct_ofList _) gateEdges "gate").1
    false _ _ (gateHabits.yields_record [] (({ left := gateAndShed } : Starting).start false "gate"))
    (gateHabits.keepsDependencies_record _ _)).1 (by cbv)
  have yard : gateAndShed.Reaches gateEdges "gate" "yard" :=
    ⟨by decide, .single ⟨by decide, by decide, by decide⟩⟩
  refine ⟨drains.gone "wall" ⟨yard.1, yard.2.tail ⟨by decide, by decide, by decide⟩⟩,
    drains.gone "yard" yard, drains.kept "shed" fun reaches => ?_⟩
  rcases ReflTransGen.cases_tail reaches.2 with same | ⟨last, _, edge⟩
  · exact absurd same (by decide)
  · have shedless : ∀ first ∈ gateAndShed.names, "shed" ∉ gateEdges first := by decide
    exact shedless last edge.1 edge.2.2

end PhasedLifecycle
