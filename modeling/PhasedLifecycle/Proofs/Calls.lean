/-
This file reads the calls off the record of a pass. Each call stands in the turn of the component that
is called, unless it goes astray; so where none does, the calls in a record are those of its turns.

If components change only when they are called, and no component has two turns, then each is found in
its turn as it was before the pass.
-/

import Mathlib.Data.List.Induction
import Mathlib.Data.List.Nodup
import PhasedLifecycle.Proofs.Turns

namespace PhasedLifecycle

/-! ### The calls in a record -/

/-- The call made in an exchange. -/
def Exchange.call? : Exchange → Option Call
  | ⟨.start component, reason, _, _⟩ => some (.start component reason)
  | ⟨.stop component, reason, _, _⟩ => some (.stop component reason)
  | ⟨.stopAsync component signal, reason, _, _⟩ => some (.stopAsync component signal reason)
  | _ => none

/-- The calls in a record, in their order. -/
def callsIn (record : List Exchange) : List Call :=
  record.filterMap Exchange.call?

/-- Whether the call is to start a component. -/
def Call.isStart : Call → Bool
  | .start _ _ => true
  | _ => false

/-- The components that are called to start in a record, in the order of the calls. -/
def startsIn (record : List Exchange) : List Component :=
  ((callsIn record).filter Call.isStart).map Call.component

/-- The components that are called to stop in a record, at once or in the background, in the order of
the calls. -/
def stopsIn (record : List Exchange) : List Component :=
  ((callsIn record).filter fun call => !call.isStart).map Call.component

namespace Docket

/-- The calls of all turns, in their order. -/
def calls (docket : Docket) : List Call :=
  docket.turns.reverse.flatMap (·.calls)

theorem calls_noteCall {docket : Docket} {call : Call} (none : (docket.noteCall call).strays = []) :
    (docket.noteCall call).calls = docket.calls ++ [call] := by
  obtain ⟨turn, turns, latest, own⟩ := own_of_strays_noteCall none
  obtain ⟨entered, _, strays⟩ := docket
  subst latest
  rw [noteCall_own _ _ _ _ _ own]
  simp [calls]

theorem calls_read {docket : Docket} {exchange : Exchange}
    (none : (docket.read exchange).strays = []) :
    (docket.read exchange).calls = docket.calls ++ exchange.call?.toList := by
  obtain ⟨request, answer, meanwhile, instant⟩ := exchange
  cases request with
  | isRunning component =>
    obtain ⟨entered, turns, strays⟩ := docket
    cases entered <;> simp [read, beginTurn, calls, Exchange.call?]
  | isAutoStartup component =>
    obtain ⟨entered, turns, strays⟩ := docket
    cases turns <;> simp [read, noteAuto, calls, Exchange.call?]
  | start component => exact calls_noteCall none
  | stop component => exact calls_noteCall none
  | stopAsync component signal => exact calls_noteCall none
  | _ => exact (List.append_nil _).symm

/-- If no call goes astray, the calls of the turns are the calls in the record. -/
theorem calls_readAll {docket : Docket} {record : List Exchange}
    (none : (docket.readAll record).strays = []) :
    (docket.readAll record).calls = docket.calls ++ callsIn record := by
  induction record generalizing docket with
  | nil => exact (List.append_nil _).symm
  | cons exchange record inductionHypothesis =>
    have first : (docket.read exchange).strays = [] := by
      have before := ((docket.read exchange).precedes_readAll record).strays
      rw [readAll_cons] at none
      rw [none] at before
      exact List.prefix_nil.mp before
    rw [readAll_cons, inductionHypothesis none, calls_read first, List.append_assoc, callsIn, callsIn,
      List.filterMap_cons]
    cases exchange.call? <;> rfl

end Docket

/-- If no call goes astray, the calls of the turns in a record are the calls in the record. -/
theorem flatMap_calls_turnsIn {record : List Exchange}
    (none : (Docket.readAll {} record).strays = []) :
    (turnsIn record).flatMap (·.calls) = callsIn record :=
  Docket.calls_readAll none

/-- If no call goes astray in a record, none does at its beginning. -/
theorem strays_of_append {first last : List Exchange}
    (none : (({} : Docket).readAll (first ++ last)).strays = []) :
    (({} : Docket).readAll first).strays = [] := by
  have stays := ((({} : Docket).readAll first).precedes_readAll last).strays
  rw [← Docket.readAll_append, none] at stays
  exact List.prefix_nil.mp stays

theorem Docket.read_of_call? {exchange : Exchange} {call : Call} (calls : exchange.call? = some call)
    (docket : Docket) : docket.read exchange = docket.noteCall call := by
  obtain ⟨request, answer, meanwhile, instant⟩ := exchange
  cases request <;> cases calls <;> rfl

/-- If no call goes astray, each call falls in a turn of its component, the latest so far. Every turn
before that one stays as it is, and what the turns have for names is the beginning of what they have
for names in the whole record. -/
theorem exists_turn_of_call {record before after : List Exchange} {exchange : Exchange} {call : Call}
    (strays : (({} : Docket).readAll record).strays = [])
    (place : record = before ++ exchange :: after) (calls : exchange.call? = some call) :
    ∃ earlier turn, turnsIn before = earlier ++ [turn] ∧ turn.component = call.component ∧
      (∀ other ∈ earlier, other ∈ turnsIn record) ∧
      turn.member ∈ (turnsIn record).map Turn.member ∧
      earlier.map (·.name) ++ [turn.name] <+: (turnsIn record).map (·.name) := by
  have whole : ({} : Docket).readAll record =
      ((({} : Docket).readAll before).noteCall call).readAll after := by
    rw [place, Docket.readAll_append, Docket.readAll_cons, Docket.read_of_call? calls]
  have readCall := Docket.precedes_readAll ((({} : Docket).readAll before).noteCall call) after
  have readBefore := (Docket.precedes_noteCall (({} : Docket).readAll before) call).trans readCall
  rw [← whole] at readCall readBefore
  obtain ⟨turn, turns, latest, own⟩ := Docket.own_of_strays_noteCall
    (List.prefix_nil.mp (strays ▸ readCall.strays))
  have tail := readBefore.tail
  have members := readBefore.members
  have names := readBefore.names
  rw [latest] at tail members
  rw [Docket.names, latest, List.reverse_cons, List.map_append] at names
  refine ⟨turns.reverse, turn, ?_, own, fun other there => ?_, ?_, names⟩
  · rw [turnsIn, latest, List.reverse_cons]
  · exact List.mem_reverse.mpr (List.mem_of_mem_tail (tail.subset (List.mem_reverse.mp there)))
  · rw [turnsIn, List.map_reverse, List.mem_reverse]
    exact members.subset List.mem_cons_self

/-- A turn was there before an exchange, but for what the exchange notes in it, or it begins with the
exchange. A call that is noted in it is to its own component. -/
theorem Docket.mem_turns_read {docket : Docket} {exchange : Exchange} {turn : Turn}
    (there : turn ∈ (docket.read exchange).turns) :
    (∃ earlier ∈ docket.turns, earlier.component = turn.component ∧ earlier.ran = turn.ran ∧
      ∀ call ∈ turn.calls, call ∈ earlier.calls ∨ call.component = turn.component) ∨
    ((docket.read exchange).turns = turn :: docket.turns ∧ turn.calls = [] ∧
      ∃ meanwhile instant, exchange = ⟨.isRunning turn.component, turn.ran, meanwhile, instant⟩) := by
  have stays : turn ∈ docket.turns →
      ∃ earlier ∈ docket.turns, earlier.component = turn.component ∧ earlier.ran = turn.ran ∧
        ∀ call ∈ turn.calls, call ∈ earlier.calls ∨ call.component = turn.component :=
    fun there => ⟨turn, there, rfl, rfl, fun call called => Or.inl called⟩
  have noted : ∀ call : Call, turn ∈ (docket.noteCall call).turns →
      ∃ earlier ∈ docket.turns, earlier.component = turn.component ∧ earlier.ran = turn.ran ∧
        ∀ call ∈ turn.calls, call ∈ earlier.calls ∨ call.component = turn.component := by
    intro call there
    rcases docket.noteCall_cases call with ⟨latest, turns, place, its, noted⟩ | stray
    · rw [noted] at there
      rcases List.mem_cons.mp there with rfl | there
      · refine ⟨latest, place ▸ List.mem_cons_self, rfl, rfl, fun other called => ?_⟩
        rcases List.mem_append.mp called with called | same
        · exact Or.inl called
        · rw [List.mem_singleton.mp same]
          exact Or.inr its.symm
      · exact stays (place ▸ List.mem_cons_of_mem _ there)
    · rw [stray] at there
      exact stays there
  obtain ⟨request, answer, meanwhile, instant⟩ := exchange
  cases request with
  | isRunning component =>
    obtain ⟨entered, turns, strays⟩ := docket
    cases entered with
    | nil => exact Or.inl (stays there)
    | cons name entered =>
      rcases List.mem_cons.mp there with rfl | there
      · exact Or.inr ⟨rfl, rfl, meanwhile, instant, rfl⟩
      · exact Or.inl (stays there)
  | isAutoStartup component =>
    obtain ⟨entered, turns, strays⟩ := docket
    cases turns with
    | nil => exact absurd there List.not_mem_nil
    | cons latest turns =>
      rcases List.mem_cons.mp there with rfl | there
      · exact Or.inl ⟨latest, List.mem_cons_self, rfl, rfl, fun call called => Or.inl called⟩
      · exact Or.inl (stays (List.mem_cons_of_mem _ there))
  | start component => exact Or.inl (noted _ there)
  | stop component => exact Or.inl (noted _ there)
  | stopAsync component signal => exact Or.inl (noted _ there)
  | _ => exact Or.inl (stays there)

/-- Calls are noted in turns of their own components. -/
theorem component_of_mem_turnsIn {record : List Exchange} {turn : Turn} {call : Call}
    (there : turn ∈ turnsIn record) (called : call ∈ turn.calls) :
    call.component = turn.component := by
  rw [turnsIn, List.mem_reverse] at there
  induction record using List.reverseRecOn generalizing turn with
  | nil => exact absurd there List.not_mem_nil
  | append_singleton record exchange inductionHypothesis =>
    rw [Docket.readAll_append] at there
    rcases Docket.mem_turns_read there with ⟨earlier, earlierThere, component, -, calls⟩ |
      ⟨-, calls, -⟩
    · rcases calls call called with called | own
      · rw [inductionHypothesis earlierThere called, component]
      · exact own
    · rw [calls] at called
      exact absurd called List.not_mem_nil

/-- Where every turn has one call, and it is of a kind, the calls of the kind are in the order of the
turns. -/
theorem components_callsIn {record : List Exchange} {kind : Call → Bool}
    (strays : (({} : Docket).readAll record).strays = [])
    (single : ∀ turn ∈ turnsIn record, ∃ call, turn.calls = [call] ∧ kind call = true) :
    ((callsIn record).filter kind).map Call.component = (turnsIn record).map (·.component) := by
  rw [← flatMap_calls_turnsIn strays, List.filter_flatMap, List.map_flatMap, List.map_eq_flatMap]
  refine List.flatMap_congr fun turn there => ?_
  obtain ⟨call, calls, its⟩ := single turn there
  have own := component_of_mem_turnsIn there (calls ▸ List.mem_singleton.mpr rfl)
  rw [calls, List.filter_cons_of_pos its, List.filter_nil, List.map_singleton, own]

/-- Where no component has two turns, the calls to a component are those of its turn. -/
theorem filter_callsIn {record : List Exchange}
    (strays : (({} : Docket).readAll record).strays = [])
    (once : ((turnsIn record).map (·.component)).Nodup) {turn : Turn} (there : turn ∈ turnsIn record) :
    (callsIn record).filter (·.component = turn.component) = turn.calls := by
  have foreign : ∀ turns : List Turn, (∀ other ∈ turns, other ∈ turnsIn record) →
      turn.component ∉ turns.map (·.component) →
        (turns.flatMap (·.calls)).filter (·.component = turn.component) = [] := by
    intro turns inside absent
    refine List.filter_eq_nil_iff.mpr fun call called same => ?_
    obtain ⟨other, inTurns, inCalls⟩ := List.mem_flatMap.mp called
    have same : call.component = turn.component := of_decide_eq_true same
    rw [component_of_mem_turnsIn (inside other inTurns) inCalls] at same
    exact absent (same ▸ List.mem_map_of_mem inTurns)
  have itsOwn : turn.calls.filter (·.component = turn.component) = turn.calls :=
    List.filter_eq_self.mpr fun call called => decide_eq_true (component_of_mem_turnsIn there called)
  rw [← flatMap_calls_turnsIn strays]
  obtain ⟨front, back, place⟩ := List.append_of_mem there
  rw [place] at once foreign ⊢
  rw [List.map_append, List.map_cons, List.nodup_middle, List.nodup_cons, List.mem_append,
    not_or] at once
  rw [List.flatMap_append, List.flatMap_cons, List.filter_append, List.filter_append, itsOwn,
    foreign front (fun other inside => List.mem_append_left _ inside) once.1.1,
    foreign back (fun other inside => List.mem_append_right _ (List.mem_cons_of_mem _ inside))
      once.1.2, List.nil_append, List.append_nil]

/-! ### Components that change only when they are called -/

/-- A component that was not called yet runs if it ran at first, and only then. -/
def KeepsState (running : Component → Bool) (record : List Exchange) : Prop :=
  ∀ before component ran meanwhile instant after,
    record = before ++ ⟨.isRunning component, ran, meanwhile, instant⟩ :: after →
      component ∉ (callsIn before).map Call.component → ran = running component

/-- Where no component has two turns and none changes before it is called, each is found in its turn
as it was at first. -/
theorem KeepsState.ran_of_mem {running : Component → Bool} {record : List Exchange}
    (keeps : KeepsState running record) (strays : (Docket.readAll {} record).strays = [])
    (once : ((turnsIn record).map (·.component)).Nodup) :
    ∀ turn ∈ turnsIn record, turn.ran = running turn.component := by
  have all : ∀ before after, record = before ++ after →
      ∀ turn ∈ (Docket.readAll {} before).turns, turn.ran = running turn.component := by
    intro before
    induction before using List.reverseRecOn with
    | nil => exact fun after _ turn there => absurd there List.not_mem_nil
    | append_singleton before exchange inductionHypothesis =>
      intro after place turn there
      have earlier := inductionHypothesis ([exchange] ++ after)
        (by rw [place, List.append_assoc])
      have read : Docket.readAll {} (before ++ [exchange]) =
          (Docket.readAll {} before).read exchange := Docket.readAll_append _ _ _
      have later := Docket.precedes_readAll (Docket.readAll {} (before ++ [exchange])) after
      rw [← Docket.readAll_append, ← place] at later
      have straight : (Docket.readAll {} before).strays = [] :=
        strays_of_append (by rwa [← List.append_assoc, ← place])
      have distinct : ((Docket.readAll {} (before ++ [exchange])).turns.map (·.component)).Nodup := by
        have components := later.members.map Member.component
        rw [List.map_map, List.map_map] at components
        have reversed := once
        rw [turnsIn, List.map_reverse, List.nodup_reverse] at reversed
        exact reversed.sublist components.sublist
      rw [read] at there distinct
      rcases Docket.mem_turns_read there with ⟨old, oldThere, component, ran, -⟩ |
        ⟨latest, -, meanwhile, instant, rfl⟩
      · rw [← ran, ← component]
        exact earlier old oldThere
      · refine keeps before turn.component turn.ran meanwhile instant after
          (by rw [place, List.append_assoc]; rfl) fun called => ?_
        rw [latest, List.map_cons, List.nodup_cons] at distinct
        obtain ⟨call, inRecord, same⟩ := List.mem_map.mp called
        rw [← flatMap_calls_turnsIn straight] at inRecord
        obtain ⟨other, otherThere, inTurn⟩ := List.mem_flatMap.mp inRecord
        rw [component_of_mem_turnsIn otherThere inTurn] at same
        exact distinct.1 (same ▸ List.mem_map_of_mem (List.mem_reverse.mp otherThere))
  intro turn there
  exact all record [] (List.append_nil _).symm turn (List.mem_reverse.mp there)

end PhasedLifecycle
