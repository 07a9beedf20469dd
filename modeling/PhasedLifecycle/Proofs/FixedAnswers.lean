/-
This file says what is left of a pass once it is known what its surroundings answer in one way
throughout: what depends on what, which phases components have, and which of them start by themselves.
Such questions can be settled beforehand, and what is left asks only whether components run, and calls
them. A pass yields a value along a record that agrees with the fixed answers just as what is left of
it does along the rest of the record, so what calls a pass makes can be read off what is left of it.
-/

import PhasedLifecycle.Proofs.Calls

namespace PhasedLifecycle

/-! ### Fixed answers -/

/-- What a registry and its components answer in one way throughout. -/
structure FixedAnswers where
  dependencies : String → List String
  dependents : String → List String
  phase : Component → Int
  auto : Component → Bool

/-- The answer to a question, if it is fixed. A notice is answered in one way anyway. -/
def FixedAnswers.answer? (fixed : FixedAnswers) : (request : Request) → Option request.Answer
  | .dependencies name => some (fixed.dependencies name)
  | .dependents name => some (fixed.dependents name)
  | .phase component => some (fixed.phase component)
  | .isAutoStartup component => some (fixed.auto component)
  | .note _ => some ()
  | _ => none

/-- The question is answered as it always is. -/
def Exchange.Agrees (fixed : FixedAnswers) (exchange : Exchange) : Prop :=
  ∀ answer, fixed.answer? exchange.request = some answer → exchange.answer = answer

/-- The part of a record whose answers are not fixed. -/
def FixedAnswers.rest (fixed : FixedAnswers) (record : List Exchange) : List Exchange :=
  record.filter fun exchange => (fixed.answer? exchange.request).isNone

/-- Calls are no questions with fixed answers. -/
theorem FixedAnswers.callsIn_rest (fixed : FixedAnswers) (record : List Exchange) :
    callsIn (fixed.rest record) = callsIn record := by
  rw [callsIn, rest, List.filterMap_filter, callsIn]
  refine List.filterMap_congr fun exchange _ => ?_
  obtain ⟨request, answer, meanwhile, instant⟩ := exchange
  cases request <;> rfl

/-! ### What is left of a pass -/

namespace Pass

variable {First Second Value : Type} (fixed : FixedAnswers)

/-- The pass with its questions settled whose answers are fixed. -/
def settle : Pass Value → Pass Value
  | .done value => .done value
  | .asking request next =>
    match fixed.answer? request with
    | some answer => (next answer).settle
    | none => .asking request fun answer => (next answer).settle

theorem settle_pure (value : Value) : (pure value : Pass Value).settle fixed = pure value := rfl

theorem settle_ask_bind {request : Request} {answer : request.Answer}
    (known : fixed.answer? request = some answer) (next : request.Answer → Pass Value) :
    (ask request >>= next).settle fixed = (next answer).settle fixed := by
  show (Pass.asking request next).settle fixed = _
  rw [settle, known]

theorem settle_unknown_bind {request : Request} (unknown : fixed.answer? request = none)
    (next : request.Answer → Pass Value) :
    (ask request >>= next).settle fixed = ask request >>= fun answer => (next answer).settle fixed := by
  show (Pass.asking request next).settle fixed = _
  rw [settle, unknown]
  rfl

theorem settle_note (notice : Notice) : (note notice).settle fixed = pure () := rfl

theorem settle_note_bind (notice : Notice) (next : Unit → Pass Value) :
    (note notice >>= next).settle fixed = (next ()).settle fixed := rfl

/-- Of two programs in a row, what is left of the first comes before what is left of the second. -/
theorem settle_bind (pass : Pass First) (next : First → Pass Second) :
    (pass >>= next).settle fixed = pass.settle fixed >>= fun value => (next value).settle fixed := by
  induction pass with
  | done value => rfl
  | asking request rest inductionHypothesis =>
    rw [bind_asking, settle, settle]
    cases fixed.answer? request with
    | some answer => exact inductionHypothesis answer
    | none => exact congrArg (asking request) (funext inductionHypothesis)

/-- Along a record that agrees with the fixed answers, what is left of a pass yields the same value with
the rest of the record. -/
theorem Yields.settle {pass : Pass Value} {record : List Exchange} {result : Value}
    (yields : pass.Yields record result) (agrees : ∀ exchange ∈ record, exchange.Agrees fixed) :
    (pass.settle fixed).Yields (fixed.rest record) result := by
  induction pass generalizing record with
  | done value =>
    obtain ⟨rfl, rfl⟩ := yields
    exact ⟨rfl, rfl⟩
  | asking request next inductionHypothesis =>
    obtain ⟨answer, meanwhile, instant, tail, rfl, goesOn⟩ := yields
    have later := inductionHypothesis answer goesOn
      fun exchange there => agrees exchange (List.mem_cons_of_mem _ there)
    rw [Pass.settle, FixedAnswers.rest, List.filter_cons]
    cases known : fixed.answer? request with
    | some expected =>
      obtain rfl : answer = expected := agrees _ List.mem_cons_self expected known
      exact later
    | none => exact ⟨answer, meanwhile, instant, _, rfl, later⟩

end Pass

end PhasedLifecycle
