/-
This file says what happens when a pass is run, whoever answers its questions. A record lists the
questions a pass asked with the answers it got, in order; a pass yields a value along a record if
asking those questions and getting those answers ends with the value. Nothing is assumed of the
answers, so a fact about all records of a pass is a fact about all registries, all components and
all clocks.

The facts are the ones that take a record apart along its program: a program made of two parts
yields along a record made of two parts, and a loop along a record with a part for each round.
-/

import PhasedLifecycle.Pass.Start
import PhasedLifecycle.Pass.Stop

namespace PhasedLifecycle

/-! ### Records -/

/-- One question of a pass with its answer. What else there is to know about the moment goes with
it: the signals of the pass that were resolved since the answer before, and the instant of the
answer. -/
structure Exchange where
  request : Request
  answer : request.Answer
  meanwhile : List Resolution := []
  instant : Nat := 0

namespace Pass

variable {First Second Value : Type}

/-- Asking the questions of a record and getting its answers, the pass ends with a value. -/
def Yields : Pass Value → List Exchange → Value → Prop
  | .done value, record, result => record = [] ∧ result = value
  | .asking request next, record, result =>
    ∃ answer meanwhile instant rest,
      record = { request, answer, meanwhile, instant } :: rest ∧ (next answer).Yields rest result

/-- The record of a run in surroundings that answer each question and may change as they do. What
goes with an answer is read off the surroundings after it. -/
def recordOf {State : Type} (answer : (request : Request) → State → request.Answer × State)
    (meanwhile : State → List Resolution) (instant : State → Nat) :
    Pass Value → State → List Exchange
  | .done _, _ => []
  | .asking request next, state =>
    let (reply, state) := answer request state
    { request, answer := reply, meanwhile := meanwhile state, instant := instant state } ::
      (next reply).recordOf answer meanwhile instant state

/-- A run yields its value along its record. -/
theorem yields_recordOf {State : Type}
    (answer : (request : Request) → State → request.Answer × State)
    (meanwhile : State → List Resolution) (instant : State → Nat) (pass : Pass Value)
    (state : State) :
    pass.Yields (pass.recordOf answer meanwhile instant state) (pass.run answer state).1 := by
  induction pass generalizing state with
  | done value => exact ⟨rfl, rfl⟩
  | asking request next inductionHypothesis =>
    exact ⟨_, _, _, _, rfl, inductionHypothesis _ _⟩

/-- What holds of every answer of the surroundings holds of every exchange of a run in them. -/
theorem forall_recordOf {State : Type}
    {answer : (request : Request) → State → request.Answer × State}
    {meanwhile : State → List Resolution} {instant : State → Nat} {holds : Exchange → Prop}
    (each : ∀ request state, holds ⟨request, (answer request state).1,
      meanwhile (answer request state).2, instant (answer request state).2⟩)
    (pass : Pass Value) (state : State) :
    ∀ exchange ∈ pass.recordOf answer meanwhile instant state, holds exchange := by
  induction pass generalizing state with
  | done value => exact fun exchange there => absurd there List.not_mem_nil
  | asking request next inductionHypothesis =>
    intro exchange there
    rcases List.mem_cons.mp there with rfl | there
    · exact each request state
    · exact inductionHypothesis _ _ exchange there

/-! ### Records of composed programs -/

theorem yields_ask {request : Request} {record : List Exchange} {result : request.Answer} :
    (ask request).Yields record result ↔
      ∃ meanwhile instant, record = [{ request, answer := result, meanwhile, instant }] := by
  constructor
  · rintro ⟨answer, meanwhile, instant, rest, rfl, rfl, rfl⟩
    exact ⟨meanwhile, instant, rfl⟩
  · rintro ⟨meanwhile, instant, rfl⟩
    exact ⟨result, meanwhile, instant, [], rfl, rfl, rfl⟩

/-- A program in two parts yields along a record in two parts. -/
theorem yields_bind {pass : Pass First} {next : First → Pass Second} {record : List Exchange}
    {result : Second} :
    (pass >>= next).Yields record result ↔
      ∃ first middle last, pass.Yields first middle ∧ (next middle).Yields last result ∧
        record = first ++ last := by
  induction pass generalizing record with
  | done value =>
    constructor
    · intro yields
      exact ⟨[], value, record, ⟨rfl, rfl⟩, yields, rfl⟩
    · rintro ⟨first, middle, last, ⟨rfl, rfl⟩, yields, rfl⟩
      exact yields
  | asking request rest inductionHypothesis =>
    constructor
    · rintro ⟨answer, meanwhile, instant, tail, rfl, yields⟩
      obtain ⟨first, middle, last, firstYields, lastYields, rfl⟩ :=
        (inductionHypothesis answer).mp yields
      exact ⟨_ :: first, middle, last, ⟨answer, meanwhile, instant, first, rfl, firstYields⟩,
        lastYields, rfl⟩
    · rintro ⟨_, middle, last, ⟨answer, meanwhile, instant, first, rfl, firstYields⟩, lastYields,
        rfl⟩
      exact ⟨answer, meanwhile, instant, first ++ last, rfl,
        (inductionHypothesis answer).mpr ⟨first, middle, last, firstYields, lastYields, rfl⟩⟩

/-- A program that begins with a question yields along a record that begins with its answer. -/
theorem yields_ask_bind {request : Request} {next : request.Answer → Pass Value}
    {record : List Exchange} {result : Value} :
    (ask request >>= next).Yields record result ↔
      ∃ answer meanwhile instant rest,
        record = { request, answer, meanwhile, instant } :: rest ∧
          (next answer).Yields rest result := Iff.rfl

theorem yields_note_bind {notice : Notice} {next : Unit → Pass Value} {record : List Exchange}
    {result : Value} :
    (note notice >>= next).Yields record result ↔
      ∃ meanwhile instant rest,
        record = { request := .note notice, answer := (), meanwhile, instant } :: rest ∧
          (next ()).Yields rest result := by
  constructor
  · rintro ⟨⟨⟩, meanwhile, instant, rest, rfl, yields⟩
    exact ⟨meanwhile, instant, rest, rfl, yields⟩
  · rintro ⟨meanwhile, instant, rest, rfl, yields⟩
    exact ⟨(), meanwhile, instant, rest, rfl, yields⟩

/-- A loop yields along a record with a part for its first round and one for the others. -/
theorem yields_foldlM_cons {Entry State : Type} {step : State → Entry → Pass State} {state : State}
    {entry : Entry} {entries : List Entry} {record : List Exchange} {result : State} :
    ((entry :: entries).foldlM step state).Yields record result ↔
      ∃ first middle last, (step state entry).Yields first middle ∧
        (entries.foldlM step middle).Yields last result ∧ record = first ++ last := by
  rw [List.foldlM_cons, yields_bind]

/-- What holds before a loop, and is kept by each of its rounds, holds after it. -/
theorem foldlM_induction {Entry State : Type} {step : State → Entry → Pass State} {start result : State}
    {entries : List Entry} {record : List Exchange}
    {motive : List Entry → List Exchange → State → Prop} (begins : motive [] [] start)
    (goesOn : ∀ done entry before state round next, motive done before state →
      (step state entry).Yields round next → motive (done ++ [entry]) (before ++ round) next)
    (yields : (entries.foldlM step start).Yields record result) : motive entries record result := by
  have all : ∀ (entries done : List Entry) (before record : List Exchange) (state : State),
      motive done before state → (entries.foldlM step state).Yields record result →
        motive (done ++ entries) (before ++ record) result := by
    intro entries
    induction entries with
    | nil =>
      rintro done before _ _ holds ⟨rfl, rfl⟩
      rwa [List.append_nil, List.append_nil]
    | cons entry entries inductionHypothesis =>
      intro done before record state holds yields
      obtain ⟨round, next, rest, one, others, rfl⟩ := yields_foldlM_cons.mp yields
      have later := inductionHypothesis _ _ _ _ (goesOn _ _ _ _ _ _ holds one) others
      rwa [List.append_assoc, List.append_assoc, List.singleton_append] at later
  exact all entries [] [] record start begins yields

/-- Programs that go on in the same way from every value that the first part can yield are the same. -/
theorem bind_congr_of_yields {pass : Pass First} {next other : First → Pass Second}
    (same : ∀ record middle, pass.Yields record middle → next middle = other middle) :
    pass >>= next = pass >>= other := by
  induction pass with
  | done value => exact same [] value ⟨rfl, rfl⟩
  | asking request rest inductionHypothesis =>
    refine congrArg (asking request) (funext fun answer => inductionHypothesis answer ?_)
    exact fun record middle yields => same (⟨request, answer, [], 0⟩ :: record) middle
      ⟨answer, [], 0, record, rfl, yields⟩

/-- Loops whose rounds never grow a state are the same if their rounds are, in the states that are small
enough. -/
theorem foldlM_congr_of_shrinks {Entry State : Type} {step other : State → Entry → Pass State}
    (size : State → Nat) {bound : Nat}
    (same : ∀ state entry, size state ≤ bound → step state entry = other state entry)
    (shrinks : ∀ {state entry record result}, (step state entry).Yields record result →
      size result ≤ size state) (entries : List Entry) {state : State} (small : size state ≤ bound) :
    entries.foldlM step state = entries.foldlM other state := by
  induction entries generalizing state with
  | nil => rfl
  | cons entry entries inductionHypothesis =>
    rw [List.foldlM_cons, List.foldlM_cons, ← same state entry small]
    exact bind_congr_of_yields fun record middle yields =>
      inductionHypothesis (Nat.le_trans (shrinks yields) small)

/-! ### What a program can ask -/

/-- Whatever the answers, the pass asks only questions of a kind. -/
def Asks (kind : Request → Prop) : Pass Value → Prop
  | .done _ => True
  | .asking request next => kind request ∧ ∀ answer, (next answer).Asks kind

theorem asks_pure (kind : Request → Prop) (value : Value) : (pure value : Pass Value).Asks kind :=
  trivial

theorem asks_ask {kind : Request → Prop} {request : Request} (allowed : kind request) :
    (ask request).Asks kind :=
  ⟨allowed, fun _ => trivial⟩

theorem asks_bind {kind : Request → Prop} {pass : Pass First} {next : First → Pass Second}
    (first : pass.Asks kind) (second : ∀ middle, (next middle).Asks kind) :
    (pass >>= next).Asks kind := by
  induction pass with
  | done value => exact second value
  | asking request rest inductionHypothesis =>
    exact ⟨first.1, fun answer => inductionHypothesis answer (first.2 answer)⟩

theorem asks_foldlM {kind : Request → Prop} {Entry State : Type}
    {step : State → Entry → Pass State} (each : ∀ state entry, (step state entry).Asks kind)
    (entries : List Entry) (state : State) : (entries.foldlM step state).Asks kind := by
  induction entries generalizing state with
  | nil => exact asks_pure kind state
  | cons entry entries inductionHypothesis =>
    rw [List.foldlM_cons]
    exact asks_bind (each state entry) inductionHypothesis

/-- A record of a pass holds only questions that the pass can ask. -/
theorem Yields.request_of_asks {kind : Request → Prop} {pass : Pass Value}
    {record : List Exchange} {result : Value} (yields : pass.Yields record result)
    (asks : pass.Asks kind) : ∀ exchange ∈ record, kind exchange.request := by
  induction pass generalizing record with
  | done value =>
    obtain ⟨rfl, -⟩ := yields
    exact fun exchange member => absurd member List.not_mem_nil
  | asking request next inductionHypothesis =>
    obtain ⟨answer, meanwhile, instant, rest, rfl, yields⟩ := yields
    intro exchange member
    rcases List.mem_cons.mp member with rfl | member
    · exact asks.1
    · exact inductionHypothesis answer yields (asks.2 answer) exchange member

/-- Where the questions that a pass can ask have one answer each, the pass ends with one value. -/
theorem Yields.unique {kind : Request → Prop} {keeps : Exchange → Prop} {pass : Pass Value}
    {record other : List Exchange} {result value : Value}
    (one : ∀ exchange, kind exchange.request → keeps exchange → ∀ answer meanwhile instant,
      keeps ⟨exchange.request, answer, meanwhile, instant⟩ → answer = exchange.answer)
    (asks : pass.Asks kind)
    (yields : pass.Yields record result) (kept : ∀ exchange ∈ record, keeps exchange)
    (yieldsOther : pass.Yields other value) (keptOther : ∀ exchange ∈ other, keeps exchange) :
    value = result := by
  induction pass generalizing record other with
  | done final => rw [yields.2, yieldsOther.2]
  | asking request next inductionHypothesis =>
    obtain ⟨answer, meanwhile, instant, rest, rfl, goesOn⟩ := yields
    obtain ⟨answerOther, meanwhileOther, instantOther, restOther, rfl, goesOnOther⟩ := yieldsOther
    obtain rfl : answerOther = answer :=
      one ⟨request, answer, meanwhile, instant⟩ asks.1 (kept _ List.mem_cons_self) _ _ _
        (keptOther _ List.mem_cons_self)
    exact inductionHypothesis _ (asks.2 _)
      goesOn (fun exchange there => kept exchange (List.mem_cons_of_mem _ there))
      goesOnOther fun exchange there => keptOther exchange (List.mem_cons_of_mem _ there)

end Pass

end PhasedLifecycle
