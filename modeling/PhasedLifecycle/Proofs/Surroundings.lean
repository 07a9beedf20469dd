/-
This file says how signals and time behave around a pass. A signal is open from the beginning of the
call that hands it out until it is resolved, once, by whoever holds it; the news of it goes to the
barrier of the signal, which hears its news in the order of the resolutions. The clock never goes
back, and stands still between the end of a traversal and the wait.

When a component answers, how long its calls take, which signals are resolved, how and when, is all
left open: a record is followed by surroundings if what it says about signals and instants is
possible. Two laws of conservation, `following_mail` and `following_open`, say what became of the
signals that a barrier gave out.

Two things take two steps where signals are resolved on other threads, and one instant here. A resolution
takes the name off the list of open ones and sends the news (`Surroundings.resolve`); a wait that expires
finds no news and reads the names that are still open (`Surroundings.Allows`). What other threads do between
such steps is not modelled; a resolution falls in front of an answer or after it.
-/

import PhasedLifecycle.Proofs.Record

namespace PhasedLifecycle

/-! ### Surroundings -/

/-- What is around a pass: the time, the open signals, and the resolutions that no barrier heard of
yet, in their order. -/
structure Surroundings where
  clock : Nat := 0
  unresolved : List Signal := []
  mail : List Resolution := []
  deriving DecidableEq

namespace Surroundings

/-- The resolutions that a barrier did not hear of yet. -/
def mailFor (surroundings : Surroundings) (barrier : Nat) : List Resolution :=
  surroundings.mail.filter (·.signal.barrier = barrier)

/-- The names under which a barrier's open signals were given out. -/
def openFor (surroundings : Surroundings) (barrier : Nat) : List String :=
  (surroundings.unresolved.filter (·.barrier = barrier)).map (·.name)

/-- A call that hands out a signal opens it. -/
def give (surroundings : Surroundings) : Request → Surroundings
  | .stopAsync _ signal => { surroundings with unresolved := surroundings.unresolved ++ [signal] }
  | _ => surroundings

/-- A resolution closes its signal and is news. -/
def resolve (surroundings : Surroundings) (resolution : Resolution) : Surroundings where
  clock := resolution.instant
  unresolved := surroundings.unresolved.erase resolution.signal
  mail := surroundings.mail ++ [resolution]

/-- The resolutions are possible one after the other: each is of an open signal, and none is earlier
than the one before it. -/
def Undergoes (surroundings : Surroundings) : List Resolution → Prop
  | [] => True
  | resolution :: resolutions =>
    resolution.signal ∈ surroundings.unresolved ∧ surroundings.clock ≤ resolution.instant ∧
      (surroundings.resolve resolution).Undergoes resolutions

/-- The surroundings at the moment of an answer, before it is heard. -/
def meanwhile (surroundings : Surroundings) (exchange : Exchange) : Surroundings :=
  exchange.meanwhile.foldl resolve (surroundings.give exchange.request)

/-- The answer agrees with the surroundings at the time of the question and at the time of the
answer. A mark is fresh, a barrier hears all its news or waits for the next piece, and it takes no
time to tell the time. -/
def Allows (asked answered : Surroundings) : Exchange → Prop
  | ⟨.barrierMark, mark, _, _⟩ => answered.openFor mark = [] ∧ answered.mailFor mark = []
  | ⟨.arrivals barrier, arrivals, _, _⟩ =>
    arrivals = (answered.mailFor barrier).map Resolution.arrival
  | ⟨.now, now, resolved, instant⟩ => resolved = [] ∧ now = asked.clock ∧ instant = asked.clock
  | ⟨.nextArrival barrier deadline, some arrival, _, instant⟩ =>
    ∃ resolution later, answered.mailFor barrier = resolution :: later ∧
      arrival = resolution.arrival ∧ instant = max asked.clock resolution.instant ∧
      resolution.instant ≤ max asked.clock deadline
  | ⟨.nextArrival barrier deadline, none, _, instant⟩ =>
    answered.mailFor barrier = [] ∧ instant = max asked.clock deadline
  | _ => True

/-- What a barrier heard in an answer is no longer news. -/
def hear (surroundings : Surroundings) : Exchange → List Resolution
  | ⟨.arrivals barrier, _, _, _⟩ => surroundings.mail.filter (·.signal.barrier ≠ barrier)
  | ⟨.nextArrival barrier _, some _, _, _⟩ =>
    surroundings.mail.eraseP (·.signal.barrier = barrier)
  | _ => surroundings.mail

/-- The surroundings after an exchange. -/
def after (surroundings : Surroundings) (exchange : Exchange) : Surroundings :=
  { surroundings.meanwhile exchange with
    clock := exchange.instant
    mail := (surroundings.meanwhile exchange).hear exchange }

/-- The surroundings after a record. -/
def afterAll (surroundings : Surroundings) (record : List Exchange) : Surroundings :=
  record.foldl after surroundings

/-- The record is possible in the surroundings. -/
def Follows (surroundings : Surroundings) : List Exchange → Prop
  | [] => True
  | exchange :: record =>
    (surroundings.give exchange.request).Undergoes exchange.meanwhile ∧
      (surroundings.meanwhile exchange).clock ≤ exchange.instant ∧
      surroundings.Allows (surroundings.meanwhile exchange) exchange ∧
      (surroundings.after exchange).Follows record

variable {surroundings : Surroundings} {first last record : List Exchange}

theorem afterAll_append :
    surroundings.afterAll (first ++ last) = (surroundings.afterAll first).afterAll last :=
  List.foldl_append

theorem follows_append :
    surroundings.Follows (first ++ last) ↔
      surroundings.Follows first ∧ (surroundings.afterAll first).Follows last := by
  induction first generalizing surroundings with
  | nil => exact (and_iff_right trivial).symm
  | cons exchange first inductionHypothesis =>
    rw [List.cons_append, Follows, Follows, inductionHypothesis]
    simp only [and_assoc]
    rfl

end Surroundings

/-! ### What happens to the signals of one barrier -/

/-- The names under which an exchange gives out signals of a barrier. -/
def Exchange.issued (barrier : Nat) : Exchange → List String
  | ⟨.stopAsync _ signal, _, _, _⟩ => if signal.barrier = barrier then [signal.name] else []
  | _ => []

/-- The resolutions of a barrier's signals that happened before an answer. -/
def Exchange.resolved (barrier : Nat) (exchange : Exchange) : List Resolution :=
  exchange.meanwhile.filter (·.signal.barrier = barrier)

/-- What a barrier hears in an answer. -/
def Exchange.heard (barrier : Nat) : Exchange → List Arrival
  | ⟨.arrivals asking, arrivals, _, _⟩ => if asking = barrier then arrivals else []
  | ⟨.nextArrival asking _, some arrival, _, _⟩ => if asking = barrier then [arrival] else []
  | _ => []

/-- The names under which a barrier's signals are given out in a record, in order. -/
def issuedIn (barrier : Nat) (record : List Exchange) : List String :=
  record.flatMap (·.issued barrier)

/-- The resolutions of a barrier's signals in a record, in order. -/
def resolvedIn (barrier : Nat) (record : List Exchange) : List Resolution :=
  record.flatMap (·.resolved barrier)

/-- What a barrier hears in a record, in order. -/
def heardIn (barrier : Nat) (record : List Exchange) : List Arrival :=
  record.flatMap (·.heard barrier)

theorem issuedIn_append (barrier : Nat) (first last : List Exchange) :
    issuedIn barrier (first ++ last) = issuedIn barrier first ++ issuedIn barrier last :=
  List.flatMap_append

theorem heardIn_append (barrier : Nat) (first last : List Exchange) :
    heardIn barrier (first ++ last) = heardIn barrier first ++ heardIn barrier last :=
  List.flatMap_append

namespace Surroundings

variable {surroundings : Surroundings} {record : List Exchange}

theorem mailFor_meanwhile (barrier : Nat) (exchange : Exchange) :
    (surroundings.meanwhile exchange).mailFor barrier =
      surroundings.mailFor barrier ++ exchange.resolved barrier := by
  have given : (surroundings.give exchange.request).mail = surroundings.mail := by
    cases exchange.request <;> rfl
  have folded : ∀ (resolutions : List Resolution) (start : Surroundings),
      (resolutions.foldl resolve start).mail = start.mail ++ resolutions := by
    intro resolutions
    induction resolutions with
    | nil => intro start; simp
    | cons resolution resolutions inductionHypothesis =>
      intro start
      rw [List.foldl_cons, inductionHypothesis]
      simp [resolve]
  rw [mailFor, meanwhile, folded, given, List.filter_append]
  rfl

/-- Without the first of the marked entries, the rest of the marked entries stays. -/
private theorem filter_eraseP_of_cons {Entry : Type} {marked : Entry → Bool} {head : Entry}
    {entries tail : List Entry} (found : entries.filter marked = head :: tail) :
    (entries.eraseP marked).filter marked = tail := by
  induction entries with
  | nil => cases found
  | cons entry entries inductionHypothesis =>
    cases mark : marked entry with
    | true =>
      rw [List.filter_cons_of_pos mark] at found
      rw [List.eraseP_cons_of_pos mark]
      exact (List.cons.inj found).2
    | false =>
      have unmarked : ¬ marked entry = true := by rw [mark]; exact Bool.false_ne_true
      rw [List.filter_cons_of_neg unmarked] at found
      rw [List.eraseP_cons_of_neg unmarked, List.filter_cons_of_neg unmarked]
      exact inductionHypothesis found

private theorem filter_eraseP_of_disjoint {Entry : Type} {marked erased : Entry → Bool}
    (apart : ∀ entry, erased entry = true → marked entry = false) (entries : List Entry) :
    (entries.eraseP erased).filter marked = entries.filter marked := by
  induction entries with
  | nil => rfl
  | cons entry entries inductionHypothesis =>
    cases mark : erased entry with
    | true =>
      rw [List.eraseP_cons_of_pos mark, List.filter_cons_of_neg]
      rw [apart entry mark]
      exact Bool.false_ne_true
    | false =>
      rw [List.eraseP_cons_of_neg (by rw [mark]; exact Bool.false_ne_true), List.filter_cons,
        List.filter_cons, inductionHypothesis]

/-- What a barrier hears comes off the front of its news. -/
theorem heard_append_mailFor_after (barrier : Nat) {exchange : Exchange}
    (allowed : surroundings.Allows (surroundings.meanwhile exchange) exchange) :
    exchange.heard barrier ++ ((surroundings.after exchange).mailFor barrier).map
        Resolution.arrival =
      ((surroundings.meanwhile exchange).mailFor barrier).map Resolution.arrival := by
  obtain ⟨request, answer, resolutions, instant⟩ := exchange
  cases request with
  | arrivals asking =>
    by_cases same : asking = barrier
    · subst same
      have emptied : (surroundings.after ⟨.arrivals asking, answer, resolutions, instant⟩).mailFor
          asking = [] := by
        simp [mailFor, after, hear, List.filter_filter]
      rw [emptied, Exchange.heard, if_pos rfl, List.map_nil, List.append_nil]
      exact allowed
    · have kept : (surroundings.after ⟨.arrivals asking, answer, resolutions, instant⟩).mailFor
          barrier = (surroundings.meanwhile ⟨.arrivals asking, answer, resolutions, instant⟩).mailFor
            barrier := by
        simp only [mailFor, after, hear, List.filter_filter]
        refine List.filter_congr fun resolution _ => ?_
        by_cases its : resolution.signal.barrier = barrier
        · simp [its, Ne.symm same]
        · simp [its]
      rw [kept, Exchange.heard, if_neg same, List.nil_append]
  | nextArrival asking deadline =>
    cases answer with
    | none => rfl
    | some arrival =>
      obtain ⟨resolution, later, news, rfl, -, -⟩ := allowed
      by_cases same : asking = barrier
      · subst same
        have rest : (surroundings.after ⟨.nextArrival asking deadline, some resolution.arrival,
            resolutions, instant⟩).mailFor asking = later := filter_eraseP_of_cons news
        rw [rest, news, Exchange.heard, if_pos rfl]
        rfl
      · have kept : (surroundings.after ⟨.nextArrival asking deadline, some resolution.arrival,
            resolutions, instant⟩).mailFor barrier = (surroundings.meanwhile
              ⟨.nextArrival asking deadline, some resolution.arrival, resolutions,
                instant⟩).mailFor barrier := by
          refine filter_eraseP_of_disjoint (fun other its => ?_) _
          have its : other.signal.barrier = asking := of_decide_eq_true its
          exact decide_eq_false (by rw [its]; exact same)
        rw [kept, Exchange.heard, if_neg same, List.nil_append]
  | _ => rfl

theorem resolved_names_append_openFor (barrier : Nat) {resolutions : List Resolution}
    (possible : surroundings.Undergoes resolutions) :
    (surroundings.openFor barrier).Perm
      ((resolutions.filter (·.signal.barrier = barrier)).map (·.signal.name) ++
        (resolutions.foldl resolve surroundings).openFor barrier) := by
  induction resolutions generalizing surroundings with
  | nil => exact List.Perm.refl _
  | cons resolution resolutions inductionHypothesis =>
    obtain ⟨isOpen, -, rest⟩ := possible
    have closed := ((List.perm_cons_erase isOpen).filter
      (fun signal => decide (signal.barrier = barrier))).map (·.name)
    have later := inductionHypothesis rest
    by_cases its : resolution.signal.barrier = barrier
    · rw [List.filter_cons_of_pos (by simpa using its)] at closed ⊢
      exact closed.trans (later.cons _)
    · rw [List.filter_cons_of_neg (by simpa using its)] at closed ⊢
      exact closed.trans later

theorem openFor_give (barrier : Nat) (exchange : Exchange) :
    (surroundings.give exchange.request).openFor barrier =
      surroundings.openFor barrier ++ exchange.issued barrier := by
  obtain ⟨request, answer, resolutions, instant⟩ := exchange
  cases request with
  | stopAsync component signal =>
    by_cases its : signal.barrier = barrier
    · simp [give, openFor, Exchange.issued, its]
    · simp [give, openFor, Exchange.issued, its]
  | nextArrival asking deadline => cases answer <;> exact (List.append_nil _).symm
  | _ => exact (List.append_nil _).symm

/-- What a barrier hears in a record are its resolutions, in order; the others are still news. -/
theorem following_mail (barrier : Nat) (follows : surroundings.Follows record) :
    (surroundings.mailFor barrier ++ resolvedIn barrier record).map Resolution.arrival =
      heardIn barrier record ++
        ((surroundings.afterAll record).mailFor barrier).map Resolution.arrival := by
  induction record generalizing surroundings with
  | nil => simp [resolvedIn, heardIn, afterAll]
  | cons exchange record inductionHypothesis =>
    obtain ⟨-, -, allowed, rest⟩ := follows
    have first := heard_append_mailFor_after barrier allowed
    rw [mailFor_meanwhile] at first
    have later := inductionHypothesis rest
    rw [resolvedIn, List.flatMap_cons, ← List.append_assoc, List.map_append, ← first, heardIn,
      List.flatMap_cons, List.append_assoc, List.append_assoc, ← List.map_append]
    exact congrArg _ later

/-- Every signal that a barrier gave out in a record is resolved once or still open. -/
theorem following_open (barrier : Nat) (follows : surroundings.Follows record) :
    (surroundings.openFor barrier ++ issuedIn barrier record).Perm
      ((resolvedIn barrier record).map (·.signal.name) ++
        (surroundings.afterAll record).openFor barrier) := by
  induction record generalizing surroundings with
  | nil => simp [resolvedIn, issuedIn, afterAll]
  | cons exchange record inductionHypothesis =>
    obtain ⟨possible, -, -, rest⟩ := follows
    have first := resolved_names_append_openFor barrier possible
    rw [openFor_give] at first
    have later := inductionHypothesis rest
    rw [issuedIn, List.flatMap_cons, resolvedIn, List.flatMap_cons, List.map_append,
      List.append_assoc, ← List.append_assoc (surroundings.openFor barrier)]
    refine (first.append_right _).trans ?_
    rw [List.append_assoc]
    exact later.append_left _

/-! ### Time -/

theorem clock_le_of_undergoes {resolutions : List Resolution}
    (possible : surroundings.Undergoes resolutions) :
    surroundings.clock ≤ (resolutions.foldl resolve surroundings).clock ∧
      ∀ resolution ∈ resolutions, surroundings.clock ≤ resolution.instant ∧
        resolution.instant ≤ (resolutions.foldl resolve surroundings).clock := by
  induction resolutions generalizing surroundings with
  | nil => exact ⟨Nat.le_refl _, fun resolution there => absurd there List.not_mem_nil⟩
  | cons first resolutions inductionHypothesis =>
    obtain ⟨-, later, rest⟩ := possible
    obtain ⟨grows, between⟩ := inductionHypothesis rest
    refine ⟨Nat.le_trans later grows, fun resolution there => ?_⟩
    rcases List.mem_cons.mp there with rfl | there
    · exact ⟨later, grows⟩
    · exact ⟨Nat.le_trans later (between resolution there).1, (between resolution there).2⟩

theorem clock_give (request : Request) : (surroundings.give request).clock = surroundings.clock := by
  cases request <;> rfl

/-- Whatever is resolved before an answer is resolved between the answer before and this one. -/
theorem instant_of_follows {exchange : Exchange} (follows : surroundings.Follows (exchange :: record)) :
    surroundings.clock ≤ exchange.instant ∧
      ∀ resolution ∈ exchange.meanwhile, surroundings.clock ≤ resolution.instant ∧
        resolution.instant ≤ exchange.instant := by
  obtain ⟨possible, passes, -, -⟩ := follows
  obtain ⟨grows, between⟩ := clock_le_of_undergoes possible
  rw [clock_give] at grows between
  exact ⟨Nat.le_trans grows passes, fun resolution there =>
    ⟨(between resolution there).1, Nat.le_trans (between resolution there).2 passes⟩⟩

theorem clock_le_afterAll (follows : surroundings.Follows record) :
    surroundings.clock ≤ (surroundings.afterAll record).clock := by
  induction record generalizing surroundings with
  | nil => exact Nat.le_refl _
  | cons exchange record inductionHypothesis =>
    exact Nat.le_trans (instant_of_follows follows).1 (inductionHypothesis follows.2.2.2)

theorem instant_le_afterAll (barrier : Nat) (follows : surroundings.Follows record) :
    ∀ resolution ∈ resolvedIn barrier record,
      resolution.instant ≤ (surroundings.afterAll record).clock := by
  induction record generalizing surroundings with
  | nil => exact fun resolution there => absurd there List.not_mem_nil
  | cons exchange record inductionHypothesis =>
    intro resolution there
    rcases List.mem_append.mp there with there | there
    · exact Nat.le_trans ((instant_of_follows follows).2 resolution (List.mem_filter.mp there).1).2
        (clock_le_afterAll follows.2.2.2)
    · exact inductionHypothesis follows.2.2.2 resolution there

/-- The news of a barrier is of the past. -/
def Punctual (barrier : Nat) (surroundings : Surroundings) : Prop :=
  ∀ resolution ∈ surroundings.mailFor barrier, resolution.instant ≤ surroundings.clock

theorem mailFor_after_subset (barrier : Nat) (exchange : Exchange) :
    (surroundings.after exchange).mailFor barrier ⊆
      surroundings.mailFor barrier ++ exchange.resolved barrier := by
  rw [← mailFor_meanwhile]
  have heard : ((surroundings.meanwhile exchange).hear exchange).Sublist
      (surroundings.meanwhile exchange).mail := by
    obtain ⟨request, answer, resolutions, instant⟩ := exchange
    cases request with
    | arrivals asking => exact List.filter_sublist
    | nextArrival asking deadline =>
      cases answer with
      | none => exact List.Sublist.refl _
      | some arrival => exact List.eraseP_sublist
    | _ => exact List.Sublist.refl _
  exact (heard.filter _).subset

theorem Punctual.after {barrier : Nat} {exchange : Exchange} (punctual : surroundings.Punctual barrier)
    (follows : surroundings.Follows (exchange :: record)) :
    (surroundings.after exchange).Punctual barrier := by
  obtain ⟨passes, between⟩ := instant_of_follows follows
  intro resolution there
  rcases List.mem_append.mp (mailFor_after_subset barrier exchange there) with news | fresh
  · exact Nat.le_trans (punctual resolution news) passes
  · exact (between resolution (List.mem_filter.mp fresh).1).2

theorem Punctual.afterAll {barrier : Nat} (punctual : surroundings.Punctual barrier)
    (follows : surroundings.Follows record) : (surroundings.afterAll record).Punctual barrier := by
  induction record generalizing surroundings with
  | nil => exact punctual
  | cons exchange record inductionHypothesis =>
    exact inductionHypothesis (punctual.after follows) follows.2.2.2

end Surroundings

end PhasedLifecycle
