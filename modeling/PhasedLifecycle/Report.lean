/-
This file holds the report of a stop pass: the components that stopped, the ones whose stop
failed, and the phases that did not end in time, each in the order of its occurrence.
-/

namespace PhasedLifecycle

/-- A component whose stop failed, and why. -/
structure StopFailure where
  name : String
  reason : String
  deriving DecidableEq

/-- A phase that reached its timeout, in milliseconds, with the names still open then. -/
structure PhaseTimeout where
  phase : Int
  timeout : Nat
  pending : List String
  deriving DecidableEq

/-- What became of the components that a stop pass found running. -/
structure StopReport where
  stopped : List String := []
  failures : List StopFailure := []
  timeouts : List PhaseTimeout := []
  deriving DecidableEq

namespace StopReport

/-- Everything stopped, and in time. -/
def isClean (report : StopReport) : Bool :=
  report.failures.isEmpty && report.timeouts.isEmpty

/-- The names still open when their phase reached its timeout. -/
def pending (report : StopReport) : List String :=
  report.timeouts.flatMap (·.pending)

/-- Whether a failure is on record for the name. -/
def hasFailure (report : StopReport) (name : String) : Bool :=
  report.failures.any (·.name == name)

/-- Records that a component stopped. -/
def recordStopped (report : StopReport) (name : String) : StopReport :=
  { report with stopped := report.stopped ++ [name] }

/-- Records that the stop of a component failed. -/
def recordFailure (report : StopReport) (name reason : String) : StopReport :=
  { report with failures := report.failures ++ [{ name, reason }] }

/-- Records that a phase reached its timeout. -/
def recordTimeout (report : StopReport) (timeout : PhaseTimeout) : StopReport :=
  { report with timeouts := report.timeouts ++ [timeout] }

theorem hasFailure_iff (report : StopReport) (name : String) :
    report.hasFailure name = true ↔ ∃ failure ∈ report.failures, failure.name = name := by
  simp [hasFailure]

end StopReport

end PhasedLifecycle
