/-
This file reads and writes stop reports as JSON documents.
-/

import PhasedLifecycle.Json.Fields
import PhasedLifecycle.Json.Reader
import PhasedLifecycle.Report

namespace PhasedLifecycle

namespace StopFailure

/-- The failure as a document. -/
def toJson (failure : StopFailure) : Json :=
  Json.ofEntries [("name", .text failure.name), ("message", .text failure.reason)]

/-- The failure that a document describes. -/
def ofJson? (json : Json) : Option StopFailure := do
  match ← json.fields? ["name", "message"] false with
  | [some name, some reason] => return { name := ← name.text?, reason := ← reason.text? }
  | _ => none

end StopFailure

namespace PhaseTimeout

/-- The timeout as a document. -/
def toJson (timeout : PhaseTimeout) : Json :=
  Json.ofEntries
    [("phase", .whole timeout.phase), ("timeout_ms", .whole timeout.timeout),
      ("pending", Json.texts timeout.pending)]

/-- The timeout that a document describes. -/
def ofJson? (json : Json) : Option PhaseTimeout := do
  match ← json.fields? ["phase", "timeout_ms", "pending"] false with
  | [some phase, some timeout, some pending] =>
    return {
      phase := ← phase.whole? signed32
      timeout := (← timeout.whole? word64).toNat
      pending := ← pending.list? Json.text? }
  | _ => none

end PhaseTimeout

namespace StopReport

/-- The report as a document. -/
def toJson (report : StopReport) : Json :=
  Json.ofEntries
    [("stopped", Json.texts report.stopped),
      ("failures", .array (report.failures.map (·.toJson))),
      ("timeouts", .array (report.timeouts.map (·.toJson)))]

/-- The report that a document describes. -/
def ofJson? (json : Json) : Option StopReport := do
  match ← json.fields? ["stopped", "failures", "timeouts"] false with
  | [some stopped, some failures, some timeouts] =>
    return {
      stopped := ← stopped.list? Json.text?
      failures := ← failures.list? StopFailure.ofJson?
      timeouts := ← timeouts.list? PhaseTimeout.ofJson? }
  | _ => none

/-- The report that a text describes. -/
def read? (text : String) : Option StopReport :=
  (Json.read? text).bind ofJson?

end StopReport

end PhasedLifecycle
