/-
This file reads and writes settings as JSON documents. A field that a document leaves out has its
default.
-/

import PhasedLifecycle.Json.Fields
import PhasedLifecycle.Json.Reader
import PhasedLifecycle.Settings

namespace PhasedLifecycle.Settings

/-- The settings as a document. -/
def toJson (settings : Settings) : Json :=
  Json.ofEntries [("timeout_per_shutdown_phase_ms", .whole settings.timeout)]

/-- The settings that a document describes. -/
def ofJson? (json : Json) : Option Settings := do
  match ← json.fields? ["timeout_per_shutdown_phase_ms"] true with
  | [some timeout] => return { timeout := (← timeout.whole? word64).toNat }
  | _ => return {}

/-- The settings that a text describes. -/
def read? (text : String) : Option Settings :=
  (Json.read? text).bind ofJson?

end PhasedLifecycle.Settings
