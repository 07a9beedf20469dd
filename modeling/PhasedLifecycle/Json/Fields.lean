/-
This file reads records out of JSON documents. A record is written as an object, in which other
keys are passed over and none of its own may be repeated, or as an array of its fields in their
order.
-/

import PhasedLifecycle.Json

namespace PhasedLifecycle.Json

/-- The value of one key of an object, where it is not repeated. -/
def field? (entries : List (Option String × Json)) (name : String) : Option (Option Json) :=
  match entries.filter (·.1 == some name) with
  | [] => some none
  | [(_, value)] => some (some value)
  | _ => none

/-- The fields of a record, absent where an object does not have them. An array must have them all,
unless the record has a default for those at its end. -/
def fields? (names : List String) (hasDefaults : Bool) : Json → Option (List (Option Json))
  | .object entries => if entries.all (·.1.isSome) then names.mapM (field? entries) else none
  | .array items =>
    if items.length = names.length || (hasDefaults && items.length ≤ names.length) then
      some (items.map some ++ List.replicate (names.length - items.length) none)
    else none
  | _ => none

/-- A list of values that are each read. -/
def list? {Value : Type} (read? : Json → Option Value) (json : Json) : Option (List Value) :=
  json.items?.bind fun items => items.mapM read?

/-- A value that may be absent or null. -/
def optional? {Value : Type} (read? : Json → Option Value) : Option Json → Option (Option Value)
  | none => some none
  | some .null => some none
  | some json => (read? json).map some

end PhasedLifecycle.Json
