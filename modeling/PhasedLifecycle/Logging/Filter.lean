/-
This file models the filter of a log. A filter is a list of directives, each of which says from
which severity on the notices of an area are let through; the most specific directive for an area
decides. Directives are written with commas between them, as `warn,registry=trace`.
-/

import PhasedLifecycle.Notice
import PhasedLifecycle.Number.Decimal
import PhasedLifecycle.Text.Blank

namespace PhasedLifecycle.Logging

/-! ### Thresholds -/

/-- The severity from which on notices are let through; absent, none are. -/
abbrev Threshold := Option Severity

/-- Whether a severity reaches a threshold. -/
def reaches (severity : Severity) : Threshold → Bool
  | some threshold => threshold.rank ≤ severity.rank
  | none => false

/-- The severity of a name in any case, or of a number, which counts from one for errors. -/
def severity? (name : String) : Option Severity :=
  match word64.read? name.toList with
  | some number => Severity.all.find? fun severity => number = 5 - severity.rank
  | none => Severity.all.find? (·.label == name.toUpper)

/-- The threshold of a name or number. There is a name and a number for letting nothing through,
and no name at all means errors. -/
def threshold? (name : String) : Option Threshold :=
  if name = "" then some (some .error)
  else if name.toUpper = "OFF" || word64.read? name.toList = some 0 then some none
  else (severity? name).map some

/-! ### Directives -/

/-- A directive: a threshold for the areas that begin with a name, or for all. -/
structure Directive where
  area : Option String
  threshold : Threshold
  deriving DecidableEq

namespace Directive

/-- Whether the directive is about an area. -/
def covers (directive : Directive) (area : String) : Bool :=
  directive.area.all (·.toList.isPrefixOf area.toList)

/-- How specific the directive is. -/
def weight (directive : Directive) : Nat :=
  match directive.area with
  | none => 0
  | some area => area.utf8ByteSize + 1

/-- A character that a directive may begin with, unless it begins with a span. -/
def isOpening (c : Char) : Bool :=
  c.isAlphanum || c == '-' || c == ':' || c == '_' || 0x80 ≤ c.val

/-- The threshold behind an equals sign. Nothing at all lets everything through. -/
def behindEquals? (text : String) : Option Threshold :=
  if text = "" then some (some .trace) else threshold? text

/-- What follows a span, given the text behind its opening bracket: a name, perhaps fields in
braces, and the closing bracket. -/
def behindSpan? (text : List Char) : Option (List Char) :=
  match text.dropWhile fun c => c != ']' && c != '{' with
  | ']' :: rest => some rest
  | '{' :: fields =>
    match fields.takeWhile (· != '}'), fields.dropWhile (· != '}') with
    | _ :: _, '}' :: ']' :: rest => some rest
    | _, _ => none
  | _ => none

/-- Whether the text behind an opening bracket is a span, with a threshold or without. -/
def isSpan (text : List Char) : Bool :=
  match behindSpan? text with
  | some [] => true
  | some ('=' :: level) => (behindEquals? (String.ofList level)).isSome
  | _ => false

/-- Reads one directive. A malformed one is refused. One that is about spans is accepted, but says
nothing about notices, which stand in none. White space around a directive is passed over in
finding its parts, but belongs to the names: a threshold by itself becomes the name of an area,
and one behind an equals sign is not understood. -/
def read? (text : String) : Option (Option Directive) :=
  let isIndented := text.toList.head?.any Text.isBlank
  let characters := (Text.skipBlanks (Text.skipBlanks text.toList).reverse).reverse
  if !characters.head?.any fun c => c == '[' || isOpening c then none
  else
    let isInside (c : Char) : Bool := c != '=' && c != '['
    let name := String.ofList (text.toList.takeWhile isInside)
    match characters.dropWhile isInside, text.toList.dropWhile isInside with
    | '[' :: rest, _ => if isSpan rest then some none else none
    | [], _ =>
      match threshold? name with
      | some threshold => some (some { area := none, threshold })
      | none => some (some { area := some name, threshold := some .trace })
    | _, _ :: level =>
      if isIndented then none
      else (behindEquals? (String.ofList level)).map fun threshold =>
        some { area := some name, threshold }
    | _, [] => none

end Directive

/-! ### Filters -/

/-- A filter. Of directives for the same area, the last counts. -/
structure Filter where
  directives : List Directive
  deriving DecidableEq

namespace Filter

/-- The filter with one threshold for all areas. -/
def ofThreshold (threshold : Threshold) : Filter :=
  { directives := [{ area := none, threshold }] }

/-- The directive that decides about an area. -/
def directiveFor? (filter : Filter) (area : String) : Option Directive :=
  filter.directives.foldl (fun best directive =>
    if directive.covers area && best.all (fun best => best.weight ≤ directive.weight) then
      some directive
    else best) none

/-- Whether a notice is let through. -/
def lets (filter : Filter) (notice : Notice) : Bool :=
  (filter.directiveFor? notice.area).any fun directive =>
    reaches notice.severity directive.threshold

/-- Reads a filter; one malformed directive makes it malformed. Without any directive it lets
errors through. -/
def read? (text : String) : Option Filter := do
  let parts := (text.splitOn ",").filter (· != "")
  let directives ← parts.mapM Directive.read?
  return if parts.isEmpty then ofThreshold (some .error)
    else { directives := directives.filterMap id }

end Filter

end PhasedLifecycle.Logging
