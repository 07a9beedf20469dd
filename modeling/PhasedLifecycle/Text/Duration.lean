/-
This file writes lengths of time, counted in milliseconds, the way diagnostics show them: in the
largest unit that gives a whole part, with the fraction cut after its last digit that counts.
-/

import PhasedLifecycle.Text.Quoted

namespace PhasedLifecycle.Text

/-- A fraction of a second, in milliseconds, after the point; nothing for zero. -/
def fractionOfSecond (milliseconds : Nat) : String :=
  if milliseconds = 0 then ""
  else
    let digits := (padded 3 milliseconds).toList
    "." ++ String.ofList (digits.reverse.dropWhile (· == '0')).reverse

/-- A length of time: seconds from one second on, milliseconds below, and no time at all in
nanoseconds. -/
def duration (milliseconds : Nat) : String :=
  if 1000 ≤ milliseconds then
    toString (milliseconds / 1000) ++ fractionOfSecond (milliseconds % 1000) ++ "s"
  else if 0 < milliseconds then toString milliseconds ++ "ms"
  else "0ns"

end PhasedLifecycle.Text
