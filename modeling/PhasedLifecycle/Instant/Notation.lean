/-
This file reads and writes instants in the notation of dates and times on the net:
`2024-02-29T12:00:00.250Z`. Reading is generous: numbers may lack leading zeros, white space may
stand before numbers and marks, a blank may stand for the `T`, and the offset may be written with
blanks or no colon. What is written is always in universal time, with as many groups of three
decimals as the fraction needs.
-/

import PhasedLifecycle.Instant
import PhasedLifecycle.Number.Decimal
import PhasedLifecycle.Text.Blank
import PhasedLifecycle.Text.Quoted

namespace PhasedLifecycle.Instant

/-! ### Reading parts -/

/-- At least one digit and at most so many, with the rest. -/
def readDigits? (most : Nat) (text : List Char) : Option (List Char × List Char) :=
  match (text.take most).takeWhile isDigit with
  | [] => none
  | digits => some (digits, text.drop digits.length)

/-- A number of at most two digits, within limits, after white space. -/
def readPart? (least most : Nat) (text : List Char) : Option (Nat × List Char) := do
  let (digits, rest) ← readDigits? 2 (Text.skipBlanks text)
  let value := digitsValue digits
  if least ≤ value && value ≤ most then some (value, rest) else none

/-- The years that dates may have. -/
def years : Bounds := ⟨-262143, 262142⟩

/-- A year: at most four digits, or any number of digits after a sign. -/
def readYear? (text : List Char) : Option (Int × List Char) :=
  let signed (sign : Int) (text : List Char) : Option (Int × List Char) :=
    (readDigits? text.length text).map fun (digits, rest) =>
      (sign * Int.ofNat (digitsValue digits), rest)
  match Text.skipBlanks text with
  | '-' :: rest => signed (-1) rest
  | '+' :: rest => signed 1 rest
  | rest => (readDigits? 4 rest).map fun (digits, rest) => (Int.ofNat (digitsValue digits), rest)

/-- A mark, after white space. -/
def readMark? (mark : Char) (text : List Char) : Option (List Char) :=
  match Text.skipBlanks text with
  | c :: rest => if c = mark then some rest else none
  | [] => none

/-- A date, as the day it stands for. -/
def readDate? (text : List Char) : Option (Int × List Char) := do
  let (year, rest) ← readYear? text
  let rest ← readMark? '-' rest
  let (month, rest) ← readPart? 1 12 rest
  let rest ← readMark? '-' rest
  let (day, rest) ← readPart? 1 31 rest
  if years.holds year && day ≤ monthLength year month then
    some (dayOfDate year month day, rest)
  else none

/-- A fraction of a second, in nanoseconds; digits from the tenth on are dropped. -/
def readFraction? : List Char → Option (Nat × List Char)
  | '.' :: rest => do
    let (digits, after) ← readDigits? 9 rest
    some (digitsValue digits * Nat.pow 10 (9 - digits.length), after.dropWhile isDigit)
  | rest => some (0, rest)

/-- A time of day, as the second of the day and the fraction. The second number 60 is the leap
second after number 59. -/
def readTime? (text : List Char) : Option ((Nat × Nat) × List Char) := do
  let (hour, rest) ← readPart? 0 23 text
  let rest ← readMark? ':' rest
  let (minute, rest) ← readPart? 0 59 rest
  let rest ← readMark? ':' rest
  let (second, rest) ← readPart? 0 60 rest
  let (fraction, rest) ← readFraction? rest
  let leap := second == 60
  let second := hour * 3600 + minute * 60 + (if leap then 59 else second)
  some ((second, if leap then perSecond + fraction else fraction), rest)

/-- Two digits. -/
def readTwo? : List Char → Option (Nat × List Char)
  | a :: b :: rest =>
    if isDigit a && isDigit b then some (digitValue a * 10 + digitValue b, rest) else none
  | _ => none

/-- The offset from universal time in seconds: a letter or word for none, or a sign, hours and
minutes. -/
def readOffset? (text : List Char) : Option (Int × List Char) :=
  let distance (sign : Int) (text : List Char) : Option (Int × List Char) := do
    let (hours, rest) ← readTwo? text
    let (minutes, rest) ← readTwo? (rest.dropWhile fun c => c == ':' || Text.isBlank c)
    if minutes < 60 then some (sign * (hours * 3600 + minutes * 60 : Nat), rest) else none
  match text with
  | 'Z' :: rest => some (0, rest)
  | 'z' :: rest => some (0, rest)
  | '+' :: rest => distance 1 rest
  | '-' :: rest => distance (-1) rest
  | '−' :: rest => distance (-1) rest
  | u :: t :: c :: rest =>
    if [u, t, c].map Char.toLower = ['u', 't', 'c'] then some (0, rest) else none
  | _ => none

/-- An instant some seconds earlier. -/
def earlier (instant : Instant) (seconds : Int) : Instant :=
  let second := instant.second - seconds
  { instant with
    day := instant.day + second / perDay
    second := (second % perDay).toNat }

/-- The first and the last day that instants may fall on. -/
def days : Bounds := ⟨dayOfDate (-262143) 1 1, dayOfDate 262142 12 31⟩

/-- An instant in the notation of this file. -/
def read? (text : String) : Option Instant := do
  let (day, rest) ← readDate? text.toList
  let rest ← match rest with
    | 'T' :: rest => some rest
    | 't' :: rest => some rest
    | ' ' :: rest => some rest
    | _ => none
  let ((second, nanosecond), rest) ← readTime? rest
  let (offset, rest) ← readOffset? (Text.skipBlanks rest)
  let instant := earlier { day, second, nanosecond } offset
  if (Text.skipBlanks rest).isEmpty && offset.natAbs < perDay && days.holds instant.day then
    some instant
  else none

/-! ### Writing -/

/-- A year: four digits, with a sign where four do not reach. -/
def writeYear (year : Int) : String :=
  if 0 ≤ year && year ≤ 9999 then Text.padded 4 year.toNat
  else (if year < 0 then "-" else "+") ++ Text.padded 4 year.natAbs

/-- A fraction of a second in groups of three decimals, as many as it needs. -/
def writeFraction (nanosecond : Nat) : String :=
  if nanosecond = 0 then ""
  else if nanosecond % 1000000 = 0 then "." ++ Text.padded 3 (nanosecond / 1000000)
  else if nanosecond % 1000 = 0 then "." ++ Text.padded 6 (nanosecond / 1000)
  else "." ++ Text.padded 9 nanosecond

/-- The instant in the notation of this file. -/
def write (instant : Instant) : String :=
  let (year, month, day) := dateOfDay instant.day
  let leap := perSecond ≤ instant.nanosecond
  let second := instant.second % 60 + (if leap then 1 else 0)
  let fraction := if leap then instant.nanosecond - perSecond else instant.nanosecond
  writeYear year ++ "-" ++ Text.padded 2 month ++ "-" ++ Text.padded 2 day ++ "T" ++
    Text.padded 2 (instant.second / 3600) ++ ":" ++
    Text.padded 2 (instant.second / 60 % 60) ++ ":" ++ Text.padded 2 second ++
    writeFraction fraction ++ "Z"

end PhasedLifecycle.Instant
