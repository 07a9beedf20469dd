/-
This file models instants on the civil calendar: a day, a second of that day and a fraction of that
second. A leap second lengthens the last second of a minute: its fraction runs on past one whole
second. Days are counted from 1 January 1970.
-/

namespace PhasedLifecycle

/-- An instant in universal time. The fraction counts nanoseconds and is a whole second or more
during a leap second. -/
structure Instant where
  day : Int
  second : Nat
  nanosecond : Nat
  deriving DecidableEq

namespace Instant

/-- The number of nanoseconds in a second. -/
def perSecond : Nat := 1000000000

/-- The number of seconds in a day. -/
def perDay : Nat := 86400

/-- The instant so many milliseconds after the beginning of 1970. -/
def ofMilliseconds (milliseconds : Nat) : Instant :=
  { day := (milliseconds / 1000 / perDay : Nat)
    second := milliseconds / 1000 % perDay
    nanosecond := milliseconds % 1000 * 1000000 }

/-- The nanoseconds from one instant to another. A leap second that lies between them counts, in
whichever direction; one that is still running is in the fraction already. -/
def nanosecondsUntil (start stop : Instant) : Int :=
  let between : Int :=
    if start.second < stop.second then
      if perSecond ≤ start.nanosecond then 1 else 0
    else if stop.second < start.second then
      if perSecond ≤ stop.nanosecond then -1 else 0
    else 0
  ((stop.day - start.day) * perDay + (stop.second - start.second) + between) * perSecond +
    (stop.nanosecond - start.nanosecond)

/-- The milliseconds from one instant to another, cut toward zero. -/
def millisecondsUntil (start stop : Instant) : Int :=
  (start.nanosecondsUntil stop).tdiv 1000000

/-! ### The calendar -/

/-- The day on which a month of a year begins, the month counted from March of that year. -/
def monthStart (year : Int) (monthFromMarch : Nat) : Int :=
  year * 365 + year / 4 - year / 100 + year / 400 + ((153 * monthFromMarch + 2) / 5 : Nat) - 719468

/-- The day of a date; the months of January and February belong to the year before. -/
def dayOfDate (year : Int) (month day : Nat) : Int :=
  if month ≤ 2 then monthStart (year - 1) (month + 9) + (day - 1)
  else monthStart year (month - 3) + (day - 1)

/-- A year that has a 29 February. -/
def isLeapYear (year : Int) : Bool :=
  year % 4 == 0 && (year % 100 != 0 || year % 400 == 0)

/-- The length of a month. -/
def monthLength (year : Int) (month : Nat) : Nat :=
  if month = 2 then (if isLeapYear year then 29 else 28)
  else if month ∈ [4, 6, 9, 11] then 30 else 31

/-- The year, the month and the day of the month of a day. -/
def dateOfDay (day : Int) : Int × Nat × Nat :=
  let shifted := day + 719468
  let era := shifted / 146097
  let dayOfEra := (shifted % 146097).toNat
  let yearOfEra :=
    (dayOfEra - dayOfEra / 1460 + dayOfEra / 36524 - dayOfEra / 146096) / 365
  let dayOfYear := dayOfEra - (365 * yearOfEra + yearOfEra / 4 - yearOfEra / 100)
  let monthFromMarch := (5 * dayOfYear + 2) / 153
  let dayOfMonth := dayOfYear - (153 * monthFromMarch + 2) / 5 + 1
  let year := era * 400 + yearOfEra
  if monthFromMarch < 10 then (year, monthFromMarch + 3, dayOfMonth)
  else (year + 1, monthFromMarch - 9, dayOfMonth)

example : dayOfDate 1970 1 1 = 0 ∧ dayOfDate 2024 2 29 = 19782 := by decide

example : dateOfDay (-1) = (1969, 12, 31) ∧ dateOfDay 19782 = (2024, 2, 29) := by decide

end Instant

end PhasedLifecycle
