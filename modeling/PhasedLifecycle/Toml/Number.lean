/-
This file reads the numbers, dates and times of TOML documents. Underscores may stand between
digits; a whole number may be written in base ten, sixteen, eight or two; dates and times must be
those of the calendar.
-/

import PhasedLifecycle.Toml.Text
import PhasedLifecycle.Tree

namespace PhasedLifecycle.Toml

/-! ### Whole numbers and decimals -/

/-- The rest of a run of digits, in which each underscore stands between two of them. -/
def readDigitsRest? (isDigit : Char → Bool) : List Char → Option (List Char × List Char)
  | '_' :: c :: rest =>
    if isDigit c then (readDigitsRest? isDigit rest).map fun (digits, rest) => (c :: digits, rest)
    else none
  | ['_'] => none
  | c :: rest =>
    if isDigit c then (readDigitsRest? isDigit rest).map fun (digits, rest) => (c :: digits, rest)
    else some ([], c :: rest)
  | [] => some ([], [])

/-- A run of digits, at least one. -/
def readDigits? (isDigit : Char → Bool) : List Char → Option (List Char × List Char)
  | c :: rest =>
    if isDigit c then (readDigitsRest? isDigit rest).map fun (digits, rest) => (c :: digits, rest)
    else none
  | [] => none

/-- The digits of a whole number in base ten: one zero, or a run that begins with none. -/
def readWhole? : List Char → Option (List Char × List Char)
  | '0' :: rest => some (['0'], rest)
  | text => readDigits? isDigit text

/-- A whole number in another base than ten; the mark of the base has been read. -/
def readInBase? (base : Nat) (text : List Char) : Option (Tree × List Char) := do
  let (digits, rest) ← readDigits? (fun c => (digitValueIn? base c).isSome) text
  let value ← readNat? base digits
  if signed64.holds value then return (.whole value, rest) else none

/-- The fraction of a decimal with its point, or nothing. -/
def readFraction? : List Char → Option (List Char × List Char)
  | '.' :: rest => (readDigits? isDigit rest).map fun (digits, rest) => ('.' :: digits, rest)
  | text => some ([], text)

/-- The exponent of a decimal with its mark, or nothing. -/
def readExponent? : List Char → Option (List Char × List Char)
  | c :: rest =>
    if c == 'e' || c == 'E' then
      let (sign, rest) := match rest with
        | '-' :: rest => (['-'], rest)
        | '+' :: rest => ([], rest)
        | rest => ([], rest)
      (readDigits? isDigit rest).map fun (digits, rest) => ('e' :: sign ++ digits, rest)
    else some ([], c :: rest)
  | [] => some ([], [])

/-- A number in base ten. A decimal too great to be finite is malformed, unless it is negative. -/
def readTenfold? (sign : List Char) (text : List Char) : Option (Tree × List Char) := do
  let (whole, rest) ← readWhole? text
  let (fraction, rest) ← readFraction? rest
  let (exponent, rest) ← readExponent? rest
  if fraction.isEmpty && exponent.isEmpty then
    return (.whole (← signed64.read? (sign ++ whole)), rest)
  else
    match ← Binary64.read? (sign ++ whole ++ fraction ++ exponent) with
    | .infinite false => none
    | number => return (.real number, rest)

/-- A number behind its sign, or one of the two words that stand for numbers without digits. -/
def readSigned? (sign : List Char) : List Char → Option (Tree × List Char)
  | 'i' :: 'n' :: 'f' :: rest => some (.real (.infinite (sign == ['-'])), rest)
  | 'n' :: 'a' :: 'n' :: rest => some (.real .nan, rest)
  | text => readTenfold? sign text

/-- A number. -/
def readNumber? : List Char → Option (Tree × List Char)
  | '0' :: 'x' :: rest => readInBase? 16 rest
  | '0' :: 'o' :: rest => readInBase? 8 rest
  | '0' :: 'b' :: rest => readInBase? 2 rest
  | '+' :: rest => readSigned? ['+'] rest
  | '-' :: rest => readSigned? ['-'] rest
  | text => readSigned? [] text

/-! ### Dates and times -/

/-- What reading something that may not be there comes to. -/
inductive Attempt where
  /-- It is not there. -/
  | missing
  /-- It is there, but malformed. -/
  | malformed
  /-- It is there; the rest follows it. -/
  | read (rest : List Char)

/-- A number of a given width between two bounds. -/
def readField? (width least most : Nat) (text : List Char) : Option (Nat × List Char) :=
  let digits := text.take width
  if digits.length = width && digits.all isDigit then
    let value := digitsValue digits
    if least ≤ value && value ≤ most then some (value, text.drop width) else none
  else none

/-- Whether a year has a leap day. -/
def isLeap (year : Nat) : Bool :=
  (year % 4 == 0 && year % 100 != 0) || year % 400 == 0

/-- The number of days of a month. -/
def daysIn (year month : Nat) : Nat :=
  if month = 2 then (if isLeap year then 29 else 28)
  else if [4, 6, 9, 11].contains month then 30
  else 31

/-- What is left behind a given character. -/
def readMark? (mark : Char) : List Char → Option (List Char)
  | c :: rest => if c = mark then some rest else none
  | [] => none

/-- A date. -/
def readDate (text : List Char) : Attempt :=
  match (do
    let (year, rest) ← readField? 4 0 9999 text
    return (year, ← readMark? '-' rest)) with
  | none => .missing
  | some (year, rest) =>
    match (do
      let (month, rest) ← readField? 2 1 12 rest
      let rest ← readMark? '-' rest
      let (_, rest) ← readField? 2 1 (daysIn year month) rest
      return rest) with
    | none => .malformed
    | some rest => .read rest

/-- A time of the day, to the minute, the second, or a fraction of it. -/
def readTime (text : List Char) : Attempt :=
  match (do
    let (_, rest) ← readField? 2 0 23 text
    readMark? ':' rest) with
  | none => .missing
  | some rest =>
    match (do
      let (_, rest) ← readField? 2 0 59 rest
      let rest ← readMark? ':' rest
      let (_, rest) ← readField? 2 0 60 rest
      return rest) with
    | none => .malformed
    | some rest =>
      match rest with
      | '.' :: after =>
        match spanDigits after with
        | ([], _) => .malformed
        | (_, rest) => .read rest
      | rest => .read rest

/-- The distance of a time from that of the prime meridian, or nothing. -/
def readZone : List Char → Attempt
  | [] => .read []
  | c :: rest =>
    if c == 'Z' || c == 'z' then .read rest
    else if c == '+' || c == '-' then
      match (do
        let (_, rest) ← readField? 2 0 23 rest
        let rest ← readMark? ':' rest
        let (_, rest) ← readField? 2 0 59 rest
        return rest) with
      | none => .malformed
      | some rest => .read rest
    else .read (c :: rest)

/-- A date, a time, or both. -/
def readMoment (text : List Char) : Attempt :=
  match readDate text with
  | .malformed => .malformed
  | .missing => readTime text
  | .read rest =>
    match rest with
    | [] => .read []
    | c :: after =>
      if c == 'T' || c == 't' || c == ' ' then
        match readTime after with
        | .missing => .read rest
        | .malformed => .malformed
        | .read rest => readZone rest
      else .read rest

/-- A number, or a date or time, which is kept as it is written. -/
def readPlainValue? (text : List Char) : Option (Tree × List Char) :=
  match readMoment text with
  | .malformed => none
  | .missing => readNumber? text
  | .read rest =>
    some (.text (String.ofList (text.take (text.length - rest.length))), rest)

end PhasedLifecycle.Toml
