/-
This file reads JSON documents. The reader keeps to the standard: no comments, no trailing commas,
no leading zeros, no control characters in texts. How deep a document nests is left to those who
read values out of it.
-/

import PhasedLifecycle.Json

namespace PhasedLifecycle.Json

/-! ### Blanks and texts -/

/-- A blank between tokens. -/
def isBlank (c : Char) : Bool :=
  c == ' ' || c == '\t' || c == '\n' || c == '\r'

/-- The text from its first character on that is no blank. -/
def skipBlanks (text : List Char) : List Char :=
  text.dropWhile isBlank

/-- Four digits in base sixteen. -/
def readUnit? : List Char → Option (Nat × List Char)
  | a :: b :: c :: d :: rest => (readNat? 16 [a, b, c, d]).map (·, rest)
  | _ => none

/-- The first unit of a character that takes two. -/
def isLeading (unit : Nat) : Bool := 0xd800 ≤ unit && unit < 0xdc00

/-- The second unit of a character that takes two. -/
def isTrailing (unit : Nat) : Bool := 0xdc00 ≤ unit && unit < 0xe000

/-- The character of two units. -/
def joinUnits (leading trailing : Nat) : Char :=
  Char.ofNat (0x10000 + (leading - 0xd800) * 0x400 + (trailing - 0xdc00))

/-- The character that a simple escape stands for. -/
def escaped? : Char → Option Char
  | '\"' => some '\"'
  | '\\' => some '\\'
  | '/' => some '/'
  | 'b' => some '\x08'
  | 'f' => some '\x0c'
  | 'n' => some '\n'
  | 'r' => some '\r'
  | 't' => some '\t'
  | _ => none

/-- A text up to its closing quote. The characters read so far come in reverse; they are absent
once an escape made up no character. -/
def readText (read : Option (List Char)) : Nat → List Char → Option (Option String × List Char)
  | 0, _ => none
  | _ + 1, [] => none
  | _ + 1, '\"' :: rest => some (read.map fun read => String.ofList read.reverse, rest)
  | fuel + 1, '\\' :: 'u' :: rest => do
    let (unit, rest) ← readUnit? rest
    if isTrailing unit then readText none fuel rest
    else if isLeading unit then
      match rest with
      | '\\' :: 'u' :: after =>
        match readUnit? after with
        | some (next, after) =>
          if isTrailing next then readText (read.map (joinUnits unit next :: ·)) fuel after
          else readText none fuel rest
        | none => none
      | _ => readText none fuel rest
    else readText (read.map (Char.ofNat unit :: ·)) fuel rest
  | fuel + 1, '\\' :: c :: rest => do
    let character ← escaped? c
    readText (read.map (character :: ·)) fuel rest
  | fuel + 1, c :: rest =>
    if c.val < 0x20 || c == '\\' then none else readText (read.map (c :: ·)) fuel rest

/-! ### Numbers -/

/-- The whole part of a number: one zero, or digits that begin with none. -/
def readWhole? (text : List Char) : Option (List Char × List Char) :=
  match spanDigits text with
  | ([], _) => none
  | (digits, rest) =>
    if digits.head? == some '0' && 1 < digits.length then none else some (digits, rest)

/-- The fraction of a number: a point and at least one digit, or nothing. -/
def readFraction? : List Char → Option (List Char × List Char)
  | '.' :: rest =>
    match spanDigits rest with
    | ([], _) => none
    | (digits, rest) => some (digits, rest)
  | rest => some ([], rest)

/-- The exponent of a number: a sign or none and at least one digit, or nothing. -/
def readExponent? (text : List Char) : Option (Option Int × List Char) :=
  let after (negative : Bool) (text : List Char) : Option (Option Int × List Char) :=
    match spanDigits text with
    | ([], _) => none
    | (digits, rest) =>
      let value := Int.ofNat (digitsValue digits)
      some (some (if negative then -value else value), rest)
  match text with
  | c :: rest =>
    if c == 'e' || c == 'E' then
      match rest with
      | '-' :: rest => after true rest
      | '+' :: rest => after false rest
      | rest => after false rest
    else some (none, text)
  | [] => some (none, [])

/-- A number: whole if it is written so and fits a word, else a decimal. Minus zero is a decimal. -/
def readNumber? (text : List Char) : Option (Json × List Char) := do
  let (negative, unsigned) := match text with
    | '-' :: rest => (true, rest)
    | rest => (false, rest)
  let (integral, rest) ← readWhole? unsigned
  let (fraction, rest) ← readFraction? rest
  let (exponent, rest) ← readExponent? rest
  let value := Int.ofNat (digitsValue integral)
  let decimal := Json.decimal
    { negative
      digits := digitsValue (integral ++ fraction)
      exponent := exponent.getD 0 - fraction.length }
  if !fraction.isEmpty || exponent.isSome then return (decimal, rest)
  if negative then
    if value = 0 || !signed64.holds (-value) then return (decimal, rest)
    return (.whole (-value), rest)
  if word64.holds value then return (.whole value, rest)
  return (decimal, rest)

/-! ### Values -/

mutual

/-- A value, with blanks before it. The fuel bounds the number of values and items. -/
def readValue : Nat → List Char → Option (Json × List Char)
  | 0, _ => none
  | fuel + 1, input =>
    match skipBlanks input with
    | 'n' :: 'u' :: 'l' :: 'l' :: rest => some (.null, rest)
    | 't' :: 'r' :: 'u' :: 'e' :: rest => some (.bool true, rest)
    | 'f' :: 'a' :: 'l' :: 's' :: 'e' :: rest => some (.bool false, rest)
    | '\"' :: rest =>
      (readText (some []) (rest.length + 1) rest).map fun (characters, rest) =>
        ((characters.map Json.text).getD .brokenText, rest)
    | '[' :: rest =>
      match skipBlanks rest with
      | ']' :: rest => some (.array [], rest)
      | rest => (readItems fuel rest).map fun (items, rest) => (.array items, rest)
    | '\x7b' :: rest =>
      match skipBlanks rest with
      | '\x7d' :: rest => some (.object [], rest)
      | rest => (readEntries fuel rest).map fun (entries, rest) => (.object entries, rest)
    | rest => readNumber? rest

/-- The items of an array, at least one, and its closing bracket. -/
def readItems : Nat → List Char → Option (List Json × List Char)
  | 0, _ => none
  | fuel + 1, input => do
    let (item, rest) ← readValue fuel input
    match skipBlanks rest with
    | ',' :: rest => do
      let (items, rest) ← readItems fuel rest
      some (item :: items, rest)
    | ']' :: rest => some ([item], rest)
    | _ => none

/-- The entries of an object, at least one, and its closing brace. -/
def readEntries : Nat → List Char → Option (List (Option String × Json) × List Char)
  | 0, _ => none
  | fuel + 1, input =>
    match skipBlanks input with
    | '\"' :: rest => do
      let (key, rest) ← readText (some []) (rest.length + 1) rest
      match skipBlanks rest with
      | ':' :: rest => do
        let (value, rest) ← readValue fuel rest
        match skipBlanks rest with
        | ',' :: rest => do
          let (entries, rest) ← readEntries fuel rest
          some ((key, value) :: entries, rest)
        | '\x7d' :: rest => some ([(key, value)], rest)
        | _ => none
      | _ => none
    | _ => none

end

/-- A document: one value, with nothing but blanks around it. -/
def read? (text : String) : Option Json :=
  let characters := text.toList
  match readValue (2 * characters.length + 2) characters with
  | some (value, rest) => if (skipBlanks rest).isEmpty then some value else none
  | none => none

mutual

/-- Whether all texts of the document, keys included, are whole. -/
def isSound : Json → Bool
  | .brokenText => false
  | .array items => soundItems items
  | .object entries => soundEntries entries
  | _ => true

/-- Whether the items of an array are sound. -/
def soundItems : List Json → Bool
  | [] => true
  | item :: items => item.isSound && soundItems items

/-- Whether the entries of an object are sound. -/
def soundEntries : List (Option String × Json) → Bool
  | [] => true
  | (key, value) :: entries => key.isSome && value.isSound && soundEntries entries

end

end PhasedLifecycle.Json
