/-
This file reads the texts and keys of TOML documents, and the gaps, comments and line ends between
them. Each reader takes the characters still to be read, and returns what it read with the rest, or
nothing where the document is malformed.
-/

import PhasedLifecycle.Number.Decimal

namespace PhasedLifecycle.Toml

/-! ### Gaps, comments and line ends -/

/-- A space or a tab. -/
def isGap (c : Char) : Bool :=
  c == ' ' || c == '\t'

/-- A character that comments and texts may hold as it is: no control character but the tab. -/
def isPlain (c : Char) : Bool :=
  c == '\t' || (0x20 ≤ c.val && c.val != 0x7f)

/-- The text from its first character on that is no gap. -/
def skipGap (text : List Char) : List Char :=
  text.dropWhile isGap

/-- The text behind a comment, if it begins with one. -/
def skipComment : List Char → List Char
  | '#' :: rest => rest.dropWhile isPlain
  | text => text

/-- The text behind a line end. -/
def readLineEnd? : List Char → Option (List Char)
  | '\n' :: rest => some rest
  | '\r' :: '\n' :: rest => some rest
  | _ => none

/-- The text behind the rest of a line that holds nothing more than a comment. -/
def readLineRest? (text : List Char) : Option (List Char) :=
  match skipComment (skipGap text) with
  | [] => some []
  | rest => readLineEnd? rest

/-- The text behind gaps, line ends and comments. The fuel bounds their number. -/
def skipLines : Nat → List Char → List Char
  | 0, text => text
  | fuel + 1, text =>
    match skipGap text with
    | '#' :: rest => skipLines fuel (skipComment ('#' :: rest))
    | rest =>
      match readLineEnd? rest with
      | some rest => skipLines fuel rest
      | none => rest

/-! ### Escapes -/

/-- The character of a number, if there is one. -/
def character? (point : Nat) : Option Char :=
  if point.isValidChar then some (Char.ofNat point) else none

/-- The character that an escape stands for; the backslash has been read. -/
def readEscape? : List Char → Option (Char × List Char)
  | 'b' :: rest => some ('\x08', rest)
  | 't' :: rest => some ('\t', rest)
  | 'n' :: rest => some ('\n', rest)
  | 'f' :: rest => some ('\x0c', rest)
  | 'r' :: rest => some ('\r', rest)
  | '\"' :: rest => some ('\"', rest)
  | '\\' :: rest => some ('\\', rest)
  | 'u' :: rest => ofDigits 4 rest
  | 'U' :: rest => ofDigits 8 rest
  | _ => none
where
  ofDigits (count : Nat) (text : List Char) : Option (Char × List Char) := do
    let digits := text.take count
    if digits.length < count then none
    else return (← character? (← readNat? 16 digits), text.drop count)

/-! ### Texts of one line -/

/-- A text up to its closing double quote. The characters read so far come in reverse. -/
def readQuoted (read : List Char) : Nat → List Char → Option (String × List Char)
  | _, '\"' :: rest => some (String.ofList read.reverse, rest)
  | fuel + 1, '\\' :: rest => do
    let (c, rest) ← readEscape? rest
    readQuoted (c :: read) fuel rest
  | fuel + 1, c :: rest => if isPlain c then readQuoted (c :: read) fuel rest else none
  | _, _ => none

/-- A text up to its closing single quote; it holds no escapes. -/
def readLiteral? (text : List Char) : Option (String × List Char) :=
  let isInside (c : Char) : Bool := isPlain c && c != '\''
  match text.dropWhile isInside with
  | '\'' :: rest => some (String.ofList (text.takeWhile isInside), rest)
  | _ => none

/-! ### Texts of several lines -/

/-- The text behind a line end, if it begins with one. -/
def skipLineEnd (text : List Char) : List Char :=
  (readLineEnd? text).getD text

/-- The text behind gaps and line ends. -/
def skipBreaks : Nat → List Char → List Char
  | 0, text => text
  | fuel + 1, text =>
    let rest := skipGap text
    match readLineEnd? rest with
    | some rest => skipBreaks fuel rest
    | none => rest

/-- A text up to its three closing quotes of a kind. One or two quotes stand for themselves, also
right before the closing ones. Where there are escapes, a backslash at the end of a line takes the
line end and the gaps behind it out of the text. -/
def readLines (quote : Char) (hasEscapes : Bool) (read : List Char) :
    Nat → List Char → Option (String × List Char)
  | 0, _ => none
  | _, [] => none
  | fuel + 1, c :: rest =>
    if c = quote then
      let count := min 5 ((c :: rest).takeWhile (· == quote)).length
      let rest := (c :: rest).drop count
      if count < 3 then readLines quote hasEscapes (List.replicate count c ++ read) fuel rest
      else some (String.ofList (List.replicate (count - 3) c ++ read).reverse, rest)
    else if hasEscapes && c == '\\' then
      match readLineEnd? (skipGap rest) with
      | some rest => readLines quote hasEscapes read fuel (skipBreaks rest.length rest)
      | none =>
        match readEscape? rest with
        | some (c, rest) => readLines quote hasEscapes (c :: read) fuel rest
        | none => none
    else
      match readLineEnd? (c :: rest) with
      | some rest => readLines quote hasEscapes ('\n' :: read) fuel rest
      | none => if isPlain c then readLines quote hasEscapes (c :: read) fuel rest else none

/-- A text of any of the four kinds. -/
def readText? (text : List Char) : Option (String × List Char) :=
  match text with
  | '\"' :: '\"' :: '\"' :: rest => readLines '\"' true [] (rest.length + 1) (skipLineEnd rest)
  | '\'' :: '\'' :: '\'' :: rest => readLines '\'' false [] (rest.length + 1) (skipLineEnd rest)
  | '\"' :: rest => readQuoted [] rest.length rest
  | '\'' :: rest => readLiteral? rest
  | _ => none

/-! ### Keys -/

/-- A character that a key without quotes is made of. -/
def isKeyChar (c : Char) : Bool :=
  c.isAlphanum || c == '_' || c == '-'

/-- One key, with or without quotes. -/
def readKey? : List Char → Option (String × List Char)
  | '\"' :: rest => readQuoted [] rest.length rest
  | '\'' :: rest => readLiteral? rest
  | text =>
    match text.takeWhile isKeyChar with
    | [] => none
    | key => some (String.ofList key, text.dropWhile isKeyChar)

/-- How many keys a dotted key may join, and how deep values may nest. -/
def deepestNesting : Nat := 79

/-- Keys joined by points, with gaps around each. The fuel bounds their number. -/
def readKeys? : Nat → List Char → Option (List String × List Char)
  | 0, _ => none
  | fuel + 1, text => do
    let (key, rest) ← readKey? (skipGap text)
    match skipGap rest with
    | '.' :: rest => do
      let (keys, rest) ← readKeys? fuel rest
      return (key :: keys, rest)
    | rest => return ([key], rest)

end PhasedLifecycle.Toml
