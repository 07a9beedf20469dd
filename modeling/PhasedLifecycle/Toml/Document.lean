/-
This file reads TOML documents: values, then lines, each of which is a heading, a key with its
value, a comment, or empty.
-/

import PhasedLifecycle.Toml.Item
import PhasedLifecycle.Toml.Number

namespace PhasedLifecycle.Toml

/-! ### Values -/

/-- The text behind a word, if it begins with it. -/
def readWord? (word : String) (text : List Char) : Option (List Char) :=
  if word.toList.isPrefixOf text then some (text.drop word.length) else none

/-- Keys joined by points, few enough to be followed. -/
def readPath? (text : List Char) : Option (List String × List Char) :=
  readKeys? deepestNesting text

/-- Behind a gap, an equals sign and another gap: the text at which a value begins. -/
def readEquals? (text : List Char) : Option (List Char) :=
  match skipGap text with
  | '=' :: rest => some (skipGap rest)
  | _ => none

mutual

/-- A value. The depth counts the arrays and tables that may still be opened; the fuel bounds the
number of values. -/
def readValue : Nat → Nat → List Char → Option (Tree × List Char)
  | 0, _, _ => none
  | fuel + 1, depth, text =>
    match text with
    | [] => none
    | c :: rest =>
      if c == '\"' || c == '\'' then
        (readText? text).map fun (value, rest) => (.text value, rest)
      else if c == 't' then (readWord? "true" text).map fun rest => (.truth true, rest)
      else if c == 'f' then (readWord? "false" text).map fun rest => (.truth false, rest)
      else if c == '[' then
        if depth = 0 then none
        else (readItems fuel (depth - 1) rest).map fun (items, rest) => (.list items, rest)
      else if c == '\x7b' then
        if depth = 0 then none
        else match skipGap rest with
          | '\x7d' :: rest => some (.table [], rest)
          | rest =>
            (readInline fuel (depth - 1) [] rest).map fun (entries, rest) =>
              (.table (Item.trees entries), rest)
      else readPlainValue? text

/-- The items of an array up to its closing bracket. Lines may end between them, and a comma may
follow the last. -/
def readItems : Nat → Nat → List Char → Option (List Tree × List Char)
  | 0, _, _ => none
  | fuel + 1, depth, text =>
    match skipLines text.length text with
    | ']' :: rest => some ([], rest)
    | text => do
      let (item, rest) ← readValue fuel depth text
      match skipLines rest.length rest with
      | ',' :: rest => do
        let (items, rest) ← readItems fuel depth rest
        some (item :: items, rest)
      | ']' :: rest => some ([item], rest)
      | _ => none

/-- The entries of a table within a line, added to those before them, up to the closing brace. -/
def readInline : Nat → Nat → Entries → List Char → Option (Entries × List Char)
  | 0, _, _, _ => none
  | fuel + 1, depth, entries, text => do
    let (keys, rest) ← readPath? text
    let rest ← readEquals? rest
    let (value, rest) ← readValue fuel depth rest
    let entries ← Item.addDotted? value keys entries
    match skipGap rest with
    | ',' :: rest => readInline fuel depth entries rest
    | '\x7d' :: rest => some (entries, rest)
    | _ => none

end

/-! ### Lines -/

/-- A document being read: its entries, and the heading under which further ones belong. -/
structure Draft where
  entries : Entries := []
  heading : List String := []

/-- Opens the table that a heading names. -/
def Draft.openHeading? (draft : Draft) (keys : List String)
    (openLast? : String → Entries → Option Entries) : Option Draft := do
  let last ← keys.getLast?
  let entries ← Item.changeAlong? (openLast? last) keys.dropLast draft.entries
  return { entries, heading := keys }

/-- Adds a value under the heading that is open. -/
def Draft.add? (draft : Draft) (keys : List String) (value : Tree) : Option Draft := do
  let entries ← Item.changeAlong? (Item.addDotted? value keys) draft.heading draft.entries
  return { draft with entries }

/-- A heading: its keys in single or double brackets. -/
def readHeading? (draft : Draft) : List Char → Option (Draft × List Char)
  | '[' :: '[' :: rest => do
    let (keys, rest) ← readPath? rest
    let draft ← draft.openHeading? keys Item.openFurtherTable?
    return (draft, ← readLineRest? (← readWord? "]]" rest))
  | '[' :: rest => do
    let (keys, rest) ← readPath? rest
    let draft ← draft.openHeading? keys Item.openTable?
    return (draft, ← readLineRest? (← readWord? "]" rest))
  | _ => none

/-- The lines of a document. The fuel bounds their number. -/
def readDocument : Nat → Draft → List Char → Option Draft
  | fuel, draft, text =>
    match skipGap text with
    | [] => some draft
    | c :: rest =>
      match fuel with
      | 0 => none
      | fuel + 1 =>
        if c == '#' || c == '\n' || c == '\r' then do
          readDocument fuel draft (← readLineRest? (c :: rest))
        else if c == '[' then do
          let (draft, rest) ← readHeading? draft (c :: rest)
          readDocument fuel draft rest
        else do
          let (keys, rest) ← readPath? (c :: rest)
          let rest ← readEquals? rest
          let (value, rest) ← readValue (2 * rest.length + 2) deepestNesting rest
          let draft ← draft.add? keys value
          readDocument fuel draft (← readLineRest? rest)

/-- The entries that a text of settings holds. A mark of the byte order at its beginning is passed
over. -/
def readSettings? (text : String) : Option (List (String × Tree)) :=
  let characters := match text.toList with
    | '\ufeff' :: rest => rest
    | characters => characters
  (readDocument (characters.length + 1) {} characters).map fun draft => Item.trees draft.entries

end PhasedLifecycle.Toml
