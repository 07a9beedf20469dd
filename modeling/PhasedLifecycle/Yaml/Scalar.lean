/-
This file reads the scalars of YAML documents: plain ones, quoted ones, and blocks of lines. Where a
scalar runs over several lines, its lines are folded: one line end between two words becomes a
space, and of several the first is dropped.
-/

import PhasedLifecycle.Yaml.Cursor

namespace PhasedLifecycle.Yaml

/-! ### Gaps within scalars -/

/-- What stands between two words: gaps on one line, or a number of line ends. -/
structure Spacing where
  /-- The gaps before the first line end, in reverse. -/
  gaps : List Char := []
  breaks : Nat := 0

namespace Spacing

/-- What the spacing contributes to the text of a scalar, in reverse. -/
def folded (spacing : Spacing) : List Char :=
  match spacing.breaks with
  | 0 => spacing.gaps
  | 1 => [' ']
  | breaks + 1 => List.replicate breaks '\n'

/-- Reads spacing that goes on from some. Gaps at the beginning of lines are dropped; a tab among
them that stands left of a column is malformed. The fuel bounds the number of characters. -/
def read? (leastColumn : Int) (spacing : Spacing) : Nat → Cursor → Option (Spacing × Cursor)
  | 0, cursor => some (spacing, cursor)
  | fuel + 1, cursor =>
    let c := cursor.peek
    if isGap c then
      if spacing.breaks = 0 then
        read? leastColumn { spacing with gaps := c :: spacing.gaps } fuel cursor.next
      else if c == '\t' && (cursor.column : Int) < leastColumn then none
      else read? leastColumn spacing fuel cursor.next
    else if isBreak c then
      read? leastColumn { gaps := [], breaks := spacing.breaks + 1 } fuel cursor.skipBreak
    else some (spacing, cursor)

end Spacing

/-! ### Plain scalars -/

/-- The word that comes next: it ends at a boundary, at a colon in front of one, and between
brackets at a mark. -/
def readWord (isInFlow : Bool) : Nat → Cursor → List Char × Cursor
  | 0, cursor => ([], cursor)
  | fuel + 1, cursor =>
    let c := cursor.peek
    let after := cursor.peekAt 1
    if isBoundary c || (c == ':' && (isBoundary after || (isInFlow && isFlowMark after))) ||
        (isInFlow && isFlowMark c) then
      ([], cursor)
    else
      let (word, cursor) := readWord isInFlow fuel cursor.next
      (c :: word, cursor)

/-- A plain scalar, from spacing and the text before it on, which comes in reverse. The answer also
says whether the scalar was left behind a line end. -/
def readPlain (isInFlow : Bool) (leastColumn : Int) (read : List Char) (spacing : Spacing) :
    Nat → Cursor → Option (String × Bool × Cursor)
  | 0, _ => none
  | fuel + 1, cursor =>
    if cursor.isAtDocumentMark || cursor.peek == '#' then
      some (String.ofList read.reverse, 0 < spacing.breaks, cursor)
    else
      let (word, cursor) := readWord isInFlow cursor.rest.length cursor
      let read := if word.isEmpty then read else word.reverse ++ spacing.folded ++ read
      let spacing := if word.isEmpty then spacing else {}
      if !isGap cursor.peek && !isBreak cursor.peek then
        some (String.ofList read.reverse, 0 < spacing.breaks, cursor)
      else
        match spacing.read? leastColumn cursor.rest.length cursor with
        | none => none
        | some (spacing, cursor) =>
          if !isInFlow && (cursor.column : Int) < leastColumn then
            some (String.ofList read.reverse, 0 < spacing.breaks, cursor)
          else readPlain isInFlow leastColumn read spacing fuel cursor

/-! ### Quoted scalars -/

/-- The character that a simple escape stands for. -/
def escaped? : Char → Option Char
  | '0' => some '\x00'
  | 'a' => some '\x07'
  | 'b' => some '\x08'
  | 't' => some '\t'
  | '\t' => some '\t'
  | 'n' => some '\n'
  | 'v' => some '\x0b'
  | 'f' => some '\x0c'
  | 'r' => some '\r'
  | 'e' => some '\x1b'
  | ' ' => some ' '
  | '\"' => some '\"'
  | '\'' => some '\''
  | '\\' => some '\\'
  | 'N' => some '\u0085'
  | '_' => some '\u00a0'
  | 'L' => some '\u2028'
  | 'P' => some '\u2029'
  | _ => none

/-- The number of digits of an escape that gives a character by its number. -/
def digitsOfEscape? : Char → Option Nat
  | 'x' => some 2
  | 'u' => some 4
  | 'U' => some 8
  | _ => none

/-- The character that an escape stands for; the cursor is at its backslash. -/
def readEscape? (cursor : Cursor) : Option (Char × Cursor) := do
  let kind := cursor.peekAt 1
  let cursor := cursor.skip 2
  match digitsOfEscape? kind with
  | none => return (← escaped? kind, cursor)
  | some count =>
    let digits := cursor.rest.take count
    let point ← readNat? 16 digits
    if digits.length < count || !point.isValidChar then none
    else return (Char.ofNat point, cursor.skip count)

/-- A quoted scalar up to its closing quote. The text read so far comes in reverse, and spacing
behind it is kept apart until the next word. A backslash at the end of a line takes the line end
out of the text, with the gaps that the next line begins with. -/
def readQuoted (quote : Char) (read : List Char) :
    Nat → Cursor → Option (String × Cursor)
  | 0, _ => none
  | fuel + 1, cursor =>
    let c := cursor.peek
    if cursor.isAtDocumentMark || isEnd c then none
    else if isGap c || isBreak c then
      match Spacing.read? 0 {} cursor.rest.length cursor with
      | none => none
      | some (spacing, cursor) => readQuoted quote (spacing.folded ++ read) fuel cursor
    else if c == quote then
      if quote == '\'' && cursor.peekAt 1 == quote then
        readQuoted quote (quote :: read) fuel (cursor.skip 2)
      else some (String.ofList read.reverse, cursor.next)
    else if quote == '\"' && c == '\\' then
      if isBreak (cursor.peekAt 1) then
        match Spacing.read? 0 { breaks := 1 } cursor.rest.length cursor.next.skipBreak with
        | none => none
        | some (spacing, cursor) =>
          readQuoted quote (List.replicate (spacing.breaks - 1) '\n' ++ read) fuel cursor
      else
        match readEscape? cursor with
        | none => none
        | some (c, cursor) => readQuoted quote (c :: read) fuel cursor
    else readQuoted quote (c :: read) fuel cursor.next

/-! ### Blocks of lines -/

/-- What becomes of the line ends that a block ends with. -/
inductive Chomping where
  | strip
  | clip
  | keep
  deriving DecidableEq

/-- The heading of a block: how it is chomped, and how deep its lines are indented beyond their
surroundings, where it says so. -/
structure BlockHeading where
  chomping : Chomping := .clip
  increment : Nat := 0

/-- The chomping that a sign stands for. -/
def chompingOf? (c : Char) : Option Chomping :=
  if c == '+' then some .keep else if c == '-' then some .strip else none

/-- Reads the heading of a block, up to the line end. -/
def readBlockHeading? (cursor : Cursor) : Option (BlockHeading × Cursor) := do
  let readIncrement (cursor : Cursor) : Option (Nat × Cursor) :=
    if !isDigit cursor.peek then some (0, cursor)
    else if cursor.peek == '0' then none
    else some (digitValue cursor.peek, cursor.next)
  let (heading, cursor) ← match chompingOf? cursor.peek with
    | some chomping => do
      let (increment, cursor) ← readIncrement cursor.next
      pure ({ chomping, increment : BlockHeading }, cursor)
    | none => do
      let (increment, cursor) ← readIncrement cursor
      match chompingOf? cursor.peek with
      | some chomping => pure ({ chomping, increment }, cursor.next)
      | none => pure ({ increment }, cursor)
  let cursor := (cursor.skipWhile isGap).skipComment
  if isBreakOrEnd cursor.peek then return (heading, cursor.skipBreak) else none

/-- The empty lines in front of a line of a block, and the place behind its indentation. The
deepest column reached so far is what decides on the indentation where none is given. -/
def readBlockBreaks (indent : Nat) (deepest breaks : Nat) :
    Nat → Cursor → Option (Nat × Nat × Cursor)
  | 0, _ => none
  | fuel + 1, cursor =>
    let spaces := (cursor.span (· == ' ')).length
    let cursor := cursor.skip
      (if indent = 0 then spaces else min spaces (indent - cursor.column))
    let deepest := max deepest cursor.column
    if (indent = 0 || cursor.column < indent) && cursor.peek == '\t' then none
    else if isBreak cursor.peek then
      readBlockBreaks indent deepest (breaks + 1) fuel cursor.skipBreak
    else some (deepest, breaks, cursor)

/-- The lines of a block, from the text before them on, which comes in reverse. -/
def readBlockLines (isLiteral : Bool) (chomping : Chomping) (indent : Nat) (read : List Char)
    (hasBreak wasIndented : Bool) (breaks : Nat) : Nat → Cursor → Option (String × Cursor)
  | 0, _ => none
  | fuel + 1, cursor =>
    let finish (read : List Char) (hasBreak : Bool) (breaks : Nat) : String :=
      let read := if chomping != .strip && hasBreak then '\n' :: read else read
      let read := if chomping == .keep then List.replicate breaks '\n' ++ read else read
      String.ofList read.reverse
    if cursor.column != indent || isEnd cursor.peek then
      some (finish read hasBreak breaks, cursor)
    else
      let isIndented := isGap cursor.peek
      let read :=
        if !hasBreak then read
        else if !isLiteral && !wasIndented && !isIndented then
          if breaks = 0 then ' ' :: read else read
        else '\n' :: read
      let line := cursor.span fun c => !isBreak c
      let read := line.reverse ++ List.replicate breaks '\n' ++ read
      let cursor := cursor.skip line.length
      if isEnd cursor.peek then some (finish read false 0, cursor)
      else
        match readBlockBreaks indent 0 0 (cursor.rest.length + 1) cursor.skipBreak with
        | none => none
        | some (_, breaks, cursor) =>
          readBlockLines isLiteral chomping indent read true isIndented breaks fuel cursor

/-- A block of lines; the cursor is behind its mark. The indentation of the surroundings is -1
outside of all collections. -/
def readBlock? (isLiteral : Bool) (outer : Int) (cursor : Cursor) : Option (String × Cursor) := do
  let (heading, cursor) ← readBlockHeading? cursor
  let given := if heading.increment = 0 then 0 else (max outer 0).toNat + heading.increment
  let (deepest, breaks, cursor) ← readBlockBreaks given 0 0 (cursor.rest.length + 1) cursor
  let indent := if given = 0 then max (max deepest (outer + 1).toNat) 1 else given
  readBlockLines isLiteral heading.chomping indent [] false false breaks (cursor.rest.length + 1)
    cursor

end PhasedLifecycle.Yaml
