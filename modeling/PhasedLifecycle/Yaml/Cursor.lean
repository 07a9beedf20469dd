/-
This file models a place in the text of a YAML document. The place knows its line and column,
because indentation decides how values nest. Past the end of the text every question about the next
character is answered as if a null character stood there.
-/

import PhasedLifecycle.Number.Decimal

namespace PhasedLifecycle.Yaml

/-! ### Classes of characters -/

/-- A space or a tab. -/
def isGap (c : Char) : Bool :=
  c == ' ' || c == '\t'

/-- A line end, or half of one. -/
def isBreak (c : Char) : Bool :=
  c == '\n' || c == '\r'

/-- The character that stands for the end of the text. -/
def isEnd (c : Char) : Bool :=
  c == '\x00'

/-- A line end or the end of the text. -/
def isBreakOrEnd (c : Char) : Bool :=
  isBreak c || isEnd c

/-- What a word ends before: a gap, a line end, or the end of the text. -/
def isBoundary (c : Char) : Bool :=
  isGap c || isBreakOrEnd c

/-- A character with a meaning of its own between brackets. -/
def isFlowMark (c : Char) : Bool :=
  c == ',' || c == '[' || c == ']' || c == '\x7b' || c == '\x7d'

/-- A character that names are made of. -/
def isNameChar (c : Char) : Bool :=
  c.isAlphanum || c == '_' || c == '-'

/-! ### Places -/

/-- A place in a text, with what follows it. -/
structure Cursor where
  rest : List Char
  index : Nat := 0
  line : Nat := 0
  column : Nat := 0

namespace Cursor

/-- The beginning of a text, which ends before its first null character. -/
def ofText (text : List Char) : Cursor :=
  { rest := text.takeWhile fun c => !isEnd c }

/-- The character some places ahead. -/
def peekAt (cursor : Cursor) (distance : Nat) : Char :=
  (cursor.rest[distance]?).getD '\x00'

/-- The next character. -/
def peek (cursor : Cursor) : Char :=
  cursor.peekAt 0

/-- The place behind the next character. -/
def next (cursor : Cursor) : Cursor :=
  match cursor.rest with
  | [] => cursor
  | c :: rest =>
    if c == '\n' then { rest, index := cursor.index + 1, line := cursor.line + 1, column := 0 }
    else { cursor with rest, index := cursor.index + 1, column := cursor.column + 1 }

/-- The place some characters on. -/
def skip (cursor : Cursor) : Nat → Cursor
  | 0 => cursor
  | count + 1 => cursor.next.skip count

/-- The place behind the characters of a class that come next. -/
def skipWhile (cursor : Cursor) (isInside : Char → Bool) : Cursor :=
  cursor.skip (cursor.rest.takeWhile isInside).length

/-- The characters of a class that come next. -/
def span (cursor : Cursor) (isInside : Char → Bool) : List Char :=
  cursor.rest.takeWhile isInside

/-- The place behind a line end, if one comes next. -/
def skipBreak (cursor : Cursor) : Cursor :=
  if cursor.peek == '\r' && cursor.peekAt 1 == '\n' then cursor.skip 2
  else if isBreak cursor.peek then cursor.next
  else cursor

/-- The place at the end of the line, if a comment comes next. -/
def skipComment (cursor : Cursor) : Cursor :=
  if cursor.peek == '#' then cursor.skipWhile fun c => !isBreak c else cursor

/-- Whether three characters of a kind stand at the beginning of a line, and nothing else joins
them: the marks between documents. -/
def isAtMark (cursor : Cursor) (mark : Char) : Bool :=
  cursor.column == 0 && cursor.peek == mark && cursor.peekAt 1 == mark &&
    cursor.peekAt 2 == mark && isBoundary (cursor.peekAt 3)

/-- Whether the mark of a document's beginning or end comes next. -/
def isAtDocumentMark (cursor : Cursor) : Bool :=
  cursor.isAtMark '-' || cursor.isAtMark '.'

end Cursor

end PhasedLifecycle.Yaml
