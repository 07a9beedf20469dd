/-
This file divides the text of a YAML document into tokens. Indentation becomes tokens of its own: a
collection that is opened by indentation is also closed by a token. That a value is a key is only
seen at the colon behind it, so a scanner remembers, for each level of brackets, the token that may
still turn out to be a key. Tokens are only ever appended; the marks in front of keys are noted with
the place they belong to, and are put in at the end.
-/

import PhasedLifecycle.Yaml.Scalar

namespace PhasedLifecycle.Yaml

/-! ### Tokens -/

/-- How a scalar is written. -/
inductive Style where
  | plain
  | quoted
  | block
  deriving DecidableEq

/-- A token. -/
inductive Token where
  | directive
  | documentStart
  | documentEnd
  | blockSequence
  | blockMapping
  | blockEnd
  | flowSequence
  | flowSequenceEnd
  | flowMapping
  | flowMappingEnd
  | blockEntry
  | flowEntry
  | key
  | value
  | alias (name : String)
  | anchor (name : String)
  | tag (handle suffix : String)
  | scalar (style : Style) (text : String)
  deriving DecidableEq

/-- A token that may turn out to be a key: its place among the tokens and in the text. -/
structure Candidate where
  place : Nat
  index : Nat
  line : Nat
  column : Nat
  /-- Whether anything but a key would be malformed there. -/
  isRequired : Bool

/-- A key that was found out, with the place of its token. Before the first key of a mapping stands
the beginning of the mapping. -/
structure FoundKey where
  place : Nat
  opensMapping : Bool

/-- A text being divided into tokens. -/
structure Scanner where
  cursor : Cursor
  /-- The tokens so far, in reverse. -/
  tokens : List Token := []
  foundKeys : List FoundKey := []
  /-- The candidates of the levels of brackets, the innermost first. -/
  candidates : List (Option Candidate) := [none]
  /-- Whether a key may begin here. -/
  allowsKey : Bool := true
  /-- The column of the innermost collection opened by indentation. -/
  indent : Int := -1
  /-- The columns of the collections around it. -/
  outerIndents : List Int := []
  /-- The index right behind a quoted scalar: a colon there needs no gap between brackets. -/
  behindQuote : Option Nat := none

namespace Scanner

/-- How many brackets are open. -/
def flowDepth (scanner : Scanner) : Nat :=
  scanner.candidates.length - 1

/-- Whether brackets are open. -/
def isInFlow (scanner : Scanner) : Bool :=
  0 < scanner.flowDepth

/-- Appends a token. -/
def push (scanner : Scanner) (token : Token) : Scanner :=
  { scanner with tokens := token :: scanner.tokens }

/-- Appends a token that takes some characters. -/
def take (scanner : Scanner) (length : Nat) (token : Token) : Scanner :=
  { scanner.push token with cursor := scanner.cursor.skip length }

/-- States whether a key may begin next. -/
def allow (scanner : Scanner) (allowsKey : Bool) : Scanner :=
  { scanner with allowsKey }

/-! ### Keys -/

/-- Gives up the innermost candidate, unless it has to be a key. -/
def dropCandidate? (scanner : Scanner) : Option Scanner :=
  match scanner.candidates with
  | some candidate :: outer =>
    if candidate.isRequired then none else some { scanner with candidates := none :: outer }
  | _ => some scanner

/-- Makes the next token a candidate, if a key may begin here. -/
def noteCandidate? (scanner : Scanner) : Option Scanner :=
  if !scanner.allowsKey then some scanner
  else do
    let scanner ← scanner.dropCandidate?
    let cursor := scanner.cursor
    let candidate : Candidate :=
      { place := scanner.tokens.length
        index := cursor.index
        line := cursor.line
        column := cursor.column
        isRequired := scanner.isInFlow && scanner.indent == cursor.column }
    return { scanner with candidates := some candidate :: scanner.candidates.drop 1 }

/-- How far a key may be from the colon behind it. -/
def longestKey : Nat := 1024

/-- Gives up the candidates that the scanner has left behind: a key and its colon stand on one line
and not too far apart. -/
def dropStale? (scanner : Scanner) : Option Scanner := do
  let cursor := scanner.cursor
  let candidates ← scanner.candidates.mapM fun candidate =>
    match candidate with
    | none => some none
    | some candidate =>
      if candidate.line < cursor.line || candidate.index + longestKey < cursor.index then
        if candidate.isRequired then none else some none
      else some (some candidate)
  return { scanner with candidates }

/-! ### Indentation -/

/-- Opens a collection at a column right of the innermost one; says whether it was opened. -/
def indentTo (scanner : Scanner) (column : Nat) : Bool × Scanner :=
  if scanner.isInFlow || (column : Int) ≤ scanner.indent then (false, scanner)
  else
    (true, { scanner with
      indent := column, outerIndents := scanner.indent :: scanner.outerIndents })

/-- Opens a collection by a token where the column asks for it. -/
def openBlock (scanner : Scanner) (token : Token) : Scanner :=
  match scanner.indentTo scanner.cursor.column with
  | (true, scanner) => scanner.push token
  | (false, scanner) => scanner

/-- Closes collections as long as they stand right of a column. -/
def closeBlocks (column indent : Int) : List Int → Scanner → Scanner
  | outer :: outerIndents, scanner =>
    if column < indent then closeBlocks column outer outerIndents (scanner.push .blockEnd)
    else { scanner with indent, outerIndents := outer :: outerIndents }
  | [], scanner => { scanner with indent, outerIndents := [] }

/-- Closes the collections right of a column; between brackets, indentation closes nothing. -/
def unindentTo (scanner : Scanner) (column : Int) : Scanner :=
  if scanner.isInFlow then scanner
  else closeBlocks column scanner.indent scanner.outerIndents scanner

/-! ### What stands between tokens -/

/-- Skips gaps, comments and line ends. A tab counts as a gap only where no key may begin. -/
def skipGaps : Nat → Scanner → Scanner
  | 0, scanner => scanner
  | fuel + 1, scanner =>
    let cursor := scanner.cursor
    let c := cursor.peek
    if c == ' ' || (c == '\t' && (scanner.isInFlow || !scanner.allowsKey)) then
      skipGaps fuel { scanner with cursor := cursor.next }
    else if isBreak c then
      skipGaps fuel
        { scanner with
          cursor := cursor.skipBreak, allowsKey := scanner.allowsKey || !scanner.isInFlow }
    else if c == '#' then skipGaps fuel { scanner with cursor := cursor.skipComment }
    else scanner

/-! ### Directives, anchors and tags -/

/-- A character of the address in a tag. -/
def isAddressChar (c : Char) : Bool :=
  isNameChar c || ";/?:@&=+$,.!~*'()[]%".toList.contains c

/-- The bytes of a character that an address spells out in base sixteen. -/
def readSpelledOut? (cursor : Cursor) : Option (Char × Cursor) := do
  let readByte (cursor : Cursor) : Option Nat :=
    if cursor.peek == '%' then
      (readNat? 16 (cursor.next.rest.take 2)).filter fun _ => 2 ≤ cursor.next.rest.length
    else none
  let first ← readByte cursor
  let (count, head) ←
    if first < 0x80 then some (1, first)
    else if 0xc0 ≤ first && first < 0xe0 then some (2, first % 0x20)
    else if 0xe0 ≤ first && first < 0xf0 then some (3, first % 0x10)
    else if 0xf0 ≤ first && first < 0xf8 then some (4, first % 0x08)
    else none
  let rest ← ((List.range (count - 1)).mapM fun number => do
    let byte ← readByte (cursor.skip (3 * (number + 1)))
    if 0x80 ≤ byte && byte < 0xc0 then some (byte % 0x40) else none)
  let point := rest.foldl (fun value byte => value * 0x40 + byte) head
  if point.isValidChar then return (Char.ofNat point, cursor.skip (3 * count)) else none

/-- The address in a tag, behind what was read of it already. -/
def readAddress (read : List Char) : Nat → Cursor → Option (String × Cursor)
  | 0, cursor => some (String.ofList read.reverse, cursor)
  | fuel + 1, cursor =>
    let c := cursor.peek
    if c == '%' then
      match readSpelledOut? cursor with
      | some (c, cursor) => readAddress (c :: read) fuel cursor
      | none => none
    else if isAddressChar c then readAddress (c :: read) fuel cursor.next
    else some (String.ofList read.reverse, cursor)

/-- The handle of a tag, as far as it goes: an exclamation mark, a name, and perhaps a second
mark. -/
def readHandle? (cursor : Cursor) : Option (String × Cursor) :=
  if cursor.peek != '!' then none
  else
    let name := cursor.next.span isNameChar
    let behind := cursor.next.skip name.length
    if behind.peek == '!' then some (String.ofList ('!' :: name ++ ['!']), behind.next)
    else some (String.ofList ('!' :: name), behind)

/-- A tag. -/
def readTag? (cursor : Cursor) : Option (Token × Cursor) := do
  let length := cursor.rest.length + 1
  let (token, cursor) ←
    if cursor.peekAt 1 == '<' then do
      let (suffix, cursor) ← readAddress [] length (cursor.skip 2)
      if suffix.isEmpty || cursor.peek != '>' then none
      else pure (Token.tag "" suffix, cursor.next)
    else do
      let (handle, cursor) ← readHandle? cursor
      if 2 ≤ handle.length && handle.endsWith "!" then do
        let (suffix, cursor) ← readAddress [] length cursor
        if suffix.isEmpty then none else pure (Token.tag handle suffix, cursor)
      else do
        let (suffix, cursor) ← readAddress (handle.toList.drop 1).reverse length cursor
        pure (if suffix.isEmpty then Token.tag "" "!" else Token.tag "!" suffix, cursor)
  if isBoundary cursor.peek then return (token, cursor) else none

/-- The digits of a version number. -/
def skipVersionNumber? (cursor : Cursor) : Option Cursor :=
  let digits := cursor.span isDigit
  if digits.isEmpty || 9 < digits.length then none else some (cursor.skip digits.length)

/-- Skips a directive: its name, its arguments, and the rest of the line. -/
def skipDirective? (cursor : Cursor) : Option Cursor := do
  let name := cursor.next.span isNameChar
  let cursor := cursor.next.skip name.length
  if name.isEmpty || !isBoundary cursor.peek then none
  else
    let cursor ← match String.ofList name with
      | "YAML" => do
        let cursor ← skipVersionNumber? (cursor.skipWhile isGap)
        if cursor.peek != '.' then none else skipVersionNumber? cursor.next
      | "TAG" => do
        let (handle, cursor) ← readHandle? (cursor.skipWhile isGap)
        if handle != "!" && !(2 ≤ handle.length && handle.endsWith "!") then none
        else
          let (address, cursor) ← readAddress [] (cursor.rest.length + 1) (cursor.skipWhile isGap)
          if address.isEmpty || !isBoundary cursor.peek then none else pure cursor
      | _ => pure (cursor.skipWhile fun c => !isBreak c)
    let cursor := (cursor.skipWhile isGap).skipComment
    if isBreakOrEnd cursor.peek then return cursor.skipBreak else none

/-- The name of an anchor or an alias, behind its mark. -/
def readAnchorName? (cursor : Cursor) : Option (String × Cursor) :=
  let name := cursor.next.span isNameChar
  let behind := cursor.next.skip name.length
  let c := behind.peek
  if !name.isEmpty && (isBoundary c || "?:,]\x7d%@`".toList.contains c) then
    some (String.ofList name, behind)
  else none

/-! ### Single tokens -/

/-- The mark between documents. -/
def takeDocumentMark? (scanner : Scanner) (token : Token) : Option Scanner := do
  let scanner ← (scanner.unindentTo (-1)).dropCandidate?
  return (scanner.take 3 token).allow false

/-- An opening bracket. -/
def takeOpening? (scanner : Scanner) (token : Token) : Option Scanner := do
  let scanner ← scanner.noteCandidate?
  if 255 ≤ scanner.flowDepth then none
  else return { (scanner.take 1 token).allow true with candidates := none :: scanner.candidates }

/-- A closing bracket. -/
def takeClosing? (scanner : Scanner) (token : Token) : Option Scanner := do
  let scanner ← scanner.dropCandidate?
  let candidates :=
    if scanner.isInFlow then scanner.candidates.drop 1 else scanner.candidates
  return { (scanner.take 1 token).allow false with candidates }

/-- A comma between brackets. -/
def takeFlowEntry? (scanner : Scanner) : Option Scanner := do
  let scanner ← scanner.dropCandidate?
  return (scanner.take 1 .flowEntry).allow true

/-- The dash before an item. -/
def takeBlockEntry? (scanner : Scanner) : Option Scanner :=
  if scanner.isInFlow || !scanner.allowsKey then none
  else do
    let scanner ← (scanner.openBlock .blockSequence).dropCandidate?
    return (scanner.take 1 .blockEntry).allow true

/-- The question mark before a key. -/
def takeKey? (scanner : Scanner) : Option Scanner :=
  if !scanner.isInFlow && !scanner.allowsKey then none
  else do
    let scanner ← (scanner.openBlock .blockMapping).dropCandidate?
    return (scanner.take 1 .key).allow (!scanner.isInFlow)

/-- The colon before a value. A candidate becomes a key by it. -/
def takeValue? (scanner : Scanner) : Option Scanner :=
  match scanner.candidates with
  | some candidate :: outer =>
    let (opensMapping, scanner) := scanner.indentTo candidate.column
    let foundKeys := { place := candidate.place, opensMapping } :: scanner.foundKeys
    some { (scanner.take 1 .value).allow false with candidates := none :: outer, foundKeys }
  | _ =>
    if scanner.isInFlow then some ((scanner.take 1 .value).allow false)
    else if !scanner.allowsKey then none
    else some (((scanner.openBlock .blockMapping).take 1 .value).allow true)

/-- An anchor or an alias. -/
def takeAnchor? (scanner : Scanner) (token : String → Token) : Option Scanner := do
  let scanner ← scanner.noteCandidate?
  let (name, cursor) ← readAnchorName? scanner.cursor
  return { (scanner.push (token name)).allow false with cursor }

/-- A tag. -/
def takeTag? (scanner : Scanner) : Option Scanner := do
  let scanner ← scanner.noteCandidate?
  let (token, cursor) ← readTag? scanner.cursor
  return { (scanner.push token).allow false with cursor }

/-- A block of lines. -/
def takeBlock? (scanner : Scanner) (isLiteral : Bool) : Option Scanner := do
  let scanner ← scanner.noteCandidate?
  let (text, cursor) ← readBlock? isLiteral scanner.indent scanner.cursor.next
  return { (scanner.push (.scalar .block text)).allow true with cursor }

/-- A quoted scalar. -/
def takeQuoted? (scanner : Scanner) (quote : Char) : Option Scanner := do
  let scanner ← scanner.noteCandidate?
  let (text, cursor) ← readQuoted quote [] (scanner.cursor.rest.length + 1) scanner.cursor.next
  return { (scanner.push (.scalar .quoted text)).allow false with
    cursor, behindQuote := some cursor.index }

/-- A plain scalar. -/
def takePlain? (scanner : Scanner) : Option Scanner := do
  let scanner ← scanner.noteCandidate?
  let (text, leftLine, cursor) ←
    readPlain scanner.isInFlow (scanner.indent + 1) [] {} (scanner.cursor.rest.length + 1)
      scanner.cursor
  return { (scanner.push (.scalar .plain text)).allow leftLine with cursor }

/-- A directive. -/
def takeDirective? (scanner : Scanner) : Option Scanner := do
  let scanner ← (scanner.unindentTo (-1)).dropCandidate?
  let cursor ← skipDirective? scanner.cursor
  return { (scanner.push .directive).allow false with cursor }

/-! ### The whole text -/

/-- The token at the cursor; there is one. -/
def takeToken? (scanner : Scanner) : Option Scanner :=
  let cursor := scanner.cursor
  let c := cursor.peek
  let after := cursor.peekAt 1
  let standsAlone := isBoundary after
  if cursor.column == 0 && c == '%' then scanner.takeDirective?
  else if cursor.isAtMark '-' then scanner.takeDocumentMark? .documentStart
  else if cursor.isAtMark '.' then scanner.takeDocumentMark? .documentEnd
  else if c == '[' then scanner.takeOpening? .flowSequence
  else if c == '\x7b' then scanner.takeOpening? .flowMapping
  else if c == ']' then scanner.takeClosing? .flowSequenceEnd
  else if c == '\x7d' then scanner.takeClosing? .flowMappingEnd
  else if c == ',' then scanner.takeFlowEntry?
  else if c == '-' && standsAlone then scanner.takeBlockEntry?
  else if c == '?' && standsAlone then scanner.takeKey?
  else if c == ':' && (standsAlone ||
      (scanner.isInFlow && (isFlowMark after || scanner.behindQuote == some cursor.index))) then
    scanner.takeValue?
  else if c == '*' then scanner.takeAnchor? .alias
  else if c == '&' then scanner.takeAnchor? .anchor
  else if c == '!' then scanner.takeTag?
  else if c == '|' && !scanner.isInFlow then scanner.takeBlock? true
  else if c == '>' && !scanner.isInFlow then scanner.takeBlock? false
  else if c == '\'' || c == '\"' then scanner.takeQuoted? c
  else if c == '%' || c == '@' || c == '`' then none
  else scanner.takePlain?

/-- Takes all tokens. The fuel bounds their number. -/
def takeAll? : Nat → Scanner → Option Scanner
  | 0, _ => none
  | fuel + 1, scanner => do
    let scanner ← (skipGaps (scanner.cursor.rest.length + 1) scanner).dropStale?
    let scanner := scanner.unindentTo scanner.cursor.column
    if isEnd scanner.cursor.peek then (scanner.unindentTo (-1)).dropCandidate?
    else
      let scanner ← scanner.takeToken?
      takeAll? fuel scanner

end Scanner

/-- The marks to put in front of the token at a place. -/
def marksAt (foundKeys : List FoundKey) (place : Nat) : List Token :=
  foundKeys.flatMap fun found =>
    if found.place = place then (if found.opensMapping then [.blockMapping] else []) ++ [.key]
    else []

/-- The tokens of a text. -/
def tokens? (text : List Char) : Option (List Token) := do
  let scanner ← Scanner.takeAll? (text.length + 1) { cursor := Cursor.ofText text }
  return scanner.tokens.reverse.zipIdx.flatMap fun (token, place) =>
    marksAt scanner.foundKeys place ++ [token]

end PhasedLifecycle.Yaml
