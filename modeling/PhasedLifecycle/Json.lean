/-
This file holds JSON documents and writes them in compact form. Numbers are kept as they were
written: whole numbers that fit a word of 64 bits, with or without a sign, and decimals. A text
whose escapes do not make up characters is kept as a broken text, because only readers that want
it must refuse it.
-/

import PhasedLifecycle.Number.Decimal
import PhasedLifecycle.Text.Quoted

namespace PhasedLifecycle

/-- A JSON document. Of an object, the entries stand in the order in which they were written, with
repeated keys. -/
inductive Json where
  | null
  | bool (value : Bool)
  | whole (value : Int)
  | decimal (value : Decimal)
  | text (value : String)
  | brokenText
  | array (items : List Json)
  | object (entries : List (Option String × Json))

namespace Json

/-- An object with proper keys. -/
def ofEntries (entries : List (String × Json)) : Json :=
  .object (entries.map fun (key, value) => (some key, value))

/-- An array of texts. -/
def texts (values : List String) : Json :=
  .array (values.map .text)

/-! ### Writing -/

/-- How one character stands in a written text. -/
def writtenChar (c : Char) : String :=
  match c with
  | '\"' => "\\\""
  | '\\' => "\\\\"
  | '\x08' => "\\b"
  | '\x0c' => "\\f"
  | '\n' => "\\n"
  | '\r' => "\\r"
  | '\t' => "\\t"
  | c =>
    if c.val < 0x20 then
      let digits := Text.hexadecimal c.toNat
      "\\u" ++ String.ofList (List.replicate (4 - digits.length) '0') ++ digits
    else c.toString

/-- A written text. -/
def writtenText (text : String) : String :=
  "\"" ++ String.join (text.toList.map writtenChar) ++ "\""

/-- A written decimal. -/
def writtenDecimal (decimal : Decimal) : String :=
  (if decimal.negative then "-" else "") ++ toString decimal.digits ++ "e" ++
    toString decimal.exponent

mutual

/-- The document in compact form. -/
def write : Json → String
  | .null => "null"
  | .bool value => toString value
  | .whole value => toString value
  | .decimal value => writtenDecimal value
  | .text value => writtenText value
  | .brokenText => writtenText ""
  | .array items => "[" ++ ",".intercalate (writeItems items) ++ "]"
  | .object entries => "\x7b" ++ ",".intercalate (writeEntries entries) ++ "\x7d"

/-- The written items of an array. -/
def writeItems : List Json → List String
  | [] => []
  | item :: items => item.write :: writeItems items

/-- The written entries of an object. -/
def writeEntries : List (Option String × Json) → List String
  | [] => []
  | (key, value) :: entries =>
    (writtenText (key.getD "") ++ ":" ++ value.write) :: writeEntries entries

end

/-! ### Writing over several lines -/

/-- Written parts, each on a line of its own. -/
def lines (indent opening closing : String) (parts : List String) : String :=
  if parts.isEmpty then opening ++ closing
  else opening ++ "\n" ++ ",\n".intercalate (parts.map (indent ++ "  " ++ ·)) ++ "\n" ++ indent ++
    closing

mutual

/-- The document over several lines, two blanks deeper at each level. -/
def writeIndented (indent : String) : Json → String
  | .array items => lines indent "[" "]" (indentItems (indent ++ "  ") items)
  | .object entries => lines indent "\x7b" "\x7d" (indentEntries (indent ++ "  ") entries)
  | other => other.write

/-- The written items of an array. -/
def indentItems (indent : String) : List Json → List String
  | [] => []
  | item :: items => item.writeIndented indent :: indentItems indent items

/-- The written entries of an object. -/
def indentEntries (indent : String) : List (Option String × Json) → List String
  | [] => []
  | (key, value) :: entries =>
    (writtenText (key.getD "") ++ ": " ++ value.writeIndented indent) ::
      indentEntries indent entries

end

/-! ### Looking into documents -/

/-- How deep arrays and objects nest. -/
def depth : Json → Nat
  | .array items => (depthOfItems items) + 1
  | .object entries => (depthOfEntries entries) + 1
  | _ => 0
where
  depthOfItems : List Json → Nat
    | [] => 0
    | item :: items => max item.depth (depthOfItems items)
  depthOfEntries : List (Option String × Json) → Nat
    | [] => 0
    | (_, value) :: entries => max value.depth (depthOfEntries entries)

/-- The value of a key in an object; of several, the last. -/
def get? (json : Json) (key : String) : Option Json :=
  match json with
  | .object entries => (entries.reverse.find? (·.1 == some key)).map (·.2)
  | _ => none

/-- The value of a text. -/
def text? : Json → Option String
  | .text value => some value
  | _ => none

/-- The value of a truth value. -/
def bool? : Json → Option Bool
  | .bool value => some value
  | _ => none

/-- The value of a whole number within bounds. -/
def whole? (bounds : Bounds) : Json → Option Int
  | .whole value => if bounds.holds value then some value else none
  | _ => none

/-- The items of an array. -/
def items? : Json → Option (List Json)
  | .array items => some items
  | _ => none

end Json

end PhasedLifecycle
