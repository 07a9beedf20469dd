/-
This file writes texts the way diagnostics show values: a text between double quotes with its
special characters spelled out, and around it records, lists and maps. Reading a quoted text back
is not needed; what matters is that every line of a diagnostic can be told apart, so a character
that has no shape, or that would attach to its neighbour, is written by its number.
-/

import PhasedLifecycle.Text.Shape

namespace PhasedLifecycle.Text

/-! ### Numbers -/

/-- A number in base sixteen, without leading zeros and in small letters. -/
def hexadecimal (number : Nat) : String :=
  String.ofList (Nat.toDigits 16 number)

/-- A number in base ten, filled up with zeros on the left to a width. -/
def padded (width number : Nat) : String :=
  let digits := toString number
  String.ofList (List.replicate (width - digits.length) '0') ++ digits

/-! ### Quoted texts -/

/-- How one character stands between double quotes. -/
def quotedChar (c : Char) : String :=
  match c with
  | '\x00' => "\\0"
  | '\t' => "\\t"
  | '\r' => "\\r"
  | '\n' => "\\n"
  | '\"' => "\\\""
  | '\\' => "\\\\"
  | c =>
    if isShapeless c || isAttaching c then "\\u\x7b" ++ hexadecimal c.toNat ++ "\x7d"
    else c.toString

/-- The text between double quotes. -/
def quoted (text : String) : String :=
  "\"" ++ String.join (text.toList.map quotedChar) ++ "\""

/-! ### Records, lists and maps -/

/-- The fields of a record, separated by commas. -/
def fieldList (fields : List (String × String)) : String :=
  ", ".intercalate (fields.map fun (name, value) => name ++ ": " ++ value)

/-- A record with all its fields. -/
def record (name : String) (fields : List (String × String)) : String :=
  name ++ " \x7b " ++ fieldList fields ++ " \x7d"

/-- A record that shows only some of its fields. -/
def openRecord (name : String) (fields : List (String × String)) : String :=
  name ++ " \x7b " ++ fieldList fields ++ ", .. \x7d"

/-- Values in brackets. -/
def listing (values : List String) : String :=
  "[" ++ ", ".intercalate values ++ "]"

/-- Texts in brackets, each quoted. -/
def quotedListing (texts : List String) : String :=
  listing (texts.map quoted)

/-- Keys with their values, in braces. -/
def mapping (entries : List (String × String)) : String :=
  "\x7b" ++ fieldList entries ++ "\x7d"

end PhasedLifecycle.Text
