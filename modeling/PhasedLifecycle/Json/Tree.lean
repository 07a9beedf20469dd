/-
This file reads settings trees out of JSON documents. The outermost value must be an object.
Decimals are rounded by way of their leading digits: as many as fit a word of 64 bits make up a
number, which is then multiplied or divided by a power of ten, so the last bit may differ from that
of the nearest number.
-/

import PhasedLifecycle.Json.Reader
import PhasedLifecycle.Tree

namespace PhasedLifecycle.Json

/-! ### Decimals -/

/-- A decimal cut off after the digits that fit a word. -/
def leadingDigits (digits : Nat) (exponent : Int) : Nat × Int :=
  if digits < 0x10000000000000000 then (digits, exponent)
  else leadingDigits (digits / 10) (exponent + 1)
termination_by digits
decreasing_by omega

/-- A power of ten. -/
def powerOfTen (exponent : Nat) : Binary64 :=
  .ofDecimal ⟨false, 1, exponent⟩

/-- Shifts a number by a power of ten; absent where it becomes too great. -/
def shift? (exponent : Int) (number : Binary64) : Option Binary64 :=
  match number with
  | .finite _ 0 _ => some number
  | _ =>
    if 308 < exponent then none
    else if 0 ≤ exponent then
      match number.multiply (powerOfTen exponent.toNat) with
      | .infinite _ => none
      | product => some product
    else if -308 ≤ exponent then some (number.divide (powerOfTen (-exponent).toNat))
    else shift? (exponent + 308) (number.divide (powerOfTen 308))
termination_by (-exponent).toNat
decreasing_by omega

/-- The number that a decimal stands for; absent where it is too great. -/
def real? (decimal : Decimal) : Option Binary64 :=
  let (digits, exponent) := leadingDigits decimal.digits decimal.exponent
  shift? exponent (.ofFraction decimal.negative digits 1)

/-! ### Trees -/

mutual

/-- The tree that a document stands for. Whole numbers that fit no word with a sign are taken as
decimals. -/
def tree? : Json → Option Tree
  | .null => some .nothing
  | .bool value => some (.truth value)
  | .whole value =>
    if signed64.holds value then some (.whole value)
    else some (.real (.ofFraction false value.toNat 1))
  | .decimal value => (real? value).map .real
  | .text value => some (.text value)
  | .brokenText => none
  | .array items => (treesOfItems items).map .list
  | .object entries => (treesOfEntries entries).map .table

/-- The trees of the items of an array. -/
def treesOfItems : List Json → Option (List Tree)
  | [] => some []
  | item :: items => do return (← tree? item) :: (← treesOfItems items)

/-- The trees of the entries of an object; of a repeated key, the last counts. -/
def treesOfEntries : List (Option String × Json) → Option (List (String × Tree))
  | [] => some []
  | (key, value) :: entries => do
    let key ← key
    let value ← tree? value
    let entries ← treesOfEntries entries
    return if (entries.lookup key).isSome then entries else (key, value) :: entries

end

/-- How deep a document of settings may nest. -/
def deepestNesting : Nat := 127

/-- The entries that a text of settings holds. -/
def readSettings? (text : String) : Option (List (String × Tree)) := do
  let json ← read? text
  if deepestNesting < json.depth then none
  else match ← json.tree? with
    | .table entries => some entries
    | _ => none

end PhasedLifecycle.Json
