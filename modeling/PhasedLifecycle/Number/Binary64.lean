/-
This file models floating-point numbers of 64 bits: a sign, a significand below `2 ^ 53` and a power
of two, or an infinity, or no number. Exact fractions are rounded to the nearest such number, and
of two equally near to the one with the even significand.
-/

import PhasedLifecycle.Number.Decimal

namespace PhasedLifecycle

/-- A floating-point number of 64 bits. -/
inductive Binary64 where
  | finite (negative : Bool) (significand : Nat) (exponent : Int)
  | infinite (negative : Bool)
  | nan
  deriving DecidableEq

namespace Binary64

/-! ### Rounding fractions -/

/-- The quotient rounded to the nearest whole number, a half to the even one. -/
def divideToEven (numerator denominator : Nat) : Nat :=
  let quotient := numerator / denominator
  let twice := 2 * (numerator % denominator)
  if denominator < twice || (twice == denominator && quotient % 2 == 1) then quotient + 1
  else quotient

/-- The quotient of a fraction and a power of two, as a fraction. -/
def scaled (numerator denominator : Nat) (exponent : Int) : Nat × Nat :=
  if 0 ≤ exponent then (numerator, denominator * Nat.pow 2 exponent.toNat)
  else (numerator * Nat.pow 2 (-exponent).toNat, denominator)

/-- The exponent under which a fraction has a significand of 53 bits, or the least there is. -/
def exponentOf (numerator denominator : Nat) : Int :=
  let guess : Int := (numerator.log2 : Int) - denominator.log2 - 52
  let (top, bottom) := scaled numerator denominator guess
  let exponent := if top / bottom < Nat.pow 2 52 then guess - 1 else guess
  max exponent (-1074)

/-- The number nearest to a fraction. -/
def ofFraction (negative : Bool) (numerator denominator : Nat) : Binary64 :=
  if numerator = 0 then .finite negative 0 0
  else
    let exponent := exponentOf numerator denominator
    let (top, bottom) := scaled numerator denominator exponent
    let significand := divideToEven top bottom
    if Nat.pow 2 1024 ≤ significand * Nat.pow 2 exponent.toNat then .infinite negative
    else .finite negative significand exponent

/-- The number nearest to a decimal. Decimals with too many places before or behind the point are
told apart without writing the places out. -/
def ofDecimal (decimal : Decimal) : Binary64 :=
  let places := (Nat.toDigits 10 decimal.digits).length + decimal.exponent
  if decimal.digits = 0 || places < -400 then .finite decimal.negative 0 0
  else if 400 < places then .infinite decimal.negative
  else if 0 ≤ decimal.exponent then
    ofFraction decimal.negative (decimal.digits * Nat.pow 10 decimal.exponent.toNat) 1
  else ofFraction decimal.negative decimal.digits (Nat.pow 10 (-decimal.exponent).toNat)

/-! ### Products and quotients of finite numbers -/

/-- The size of a finite number as a fraction. -/
def fractionOf (significand : Nat) (exponent : Int) : Nat × Nat :=
  if 0 ≤ exponent then (significand * Nat.pow 2 exponent.toNat, 1)
  else (significand, Nat.pow 2 (-exponent).toNat)

/-- The product of a number and a positive factor, rounded. -/
def multiply (number factor : Binary64) : Binary64 :=
  match number, factor with
  | .finite negative significand exponent, .finite _ otherSignificand otherExponent =>
    let (top, bottom) := fractionOf significand exponent
    let (otherTop, otherBottom) := fractionOf otherSignificand otherExponent
    ofFraction negative (top * otherTop) (bottom * otherBottom)
  | _, _ => .nan

/-- The quotient of a number and a positive divisor, rounded. -/
def divide (number divisor : Binary64) : Binary64 :=
  match number, divisor with
  | .finite negative significand exponent, .finite _ otherSignificand otherExponent =>
    let (top, bottom) := fractionOf significand exponent
    let (otherTop, otherBottom) := fractionOf otherSignificand otherExponent
    ofFraction negative (top * otherBottom) (bottom * otherTop)
  | _, _ => .nan

/-! ### Reading -/

/-- Words that stand for numbers without digits. -/
def ofWord? (text : List Char) : Option Binary64 :=
  let (negative, word) := match text with
    | '-' :: rest => (true, rest)
    | '+' :: rest => (false, rest)
    | rest => (false, rest)
  match String.ofList (word.map Char.toLower) with
  | "inf" | "infinity" => some (.infinite negative)
  | "nan" => some .nan
  | _ => none

/-- A floating-point number in decimal notation, or a word that stands for one. -/
def read? (text : List Char) : Option Binary64 :=
  match ofWord? text with
  | some number => some number
  | none => (Decimal.read? text).map ofDecimal

/-! ### Whole words -/

/-- The nearest word of 64 bits without a sign. A half goes away from zero, what lies beyond the
ends goes to the ends, and what is no number to zero. -/
def toWord64 : Binary64 → Nat
  | .nan => 0
  | .infinite true => 0
  | .infinite false => 0xffffffffffffffff
  | .finite true _ _ => 0
  | .finite false significand exponent =>
    let whole :=
      if 0 ≤ exponent then significand * Nat.pow 2 exponent.toNat
      else (significand + Nat.pow 2 ((-exponent).toNat - 1)) / Nat.pow 2 (-exponent).toNat
    min whole 0xffffffffffffffff

end Binary64

end PhasedLifecycle
