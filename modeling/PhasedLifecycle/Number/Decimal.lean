/-
This file reads numbers in decimal notation. A decimal is a sign, a run of digits and a power of
ten; whole numbers are read with their bounds.
-/

namespace PhasedLifecycle

/-! ### Digits -/

/-- A digit from zero to nine. -/
def isDigit (c : Char) : Bool :=
  '0' ≤ c && c ≤ '9'

/-- The value of a digit. -/
def digitValue (c : Char) : Nat :=
  c.toNat - '0'.toNat

/-- The number that digits write in base ten. -/
def digitsValue (digits : List Char) : Nat :=
  digits.foldl (fun value digit => value * 10 + digitValue digit) 0

/-- The value of a digit in a base up to sixteen. -/
def digitValueIn? (base : Nat) (c : Char) : Option Nat :=
  let value :=
    if isDigit c then digitValue c
    else if 'a' ≤ c && c ≤ 'f' then c.toNat - 'a'.toNat + 10
    else if 'A' ≤ c && c ≤ 'F' then c.toNat - 'A'.toNat + 10
    else 16
  if value < base then some value else none

/-- The number that at least one digit writes in a base up to sixteen. -/
def readNat? (base : Nat) : List Char → Option Nat
  | [] => none
  | digits => digits.foldlM (fun value c => (digitValueIn? base c).map (value * base + ·)) 0

/-- Divides a text into the digits it begins with and the rest. -/
def spanDigits (text : List Char) : List Char × List Char :=
  (text.takeWhile isDigit, text.dropWhile isDigit)

/-! ### Whole numbers -/

/-- A whole number between two bounds. -/
structure Bounds where
  least : Int
  most : Int

/-- Whether a number is within the bounds. -/
def Bounds.holds (bounds : Bounds) (number : Int) : Bool :=
  bounds.least ≤ number && number ≤ bounds.most

/-- Words of 64 bits without a sign. -/
def word64 : Bounds := ⟨0, 0xffffffffffffffff⟩

/-- Words of 64 bits with a sign. -/
def signed64 : Bounds := ⟨-0x8000000000000000, 0x7fffffffffffffff⟩

/-- Words of 32 bits with a sign. -/
def signed32 : Bounds := ⟨-0x80000000, 0x7fffffff⟩

/-- A whole number in a base up to sixteen, with or without a sign. -/
def readIntIn? (base : Nat) : List Char → Option Int
  | '+' :: digits => (readNat? base digits).map Int.ofNat
  | '-' :: digits => (readNat? base digits).map fun value => -Int.ofNat value
  | digits => (readNat? base digits).map Int.ofNat

/-- A whole number in decimal notation, with or without a sign. -/
def readInt? (text : List Char) : Option Int :=
  readIntIn? 10 text

/-- A whole number within bounds. Where the bounds allow no negative number, neither is a minus
sign allowed. -/
def Bounds.read? (bounds : Bounds) (text : List Char) : Option Int :=
  if 0 ≤ bounds.least && text.head? == some '-' then none
  else (readInt? text).filter bounds.holds

/-! ### Decimals -/

/-- A sign, digits and a power of ten: `0.25` is `⟨false, 25, -2⟩`. -/
structure Decimal where
  negative : Bool
  digits : Nat
  exponent : Int
  deriving DecidableEq

/-- An exponent: a sign or none, then at least one digit, then nothing. -/
def readExponent? : List Char → Option Int
  | 'e' :: rest => readInt? rest
  | 'E' :: rest => readInt? rest
  | [] => some 0
  | _ => none

/-- A decimal: digits with or without a point among them, at least one digit in all, and an
exponent or none. -/
def Decimal.read? (text : List Char) : Option Decimal :=
  let (negative, unsigned) := match text with
    | '-' :: rest => (true, rest)
    | '+' :: rest => (false, rest)
    | rest => (false, rest)
  let (whole, rest) := spanDigits unsigned
  let (fraction, rest) := match rest with
    | '.' :: rest => spanDigits rest
    | rest => ([], rest)
  if whole.isEmpty && fraction.isEmpty then none
  else (readExponent? rest).map fun exponent =>
    { negative
      digits := digitsValue (whole ++ fraction)
      exponent := exponent - fraction.length }

end PhasedLifecycle
