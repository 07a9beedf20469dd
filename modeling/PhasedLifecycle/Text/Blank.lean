/-
This file tabulates the characters that count as white space in text at large.
-/

namespace PhasedLifecycle.Text

/-- A white-space character: the blanks and line ends of ASCII, and the spaces and separators
beyond. -/
def isBlank (c : Char) : Bool :=
  let point := c.toNat
  (0x09 ≤ point && point ≤ 0x0d) || point == 0x20 || point == 0x85 || point == 0xa0 ||
    point == 0x1680 || (0x2000 ≤ point && point ≤ 0x200a) || point == 0x2028 || point == 0x2029 ||
    point == 0x202f || point == 0x205f || point == 0x3000

/-- The text from its first character on that is not white space. -/
def skipBlanks (text : List Char) : List Char :=
  text.dropWhile isBlank

end PhasedLifecycle.Text
