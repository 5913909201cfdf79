import LineShell.Text.Utf8

/-!
# Surrogate halves

Sixteen bits are too few for every character, so a character beyond the first 2^16 codes is written
as two halves, each from a range of its own that holds no characters.  A half that stands alone is
no character; it is read as the replacement character.
-/

namespace LineShell

namespace Utf16

/-- Whether a number is the first half of a pair. -/
def isHighHalf (code : Nat) : Bool :=
  0xD800 ≤ code && code ≤ 0xDBFF

/-- Whether a number is the second half of a pair. -/
def isLowHalf (code : Nat) : Bool :=
  0xDC00 ≤ code && code ≤ 0xDFFF

/-- The code of the character that two halves make. -/
def pairCode (high low : Nat) : Nat :=
  0x10000 + (high - 0xD800) * 0x400 + (low - 0xDC00)

/-- The character of a code, where a half stands for no character. -/
def character (code : Nat) : Char :=
  if isHighHalf code || isLowHalf code then Utf8.replacement else Char.ofNat code

/-- The text that a sequence of sixteen-bit units stores. -/
def ofUnits : List Nat → Text
  | [] => []
  | [unit] => [character unit]
  | high :: low :: rest =>
      if isHighHalf high && isLowHalf low then character (pairCode high low) :: ofUnits rest
      else character high :: ofUnits (low :: rest)

end Utf16

end LineShell
