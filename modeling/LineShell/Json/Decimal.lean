import LineShell.Text.Digits

/-!
# Numbers in decimal notation

A number with a fraction or an exponent is read in double precision.  Here it is decided, in exact
arithmetic, whether it is within the range of that.
-/

namespace LineShell.Json

/-- An unsigned number in decimal notation: the number that its digits make, moved by a power of
ten. -/
structure Decimal where
  /-- The digits, without zeros in front. -/
  digits : List Nat
  exponent : Int
  deriving DecidableEq

namespace Decimal

/-- The values of the digits `0` to `9` in a text. -/
def digitsOf (text : Text) : List Nat :=
  text.map fun character => character.toNat - 0x30

/-- The number with digits before and after the point and an exponent. -/
def ofParts (whole fraction : Text) (exponent : Int) : Decimal :=
  { digits := (digitsOf (whole ++ fraction)).dropWhile (· == 0)
    exponent := exponent - fraction.length }

/-- The exponent that a text after its mark spells: digits after a sign or without one. -/
def exponentOf : Text → Int
  | '-' :: digits => -(Digits.ofDigits (digitsOf digits) : Int)
  | '+' :: digits => Digits.ofDigits (digitsOf digits)
  | digits => Digits.ofDigits (digitsOf digits)

/-- The least number beyond the range: it lies half way between the greatest number of double
precision and the one that would come after it, and is rounded up. -/
def limit : Nat := Nat.pow 2 1024 - Nat.pow 2 970

/-- How many digits a number has before the point; a number less than one has a negative count if
zeros come right after the point. -/
def size (number : Decimal) : Int :=
  number.digits.length + number.exponent

/-- Whether a number is below the limit, which has 309 digits.  The digits themselves are looked at
only if it has as many. -/
def inRange (number : Decimal) : Bool :=
  if number.digits.isEmpty ∨ number.size < 309 then true
  else if 309 < number.size then false
  else
    match number.exponent with
    | .ofNat exponent => Digits.ofDigits number.digits * Nat.pow 10 exponent < limit
    | .negSucc exponent => Digits.ofDigits number.digits < limit * Nat.pow 10 (exponent + 1)

end Decimal

end LineShell.Json
