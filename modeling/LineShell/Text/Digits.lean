import LineShell.Text.Blank
import LineShell.Text.CodeRanges
import LineShell.Text.Quoted

/-!
# Whole numbers in any script

A number may be written with the decimal digits of any script, with a sign, with single underscores
between digits and with white space around it.
-/

namespace LineShell

namespace Digits

/-- The zeros of the decimal digit runs of all scripts (Unicode 14); nine digits follow each. -/
def zeros : List Nat :=
  [0x30, 0x660, 0x6F0, 0x7C0, 0x966, 0x9E6, 0xA66, 0xAE6, 0xB66, 0xBE6, 0xC66, 0xCE6, 0xD66, 0xDE6,
    0xE50, 0xED0, 0xF20, 0x1040, 0x1090, 0x17E0, 0x1810, 0x1946, 0x19D0, 0x1A80, 0x1A90, 0x1B50,
    0x1BB0, 0x1C40, 0x1C50, 0xA620, 0xA8D0, 0xA900, 0xA9D0, 0xA9F0, 0xAA50, 0xABF0, 0xFF10, 0x104A0,
    0x10D30, 0x11066, 0x110F0, 0x11136, 0x111D0, 0x112F0, 0x11450, 0x114D0, 0x11650, 0x116C0,
    0x11730, 0x118E0, 0x11950, 0x11C50, 0x11D50, 0x11DA0, 0x16A60, 0x16AC0, 0x16B50, 0x1D7CE,
    0x1D7D8, 0x1D7E2, 0x1D7EC, 0x1D7F6, 0x1E140, 0x1E2F0, 0x1E950, 0x1FBF0]

/-- The longest digit string that is read. -/
def maximalCount : Nat := 4300

/-- The value of a decimal digit. -/
def value? (character : Char) : Option Nat :=
  (zeros.find? fun first => first ≤ character.toNat && character.toNat < first + 10).map
    (character.toNat - ·)

/-- Ranges of digits that are not decimal ones: raised, lowered, circled and the like (Unicode 14).
-/
def symbolRanges : CodeRanges :=
  [ (0xB2, 0xB3), (0xB9, 0xB9), (0x1369, 0x1371), (0x19DA, 0x19DA), (0x2070, 0x2070),
    (0x2074, 0x2079), (0x2080, 0x2089), (0x2460, 0x2468), (0x2474, 0x247C), (0x2488, 0x2490),
    (0x24EA, 0x24EA), (0x24F5, 0x24FD), (0x24FF, 0x24FF), (0x2776, 0x277E), (0x2780, 0x2788),
    (0x278A, 0x2792), (0x10A40, 0x10A43), (0x10E60, 0x10E68), (0x11052, 0x1105A),
    (0x1F100, 0x1F10A)]

/-- Whether a character is a digit of any kind, decimal or not. -/
def isDigit (character : Char) : Bool :=
  (value? character).isSome || symbolRanges.holds character

/-- White space around a number: blank characters except the four information separators. -/
def isMargin (character : Char) : Bool :=
  isBlank character && !(0x1C ≤ character.toNat && character.toNat ≤ 0x1F)

/-- The digits of an unsigned number: non-empty groups with single underscores between them. -/
def groups? (text : Text) : Option (List Nat) :=
  let pieces := Text.splitOn '_' text
  if pieces.any List.isEmpty then none else pieces.flatten.mapM value?

/-- The number that a digit string denotes. -/
def ofDigits (digits : List Nat) : Nat :=
  digits.foldl (fun number digit => 10 * number + digit) 0

/-- The natural number that an unsigned digit text denotes. -/
def natural? (text : Text) : Option Nat := do
  let digits ← groups? text
  if digits.length ≤ maximalCount then some (ofDigits digits) else none

/-- Why a text of digits is refused as a number. -/
inductive Fault where
  /-- Not all of it are decimal digits. -/
  | notDecimal (text : Text)
  /-- It has more decimal digits than are read. -/
  | tooLong (count : Nat)
  deriving DecidableEq

/-- How much of a refused text a message shows. -/
def shownLength : Nat := 200

/-- The wording of a refused number. -/
def Fault.message : Fault → Text
  | .notDecimal text =>
      "invalid literal for int() with base 10: " ++ text.quoted.take shownLength
  | .tooLong count =>
      "Exceeds the limit (" ++ Text.ofNat maximalCount ++
        " digits) for integer string conversion: value has " ++ Text.ofNat count ++
        " digits; use sys.set_int_max_str_digits() to increase the limit"

/-- The number that a text of digits denotes, or why it is refused.  It has no sign, no margin and
no underscores. -/
def decimal (text : Text) : Except Fault Nat :=
  let leading := (text.takeWhile fun character => (value? character).isSome).length
  if maximalCount < leading then .error (.tooLong leading)
  else if text.isEmpty then .error (.notDecimal text)
  else
    match text.mapM value? with
    | some digits => .ok (ofDigits digits)
    | none => .error (.notDecimal text)

/-- The whole number that a text denotes, if it denotes one. -/
def integer? (text : Text) : Option Int :=
  match Text.trimWhere isMargin text with
  | '-' :: rest => (natural? rest).map fun number => -(number : Int)
  | '+' :: rest => (natural? rest).map fun number => (number : Int)
  | rest => (natural? rest).map fun number => (number : Int)

end Digits

/-- The text of a whole number in decimal. -/
def Text.ofInt : Int → Text
  | .ofNat number => Text.ofNat number
  | .negSucc number => '-' :: Text.ofNat (number + 1)

end LineShell
