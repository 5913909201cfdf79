import LineShell.Text.Basic

/-!
# Bytes and text

Text is stored as UTF-8.  Reading never fails: each maximal ill-formed piece of a byte sequence is
read as one replacement character.  The decoder is a fold over the bytes, so that what it makes of
two byte sequences in a row is what it makes of the second after the first.
-/

namespace LineShell

/-- A sequence of bytes. -/
abbrev Bytes := List UInt8

/-- The bytes that store a text. -/
def Text.utf8 (text : Text) : Bytes :=
  text.flatMap String.utf8EncodeChar

/-- The number of bytes that store a text. -/
def Text.utf8Size : Text → Nat
  | [] => 0
  | character :: rest => character.utf8Size + utf8Size rest

namespace Utf8

/-- What stands for an ill-formed piece. -/
def replacement : Char := '\uFFFD'

/-- Where a decoder stands between two bytes. -/
structure Decoder where
  /-- How many more bytes the started character needs; none is started at zero. -/
  needed : Nat
  /-- The bits of the started character so far. -/
  bits : Nat
  /-- The least value that the next byte may have. -/
  lower : Nat
  /-- The greatest value that the next byte may have. -/
  upper : Nat
  /-- The characters read so far, the last one first. -/
  output : Text

/-- A decoder between two characters. -/
def Decoder.resting (output : Text) : Decoder :=
  ⟨0, 0, 0x80, 0xBF, output⟩

/-- Takes a byte that begins a character, or can begin none. -/
def Decoder.begin (output : Text) (byte : Nat) : Decoder :=
  if byte < 0x80 then Decoder.resting (Char.ofNat byte :: output)
  else if byte < 0xC2 then Decoder.resting (replacement :: output)
  else if byte < 0xE0 then ⟨1, byte - 0xC0, 0x80, 0xBF, output⟩
  else if byte = 0xE0 then ⟨2, 0, 0xA0, 0xBF, output⟩
  else if byte = 0xED then ⟨2, 0xD, 0x80, 0x9F, output⟩
  else if byte < 0xF0 then ⟨2, byte - 0xE0, 0x80, 0xBF, output⟩
  else if byte = 0xF0 then ⟨3, 0, 0x90, 0xBF, output⟩
  else if byte < 0xF4 then ⟨3, byte - 0xF0, 0x80, 0xBF, output⟩
  else if byte = 0xF4 then ⟨3, 4, 0x80, 0x8F, output⟩
  else Decoder.resting (replacement :: output)

/-- Takes the next byte.  One that cannot continue the started character ends it as ill-formed and
is looked at afresh. -/
def Decoder.step (decoder : Decoder) (byte : UInt8) : Decoder :=
  let value := byte.toNat
  if decoder.needed = 0 then
    Decoder.begin decoder.output value
  else if decoder.lower ≤ value ∧ value ≤ decoder.upper then
    let bits := decoder.bits * 64 + (value - 0x80)
    if decoder.needed = 1 then Decoder.resting (Char.ofNat bits :: decoder.output)
    else ⟨decoder.needed - 1, bits, 0x80, 0xBF, decoder.output⟩
  else
    Decoder.begin (replacement :: decoder.output) value

/-- The text read, where a character that was started and not finished counts as ill-formed. -/
def Decoder.finish (decoder : Decoder) : Text :=
  if decoder.needed = 0 then decoder.output.reverse
  else (replacement :: decoder.output).reverse

/-- Reads bytes as text, with a replacement character for each maximal ill-formed piece. -/
def decode (bytes : Bytes) : Text :=
  (bytes.foldl Decoder.step (Decoder.resting [])).finish

/-- The text that a byte sequence stores, if it stores one exactly. -/
def decode? (bytes : Bytes) : Option Text :=
  let text := decode bytes
  if text.utf8 = bytes then some text else none

end Utf8

end LineShell
