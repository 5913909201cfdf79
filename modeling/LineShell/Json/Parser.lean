import LineShell.Json.Basic
import LineShell.Json.Decimal
import LineShell.Json.Encoding

/-!
# Reading JSON

A reader that reports the exact position at which the notation breaks.  Besides the standard
notation it takes `NaN`, `Infinity` and `-Infinity`.  No integer may have more digits than are read
of any number, and there is a limit to how deeply values are nested.
-/

namespace LineShell.Json

/-- A place in the text: how many characters are before it, and those after it. -/
structure Cursor where
  position : Nat
  rest : Text

namespace Cursor

/-- The place so many characters further on. -/
def advance (cursor : Cursor) (count : Nat) : Cursor :=
  ⟨cursor.position + count, cursor.rest.drop count⟩

/-- Whether a character may stand between the parts of a value. -/
def isSpace (character : Char) : Bool :=
  character == ' ' || character == '\t' || character == '\n' || character == '\r'

/-- The place after the white space. -/
def skipSpace (cursor : Cursor) : Cursor :=
  cursor.advance (cursor.rest.takeWhile isSpace).length

/-- What breaks the notation here. -/
def fail {α : Type} (cursor : Cursor) : Except Fault α :=
  .error (.malformed cursor.position)

end Cursor

/-! ### Strings -/

/-- The value of a hexadecimal digit. -/
def hexValue? (character : Char) : Option Nat :=
  if '0' ≤ character ∧ character ≤ '9' then some (character.toNat - 0x30)
  else if 'a' ≤ character ∧ character ≤ 'f' then some (character.toNat - 0x61 + 10)
  else if 'A' ≤ character ∧ character ≤ 'F' then some (character.toNat - 0x41 + 10)
  else none

/-- The number that four hexadecimal digits at the start of a text make. -/
def hexQuad? : Text → Option Nat
  | first :: second :: third :: fourth :: _ =>
      [first, second, third, fourth].foldlM
        (fun number digit => (hexValue? digit).map (16 * number + ·)) 0
  | _ => none

/-- What the character after a backslash stands for, the letter of a code apart. -/
def escaped? : Char → Option Char
  | '"' => some '"'
  | '\\' => some '\\'
  | '/' => some '/'
  | 'b' => some '\x08'
  | 'f' => some '\x0C'
  | 'n' => some '\n'
  | 'r' => some '\r'
  | 't' => some '\t'
  | _ => none

/-- The code that begins right after `\u` at a position, and how many characters it takes.  Two
codes in a row that make a surrogate pair are one; something has to follow them. -/
def codeAt (position : Nat) (text : Text) : Except Fault (Nat × Nat) :=
  if (text.drop 4).isEmpty then .error (.malformed (position + 1))
  else
    match hexQuad? text with
    | none => .error (.malformed (position + 1))
    | some high =>
        match text.drop 4 with
        | '\\' :: 'u' :: more =>
            if Utf16.isHighHalf high && !(more.drop 4).isEmpty then
              match hexQuad? more with
              | none => .error (.malformed (position + 7))
              | some low =>
                  if Utf16.isLowHalf low then .ok (Utf16.pairCode high low, 10)
                  else .ok (high, 4)
            else .ok (high, 4)
        | _ => .ok (high, 4)

/-- Reads a string from after its quote, in at most so many steps; `start` is the position of the
quote, and the letters so far come with the last one first. -/
def readLetters (start : Nat) : Nat → Cursor → Text → Except Fault (Text × Cursor)
  | 0, _, _ => .error .unreadable
  | steps + 1, cursor, letters =>
      match cursor.rest with
      | [] => .error (.malformed start)
      | '"' :: _ => .ok (letters.reverse, cursor.advance 1)
      | '\\' :: 'u' :: rest => do
          let (code, length) ← codeAt cursor.position rest
          readLetters start steps (cursor.advance (length + 2)) (Utf16.character code :: letters)
      | '\\' :: character :: _ =>
          match escaped? character with
          | some meant => readLetters start steps (cursor.advance 2) (meant :: letters)
          | none => cursor.fail
      | ['\\'] => .error (.malformed start)
      | character :: _ =>
          if character.toNat < 0x20 then cursor.fail
          else readLetters start steps (cursor.advance 1) (character :: letters)

/-- Reads a string from its quote. -/
def readString (cursor : Cursor) : Except Fault (Text × Cursor) :=
  readLetters cursor.position (cursor.rest.length + 1) (cursor.advance 1) []

/-! ### Numbers -/

/-- How many digits a text begins with. -/
def digitCount (text : Text) : Nat :=
  (text.takeWhile Char.isDigit).length

/-- How long the fraction is that a text begins with. -/
def fractionLength (text : Text) : Nat :=
  match text with
  | '.' :: rest => if digitCount rest = 0 then 0 else 1 + digitCount rest
  | _ => 0

/-- How long the exponent is that a text begins with. -/
def exponentLength (text : Text) : Nat :=
  match text with
  | mark :: rest =>
      if mark = 'e' ∨ mark = 'E' then
        let sign := match rest with
          | '+' :: _ | '-' :: _ => 1
          | _ => 0
        let digits := digitCount (rest.drop sign)
        if digits = 0 then 0 else 1 + sign + digits
      else 0
  | [] => 0

/-- Reads a number. -/
def readNumber (cursor : Cursor) : Except Fault (Value × Cursor) :=
  let sign := if cursor.rest.head? == some '-' then 1 else 0
  let digits := cursor.rest.drop sign
  let whole := if digits.head? == some '0' then 1 else digitCount digits
  if whole = 0 then cursor.fail
  else
    let fraction := fractionLength (digits.drop whole)
    let exponent := exponentLength (digits.drop (whole + fraction))
    let after := cursor.advance (sign + whole + fraction + exponent)
    if fraction + exponent = 0 then
      if Digits.maximalCount < whole then .error .unreadable else .ok (.number true, after)
    else
      let places := (digits.drop (whole + 1)).take (fraction - 1)
      let power := (digits.drop (whole + fraction + 1)).take (exponent - 1)
      let number := Decimal.ofParts (digits.take whole) places (Decimal.exponentOf power)
      .ok (.number number.inRange, after)

/-! ### Values -/

/-- The words that stand for values. -/
def words : List (Text × Value) :=
  [ ("null", .null), ("true", .bool true), ("false", .bool false), ("NaN", .number false),
    ("Infinity", .number false), ("-Infinity", .number false) ]

/-- The value of the word that a text begins with, and the word's length. -/
def wordAt? (text : Text) : Option (Value × Nat) :=
  (words.find? fun (word, _) => word.isPrefixOf text).map fun (word, value) =>
    (value, word.length)

/-- How deeply values may be nested. -/
def maximalDepth : Nat := 950

mutual

/-- Reads a value, in at most so many steps, with so many levels below it. -/
def readValue : Nat → Nat → Cursor → Except Fault (Value × Cursor)
  | 0, _, _ => .error .unreadable
  | steps + 1, depth, cursor =>
      match cursor.rest with
      | [] => cursor.fail
      | '"' :: _ => do
          let (text, after) ← readString cursor
          return (.text text, after)
      | '{' :: _ => do
          let (members, after) ← readObject steps depth (cursor.advance 1).skipSpace
          return (.object (lastOfEach members), after)
      | '[' :: _ => do
          let (items, after) ← readArray steps depth (cursor.advance 1).skipSpace
          return (.array items, after)
      | _ =>
          match wordAt? cursor.rest with
          | some (value, length) => .ok (value, cursor.advance length)
          | none => readNumber cursor

/-- Reads an array from after its bracket. -/
def readArray : Nat → Nat → Cursor → Except Fault (List Value × Cursor)
  | 0, _, _ => .error .unreadable
  | _, 0, _ => .error .unreadable
  | steps + 1, depth + 1, cursor =>
      match cursor.rest with
      | ']' :: _ => .ok ([], cursor.advance 1)
      | _ => readItems steps depth cursor

/-- Reads an object from after its bracket. -/
def readObject : Nat → Nat → Cursor → Except Fault (List (Text × Value) × Cursor)
  | 0, _, _ => .error .unreadable
  | _, 0, _ => .error .unreadable
  | steps + 1, depth + 1, cursor =>
      match cursor.rest with
      | '}' :: _ => .ok ([], cursor.advance 1)
      | _ => readMembers steps depth cursor

/-- Reads the items of an array up to its end. -/
def readItems : Nat → Nat → Cursor → Except Fault (List Value × Cursor)
  | 0, _, _ => .error .unreadable
  | steps + 1, depth, cursor => do
      let (value, after) ← readValue steps depth cursor
      let after := after.skipSpace
      match after.rest with
      | ']' :: _ => return ([value], after.advance 1)
      | ',' :: _ =>
          let (items, after) ← readItems steps depth (after.advance 1).skipSpace
          return (value :: items, after)
      | _ => after.fail

/-- Reads the members of an object up to its end. -/
def readMembers : Nat → Nat → Cursor → Except Fault (List (Text × Value) × Cursor)
  | 0, _, _ => .error .unreadable
  | steps + 1, depth, cursor =>
      match cursor.rest with
      | '"' :: _ => do
          let (name, after) ← readString cursor
          let colon := after.skipSpace
          match colon.rest with
          | ':' :: _ =>
              let (value, after) ← readValue steps depth (colon.advance 1).skipSpace
              let after := after.skipSpace
              match after.rest with
              | '}' :: _ => return ([(name, value)], after.advance 1)
              | ',' :: _ =>
                  let (members, after) ← readMembers steps depth (after.advance 1).skipSpace
                  return ((name, value) :: members, after)
              | _ => after.fail
          | _ => colon.fail
      | _ => cursor.fail

end

/-- Reads a text as one value with nothing but white space around it. -/
def parse (text : Text) : Except Fault Value := do
  let start := (Cursor.mk 0 text).skipSpace
  let (value, after) ← readValue (3 * text.length + 3) maximalDepth start
  let ending := after.skipSpace
  if ending.rest.isEmpty then return value else ending.fail

/-- Reads bytes as one value. -/
def read (bytes : Bytes) : Except Fault Value :=
  match textOf? bytes with
  | some text => parse text
  | none => .error .unreadable

end LineShell.Json
