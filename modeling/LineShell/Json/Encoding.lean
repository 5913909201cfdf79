import LineShell.Json.Basic
import LineShell.Text.Utf16

/-!
# How JSON is stored

The bytes of a JSON text tell by themselves how many of them make a character: either they begin
with a mark, or the zeros among the first four show it, since the first two characters are never
beyond ASCII.
-/

namespace LineShell.Json

/-- Which byte of a unit comes first. -/
inductive ByteOrder where
  | greatestFirst
  | leastFirst
  deriving DecidableEq

/-- How a text is stored: in units of one, two or four bytes. -/
inductive Encoding where
  | single
  | double (order : ByteOrder)
  | quadruple (order : ByteOrder)
  deriving DecidableEq

/-- The number that the bytes of one unit make. -/
def ByteOrder.number (order : ByteOrder) (bytes : Bytes) : Nat :=
  let greatestFirst := match order with
    | .greatestFirst => bytes
    | .leastFirst => bytes.reverse
  greatestFirst.foldl (fun number byte => 256 * number + byte.toNat) 0

/-- The units of two bytes, if no byte is left over. -/
def doubles? (order : ByteOrder) : Bytes → Option (List Nat)
  | [] => some []
  | [_] => none
  | first :: second :: rest =>
      (doubles? order rest).map (order.number [first, second] :: ·)

/-- The units of four bytes, if no byte is left over. -/
def quadruples? (order : ByteOrder) : Bytes → Option (List Nat)
  | [] => some []
  | first :: second :: third :: fourth :: rest =>
      (quadruples? order rest).map (order.number [first, second, third, fourth] :: ·)
  | _ => none

namespace Encoding

/-- The greatest code of a character. -/
def greatestCode : Nat := 0x10FFFF

/-- The text that bytes store. -/
def decode? (encoding : Encoding) (bytes : Bytes) : Option Text :=
  match encoding with
  | .single => Utf8.decode? bytes
  | .double order => (doubles? order bytes).map Utf16.ofUnits
  | .quadruple order => do
      let codes ← quadruples? order bytes
      if codes.all (· ≤ greatestCode) then some (codes.map Utf16.character) else none

/-- The marks that a text may begin with, which are no part of it. -/
def marks : List (Bytes × Encoding) :=
  [ ([0x00, 0x00, 0xFE, 0xFF], .quadruple .greatestFirst),
    ([0xFF, 0xFE, 0x00, 0x00], .quadruple .leastFirst),
    ([0xFE, 0xFF], .double .greatestFirst),
    ([0xFF, 0xFE], .double .leastFirst),
    ([0xEF, 0xBB, 0xBF], .single) ]

/-- The encoding that the zeros among the first bytes show. -/
def ofZeros : Bytes → Encoding
  | first :: second :: third :: fourth :: _ =>
      if first = 0 then
        if second = 0 then .quadruple .greatestFirst else .double .greatestFirst
      else if second = 0 then
        if third = 0 ∧ fourth = 0 then .quadruple .leastFirst else .double .leastFirst
      else .single
  | [first, second] =>
      if first = 0 then .double .greatestFirst
      else if second = 0 then .double .leastFirst
      else .single
  | _ => .single

end Encoding

/-- The text that bytes store, in the encoding that they show. -/
def textOf? (bytes : Bytes) : Option Text :=
  match Encoding.marks.find? fun entry => entry.1.isPrefixOf bytes with
  | some (mark, encoding) => encoding.decode? (bytes.drop mark.length)
  | none => (Encoding.ofZeros bytes).decode? bytes

end LineShell.Json
