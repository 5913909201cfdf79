import LineShell.Text.Basic
import LineShell.Text.CaseTable

/-!
# Letter case

The full case mappings: one character may become several, and a capital sigma becomes the final
form where it ends a word.
-/

namespace LineShell

open CaseTable

/-- The image of a character under a table of single counterparts and a table of expansions. -/
def CaseTable.map (runs : List Run) (expansions : List (Nat × List Nat)) (character : Char) : Text :=
  match expansions.lookup character.toNat with
  | some codes => codes.map Char.ofNat
  | none => [Char.ofNat (image runs character.toNat)]

/-- The small form of a character outside of the context of a word. -/
def lowerChar (character : Char) : Text :=
  if character ≤ '~' then [character.toLower]
  else CaseTable.map lowerRuns lowerExpansions character

/-- The capital form of a character. -/
def upperChar (character : Char) : Text :=
  if character ≤ '~' then [character.toUpper]
  else CaseTable.map upperRuns upperExpansions character

/-- Whether the nearest character that counts is a cased letter. -/
def CaseTable.meetsCased (characters : Text) : Bool :=
  match (characters.dropWhile ignorableRanges.holds).head? with
  | some character => casedRanges.holds character
  | none => false

/-- The small form of a capital sigma: final where a letter stands before it and none after it. -/
def lowerSigma (before after : Text) : Char :=
  if meetsCased before.reverse && !meetsCased after then 'ς' else 'σ'

namespace Text

/-- The text in small letters. -/
def lower (text : Text) : Text :=
  text.zipIdx.flatMap fun (character, index) =>
    if character = 'Σ' then [lowerSigma (text.take index) (text.drop (index + 1))]
    else lowerChar character

/-- The text in capital letters. -/
def upper (text : Text) : Text :=
  text.flatMap upperChar

end Text

end LineShell
