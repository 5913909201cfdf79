import LineShell.Text.Basic
import LineShell.Text.CellTable

/-!
# Cells of a terminal row

How many cells of a terminal row a text takes.  A character takes none, one or two; a joiner merges
the character after it into the one before, and the selector of the emoji form can widen the
character that it follows.
-/

namespace LineShell

/-- The number of cells that a character takes. -/
def cellWidth (character : Char) : Nat :=
  if ' ' ≤ character ∧ character ≤ '~' then 1
  else if Cells.zeroRanges.holds character then 0
  else if Cells.wideRanges.holds character then 2
  else 1

namespace Cells

/-- The joiner of characters, which shows nothing for itself or for the character after it. -/
def joiner : Char := '\u200D'

/-- The selector that asks for the emoji form of the character before it. -/
def emojiSelector : Char := '\uFE0F'

/-- By how much the selector of the emoji form widens the character that last took a cell. -/
def widening (last : Option Char) : Nat :=
  if last.any widenedRanges.holds then 1 else 0

/-- The number of cells that a text takes after a character, the last one that took a cell. -/
def lengthAfter : Option Char → Text → Nat
  | _, [] => 0
  | last, [character] =>
      if character = joiner then 0
      else if character = emojiSelector then widening last
      else cellWidth character
  | last, character :: next :: rest =>
      if character = joiner then lengthAfter last rest
      else if character = emojiSelector then widening last + lengthAfter none (next :: rest)
      else if cellWidth character = 0 then lengthAfter last (next :: rest)
      else cellWidth character + lengthAfter (some character) (next :: rest)

/-- Characters that stand in the same cells: one that takes cells and those that follow it without
taking any of their own. -/
structure Cluster where
  text : Text
  width : Nat
  deriving DecidableEq

/-- The cluster with more characters, which make it wider. -/
def Cluster.attach (cluster : Cluster) (characters : Text) (width : Nat) : Cluster :=
  ⟨cluster.text ++ characters, cluster.width + width⟩

/-- The clusters of a text, the first of which has begun already; `last` is the character that last
took a cell and can be widened. -/
def clustersFrom (cluster : Cluster) (last : Option Char) (text : Text) : List Cluster :=
  match text with
  | [] => [cluster]
  | character :: rest =>
      if character = joiner then
        clustersFrom (cluster.attach (character :: rest.take 1) 0) last (rest.drop 1)
      else if character = emojiSelector then
        clustersFrom (cluster.attach [character] (widening last)) none rest
      else if cellWidth character = 0 then
        clustersFrom (cluster.attach [character] 0) last rest
      else cluster :: clustersFrom ⟨[character], cellWidth character⟩ (some character) rest
termination_by text.length
decreasing_by all_goals simp only [List.length_drop, List.length_cons]; omega

/-- The clusters of a text. -/
def clusters : Text → List Cluster
  | [] => []
  | character :: rest =>
      let width := cellWidth character
      clustersFrom ⟨[character], width⟩ (if width = 0 then none else some character) rest

end Cells

/-- The number of cells that a text takes. -/
def cellLength (text : Text) : Nat :=
  Cells.lengthAfter none text

end LineShell
