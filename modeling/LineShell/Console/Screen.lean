import LineShell.Text.Blank
import LineShell.Text.Cells

/-!
# Text on a screen

Text is shown without interpretation, but for what a terminal would make of it: control characters
that move the cursor are left out and tabs go to the next stop.  Lines are never broken, and on a
screen without columns nothing is shown.  Screens differ in the white space at the end of a line:
where it lies beyond the last column, some keep it and some take it away.
-/

namespace LineShell

namespace Screen

/-- Whether a character is left out: bell, backspace, vertical tab, form feed, carriage return. -/
def isDropped (character : Char) : Bool :=
  let code := character.toNat
  code == 0x07 || code == 0x08 || code == 0x0B || code == 0x0C || code == 0x0D

/-- The distance of tab stops in cells. -/
def tabSize : Nat := 8

/-- A piece of a line followed by spaces, at least one, as far as the next tab stop.  A joiner at
the end of the piece takes the first of the spaces with it. -/
def fillToStop (piece : Text) : Text :=
  let spaced := piece ++ [' ']
  spaced ++ List.replicate ((tabSize - cellLength spaced % tabSize) % tabSize) ' '

/-- The pieces of a line between its tabs as one text, in which every piece but the last one reaches
a tab stop. -/
def alignPieces : List Text → Text
  | [] => []
  | [last] => last
  | piece :: next :: rest => fillToStop piece ++ alignPieces (next :: rest)

/-- A line with its tabs turned into spaces. -/
def expandTabs (line : Text) : Text :=
  alignPieces (Text.splitOn '\t' line)

/-- The lines of a text, without what is left out and without tabs. -/
def lines (text : Text) : List Text :=
  (Text.splitOn '\n' (text.filter (!isDropped ·))).map expandTabs

/-- A line without the white space at its end that lies beyond a width. -/
def cropEnd (width : Nat) (line : Text) : Text :=
  let trailing := (line.reverse.takeWhile isBlank).length
  line.take (line.length - min trailing (line.length - width))

/-- A line as a screen ends it, which crops what lies beyond its columns or does not. -/
def finish (crops : Bool) (columns : Nat) (line : Text) : Text :=
  if crops then cropEnd columns line else line

/-- Text as a screen with so many columns shows it. -/
def render (crops : Bool) (columns : Nat) (text : Text) : Text :=
  if columns = 0 then [] else Text.joinWith "\n" ((lines text).map (finish crops columns))

end Screen

end LineShell
