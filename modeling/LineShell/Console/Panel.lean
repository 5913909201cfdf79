import LineShell.Text.Basic

/-!
# Panels

A line of text in a box with rounded corners, as wide as the screen, with a title in the middle of
its upper edge.  What does not fit is cut off; where not a single cell is left inside, only the
empty edges are drawn.
-/

namespace LineShell

namespace Panel

/-- So many copies of the horizontal line. -/
def edge (count : Nat) : Text :=
  List.replicate count '─'

/-- The cells at the sides: a corner or a line and the cell next to it, on the left and on the
right. -/
def sides : Nat := 4

/-- The upper edge.  The title stands in the middle, or one cell to the left of it. -/
def top (width : Nat) (title : Text) : Text :=
  let shown := ([' '] ++ title ++ [' ']).take (width - sides)
  let space := width - sides - shown.length
  "╭─" ++ edge (space / 2) ++ shown ++ edge (space - space / 2) ++ "─╮\n"

/-- The upper edge without a title. -/
def plainTop (width : Nat) : Text :=
  "╭" ++ edge (width - 2) ++ "╮\n"

/-- The line of text between the sides. -/
def middle (width : Nat) (line : Text) : Text :=
  "│ " ++ Text.padEnd (width - sides) (line.take (width - sides)) ++ " │\n"

/-- The lower edge. -/
def bottom (width : Nat) : Text :=
  "╰" ++ edge (width - 2) ++ "╯\n"

/-- The whole panel. -/
def render (width : Nat) (title line : Text) : Text :=
  if width = 0 then []
  else if width ≤ sides then plainTop width ++ bottom width
  else top width title ++ middle width line ++ bottom width

end Panel

end LineShell
