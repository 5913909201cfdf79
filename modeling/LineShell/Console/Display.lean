import LineShell.Console.Notice
import LineShell.Console.Panel
import LineShell.Settings.ScreenSize

/-!
# Displays

The program leaves it to a display how things look on the screen, and only says what is to be shown:
a text that was written, the banner, or a message.
-/

namespace LineShell

/-- How things look on a screen. -/
structure Display where
  /-- The number of columns of the screen, which the environment may tell. -/
  columns : Environment → Except Digits.Fault Nat := ScreenSize.columns
  /-- A text on a screen with so many columns, without interpretation. -/
  text : Nat → Text → Text := Screen.render false
  /-- A line of text in a box with a title. -/
  panel : Nat → Text → Text → Text := Panel.render
  /-- Markup, and a line feed. -/
  notice : Nat → Text → Except Markup.Fault Text := Notice.render

end LineShell
