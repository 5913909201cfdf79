import LineShell.Settings.Environment

/-!
# The size of the screen

The environment may say how many columns and lines the screen has.  A measure counts if it consists
of digits; then it has to be a number.
-/

namespace LineShell

namespace ScreenSize

/-- The number of columns of a screen of which nothing is known. -/
def defaultColumns : Nat := 80

/-- A measure of the screen in the environment, if there is one. -/
def measure? (environment : Environment) (name : Text) : Except Digits.Fault (Option Nat) :=
  match environment.get? name with
  | some (first :: rest) =>
      if (first :: rest).all Digits.isDigit then (Digits.decimal (first :: rest)).map some
      else .ok none
  | _ => .ok none

/-- The number of columns of the screen.  Its lines do not matter, but their number is read too. -/
def columns (environment : Environment) : Except Digits.Fault Nat := do
  let columns ← measure? environment "COLUMNS"
  let _ ← measure? environment "LINES"
  return columns.getD defaultColumns

end ScreenSize

end LineShell
