import LineShell.Text.Digits
import LineShell.Text.Quoted

/-!
# Environment variables

A variable that is not set is not the same as one that is set to nothing.
-/

namespace LineShell

/-- The variables that are set, each with its value. -/
structure Environment where
  bindings : List (Text × Text) := []
  deriving DecidableEq

namespace Environment

/-- The value of a variable. -/
def get? (environment : Environment) (name : Text) : Option Text :=
  environment.bindings.lookup name

/-- The value of a variable, or the given one where it is not set. -/
def getD (environment : Environment) (name default : Text) : Text :=
  (environment.get? name).getD default

/-- The whole number in a variable, or the given one where it is not set or blank.  A value that is
no number is given back. -/
def integer (environment : Environment) (name : Text) (default : Int) : Except Text Int :=
  match environment.get? name with
  | none => .ok default
  | some value =>
      if value.isBlankText then .ok default
      else
        match Digits.integer? value with
        | some number => .ok number
        | none => .error value

end Environment

end LineShell
