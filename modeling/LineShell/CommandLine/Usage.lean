import LineShell.CommandLine.Options
import LineShell.Text.Wrap

/-!
# Usage and help

The texts that describe the command line, laid out for a number of columns.  Two columns on the
right are always left free.
-/

namespace LineShell

namespace CommandLine

/-- What the program is called. -/
def programName : Text := "minishell"

/-- What the program is. -/
def programDescription : Text := "A small Unix-style shell working on the real filesystem."

/-- What every usage text begins with. -/
def usageStart : Text := "usage: "

/-- An option name as it is used, with what its value is called. -/
def OptionKind.form (kind : OptionKind) (name : Text) : Text :=
  match kind.valueName? with
  | some value => name ++ " " ++ value
  | none => name

/-- An option as the usage text has it: by its first name, in brackets. -/
def OptionKind.usagePart (kind : OptionKind) : Text :=
  "[" ++ kind.form (kind.names.headD []) ++ "]"

/-- An option as the help text has it: by all its names. -/
def OptionKind.heading (kind : OptionKind) : Text :=
  Text.joinWith ", " (kind.names.map kind.form)

/-- So many spaces. -/
def spaces (count : Nat) : Text :=
  List.replicate count ' '

/-- Parts in lines that end before a width, with an indent on each line.  A line that would begin
too far to the right still takes one part. -/
def fillParts (width : Int) (indent : Nat) : Nat → List Text → List Text → List Text
  | _, line, [] => if line.isEmpty then [] else [spaces indent ++ Text.joinWith " " line]
  | used, line, part :: rest =>
      if (used + 1 + part.length : Int) > width ∧ !line.isEmpty then
        (spaces indent ++ Text.joinWith " " line) ::
          fillParts width indent (indent - 1 + part.length + 1) [part] rest
      else fillParts width indent (used + part.length + 1) (line ++ [part]) rest

/-- The usage text, where a text may be so wide. -/
def usage (width : Int) : Text :=
  let parts := OptionKind.all.map OptionKind.usagePart
  let oneLine := Text.joinWith " " (programName :: parts)
  let start := usageStart.length + programName.length
  let lines : List Text :=
    if ((usageStart.length + oneLine.length : Nat) : Int) ≤ width then [oneLine]
    else if 4 * (start : Int) ≤ 3 * width then
      match fillParts width (start + 1) (usageStart.length - 1) [] (programName :: parts) with
      | first :: others => first.drop (start + 1) :: others
      | [] => []
    else programName :: fillParts width usageStart.length (usageStart.length - 1) [] parts
  usageStart ++ Text.joinWith "\n" lines ++ "\n"

/-- The column in which the descriptions of options begin. -/
def descriptionColumn (width : Int) : Nat :=
  min 24 (max (width - 20) 4).toNat

/-- The least number of columns that a description is given. -/
def leastWidth : Int := 11

/-- Lines that each begin in a column. -/
def linesAt (column : Nat) (lines : List Text) : Text :=
  lines.flatMap fun line => spaces column ++ line ++ ['\n']

/-- The lines of an option in the help text.  The description begins on the line of the names if
these are short enough. -/
def OptionKind.helpText (width : Int) (kind : OptionKind) : Text :=
  let column := descriptionColumn width
  let room := column - 4
  let lines := Text.wrap (max (width - column) leastWidth).toNat kind.description
  if kind.heading.length ≤ room then
    "  " ++ Text.padEnd room kind.heading ++ "  " ++ lines.headD [] ++ "\n" ++
      linesAt column (lines.drop 1)
  else
    "  " ++ kind.heading ++ "\n" ++ linesAt column lines

/-- The help text, where a text may be so wide. -/
def help (width : Int) : Text :=
  usage width ++ "\n" ++
    Text.joinWith "\n" (Text.wrap (max width leastWidth).toNat programDescription) ++
    "\n\noptions:\n" ++ OptionKind.all.flatMap (OptionKind.helpText width)

/-- The width of texts on a screen of so many columns. -/
def textWidth (columns : Nat) : Int :=
  columns - 2

/-- What is said of a refused command line. -/
def refusal (width : Int) (fault : UsageFault) : Text :=
  usage width ++ programName ++ ": error: " ++ fault.message ++ "\n"

end CommandLine

end LineShell
