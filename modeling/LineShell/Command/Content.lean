import LineShell.Command.Basic
import LineShell.Session.Capture
import LineShell.Session.Redirection

/-!
# Showing and writing content

`cat` shows files, passes piped text on or captures typed text; `>` and `>>` write words to a file.
-/

namespace LineShell

namespace ContentCommands

/-- The commands of this group. -/
def commands : List CommandSpec :=
  [ ⟨"cat", "cat <file_name>", "Displays contents of a file."⟩,
    ⟨">", "> <file_name> <text>", "Redirects output to a file (overwrites)."⟩,
    ⟨">>", ">> <file_name> <text>", "Appends text to a file."⟩ ]

/-- What a bare `cat` tells the user before it captures. -/
def captureBanner : Text := "Enter text (type 'exit' to finish input):"

/-- The content of a file as lines, or why it cannot be shown. -/
def showFile (setup : Setup) (name : Text) : Shell Text := do
  let path := (← Shell.session).resolve name
  match ← Shell.onFiles (Disk.readText setup.host path) with
  | .ok text => return text.asLines
  | .error fault =>
      if fault.isNotFound then return "File not found: " ++ name ++ "\n"
      else return "Error reading file: " ++ fault.message ++ "\n"

/-- The contents of several files, one after the other. -/
def showFiles (setup : Setup) : List Text → Shell Text
  | [] => return []
  | name :: rest => do
      let text ← showFile setup name
      return text ++ (← showFiles setup rest)

/-- Shows the files named.  Where none is, passes piped text on, or else captures typed text. -/
def cat (setup : Setup) (arguments : List Text) (piped : Option Text) : Shell Reply := do
  if !arguments.isEmpty then return .say (← showFiles setup arguments)
  match piped with
  | some text => return .say text
  | none => return .say (← Shell.capture setup captureBanner)

/-- Writes words to a file. -/
def overwrite (setup : Setup) (arguments : List Text) : Shell Reply := do
  match arguments with
  | target :: word :: words =>
      return .say
        (← Shell.writeTo setup .overwrite target (Text.joinWith " " (word :: words)))
  | _ => return .say "Usage: > <file_name> <text_to_write>\n"

/-- Appends piped text to a file, or else words. -/
def append (setup : Setup) (arguments : List Text) (piped : Option Text) : Shell Reply := do
  match arguments with
  | target :: words =>
      return .say (← Shell.writeTo setup .append target (piped.getD (Text.joinWith " " words)))
  | [] => return .say "Usage: >> <file_name> [<text_to_append>]\n"

/-- Runs a command of this group. -/
def run (setup : Setup) (invocation : Invocation) : Shell Reply :=
  if invocation.name = "cat" then cat setup invocation.arguments invocation.piped
  else if invocation.name = ">" then overwrite setup invocation.arguments
  else if invocation.name = ">>" then append setup invocation.arguments invocation.piped
  else throw (.unknownCommand invocation.name)

/-- The group of the commands that show and write content. -/
def group (setup : Setup) : CommandGroup :=
  ⟨commands, run setup⟩

end ContentCommands

end LineShell
