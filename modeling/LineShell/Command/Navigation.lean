import LineShell.Command.Basic

/-!
# Finding one's way

`pwd` tells the current directory and `cd` changes it.  What `cd` has to complain of is written at
once, so that it shows also where the reply goes into a pipe or a file.
-/

namespace LineShell

namespace Navigation

/-- The commands of this group. -/
def commands : List CommandSpec :=
  [ ⟨"pwd", "pwd", "Prints the current working directory."⟩,
    ⟨"cd", "cd <directory>", "Changes the current directory."⟩ ]

/-- Tells the current directory. -/
def tellDirectory : Shell Reply := do
  return .say ((← Shell.session).directory ++ "\n")

/-- Goes to a directory.  Going up is a matter of the path's spelling; anywhere else has to exist,
and the new current directory is its normal path. -/
def goTo (setup : Setup) (path : Text) : Shell Unit := do
  let session ← Shell.session
  if path == Path.self then pure ()
  else if path == Path.up then
    Shell.setSession { session with directory := Path.directory session.directory }
  else
    let candidate := session.resolve path
    if ← Shell.inspect (·.isDirectory setup.host candidate) then
      Shell.setSession { session with directory := ← Shell.absolute candidate }
    else
      Shell.write ("Directory not found: " ++ path ++ "\n")

/-- Changes the current directory. -/
def changeDirectory (setup : Setup) (arguments : List Text) : Shell Reply := do
  match arguments with
  | [path] => goTo setup path
  | _ => Shell.write "Usage: cd <directory>\n"
  return .say []

/-- Runs a command of this group. -/
def run (setup : Setup) (invocation : Invocation) : Shell Reply :=
  if invocation.name = "pwd" then tellDirectory
  else if invocation.name = "cd" then changeDirectory setup invocation.arguments
  else throw (.unknownCommand invocation.name)

/-- The group of the commands that read or change the current directory. -/
def group (setup : Setup) : CommandGroup :=
  ⟨commands, run setup⟩

end Navigation

end LineShell
