import LineShell.Command.Basic

/-!
# Help and the end of a session

`help` lists every command by its usage, padded to a column, and then the forms of a line that are
no commands.  `exit` ends the session.
-/

namespace LineShell

namespace Help

/-- The width of the usage column. -/
def usageWidth : Nat := 24

/-- The line of one command. -/
def line (spec : CommandSpec) : Text :=
  Text.padEnd usageWidth spec.usage ++ " - " ++ spec.description ++ "\n"

/-- The list of commands as it is shown. -/
def format (specs : List CommandSpec) : Text :=
  "Available commands:\n" ++ specs.flatMap line

/-- Forms of a line that belong in the list and are no commands. -/
def lineForms : List CommandSpec :=
  [ ⟨"cat >", "cat > <file_name>", "Writes typed lines to a file ('cat >>' appends)."⟩,
    ⟨"|", "| <command1> | <command2>", "Pipes the output of command1 into command2."⟩ ]

end Help

namespace SessionCommands

/-- The commands of this group. -/
def commands : List CommandSpec :=
  [ ⟨"help", "help", "Shows this list of commands."⟩,
    ⟨"exit", "exit", "Exits the command line."⟩ ]

/-- Ends the session. -/
def exit : Shell Reply := do
  Shell.setSession (← Shell.session).terminate
  return .exit

/-- Runs a command of this group, where all commands there are to list are given. -/
def run (listed : List CommandSpec) (invocation : Invocation) : Shell Reply :=
  if invocation.name = "help" then return .say (Help.format (listed ++ Help.lineForms))
  else if invocation.name = "exit" then exit
  else throw (.unknownCommand invocation.name)

/-- The group of the commands that describe or end the session. -/
def group (listed : List CommandSpec) : CommandGroup :=
  ⟨commands, run listed⟩

end SessionCommands

end LineShell
