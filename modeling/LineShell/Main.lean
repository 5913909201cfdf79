import LineShell.CommandLine.Program

/-!
# The executable

The executable gathers what a run depends on (the arguments, the environment and the standard
input), runs the program on it and writes what it gave.  It works on files in memory: a run begins
with an empty working directory, and its files end with it.
-/

namespace LineShell.Executable

/-- The variables of the environment that a run depends on. -/
def variableNames : List String :=
  [ "COLUMNS", "LINES", "HOME", "MINISHELL_START_DIR", "MINISHELL_CAPTURE_SENTINEL",
    "MINISHELL_LOG_LEVEL", "MINISHELL_API_HOST", "MINISHELL_API_PORT" ]

/-- The status of a run that broke off. -/
def brokenOff : Nat := 1

/-- The files that a run begins with: a working directory and the directories above it. -/
def initialFiles (host : Host) (working : Text) : FileSystem :=
  let place := (Text.splitOn '/' working).filter (!·.isEmpty)
  match Disk.makeDirectories host working { top := [], working := { place } } with
  | .ok _ files | .error _ files => files

/-- The status that a run ends with and what it writes on the standard output and on the standard
error. -/
def report (result : Except SettingsFault CommandLine.Outcome) : Nat × Text × Text :=
  match result with
  | .error fault => (brokenOff, [], fault.message ++ "\n")
  | .ok outcome =>
      match outcome.ending with
      | .status code | .exited code => (code, outcome.output, outcome.errors)
      | .brokenOff breakdown =>
          (brokenOff, outcome.output, outcome.errors ++ breakdown.message ++ "\n")

/-- The variables that are set, of those that matter. -/
def readEnvironment : IO Environment := do
  let bindings ← variableNames.filterMapM fun name => do
    return (← IO.getEnv name).map fun value => (name.toList, value.toList)
  return { bindings }

/-- The path of the working directory, where the environment names one. -/
def readWorkingPath : IO Text := do
  match ← IO.getEnv "PWD" with
  | some path => return Path.absolute "/" path.toList
  | none => return "/"

/-- The whole of the standard input, unless the arguments ask for nothing that reads it. -/
def readInput (arguments : List Text) : IO Text := do
  match CommandLine.read arguments with
  | .run _ => return (← (← IO.getStdin).readToEnd).toList
  | .help | .refused _ => return []

end LineShell.Executable

open LineShell in
/-- Runs the program. -/
def main (arguments : List String) : IO UInt32 := do
  let arguments := arguments.map String.toList
  let environment ← Executable.readEnvironment
  let working ← Executable.readWorkingPath
  let input ← Executable.readInput arguments
  let (status, output, errors) := Executable.report <|
    CommandLine.run {} environment arguments input (Executable.initialFiles {} working)
  (← IO.getStdout).putStr (String.ofList output)
  (← IO.getStderr).putStr (String.ofList errors)
  return status.toUInt32
