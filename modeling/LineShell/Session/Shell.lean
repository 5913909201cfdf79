import LineShell.Console.Reader
import LineShell.FileSystem.Content
import LineShell.Session.Basic

/-!
# The world of a command

A command sees the files, its session, what was written so far and the lines that are still to be
read.  It is a computation over these; what its texts cannot report breaks it off.
-/

namespace LineShell

/-- Everything that a command may read or change. -/
structure World where
  files : FileSystem
  session : Session
  /-- The texts written so far, in order. -/
  output : List Text
  reader : Reader

/-- What is fixed for a whole run: the machine and the line that ends a capture. -/
structure Setup where
  host : Host
  sentinel : Text := "exit"

/-- What breaks off a command instead of being reported as text. -/
inductive Escape where
  /-- The system was handed a path with a null character. -/
  | nullByte
  /-- A group was asked for a command that it does not have. -/
  | unknownCommand (name : Text)
  /-- A path was to be made absolute, and the working directory was removed. -/
  | noWorkingDirectory
  /-- A line was to be run that has no text. -/
  | lineWithoutText
  deriving DecidableEq

/-- The wording of an escape. -/
def Escape.message : Escape → Text
  | .nullByte => "embedded null byte"
  | .unknownCommand name => "Unknown command: " ++ name
  | .noWorkingDirectory => Fault.unplaced
  | .lineWithoutText => "'list' object has no attribute 'strip'"

/-- A computation over the world of a command. -/
abbrev Shell := EStateM Escape World

namespace Shell

/-- Writes a text. -/
def write (text : Text) : Shell Unit :=
  modify fun world => { world with output := world.output ++ [text] }

/-- The current session. -/
def session : Shell Session := do
  return (← get).session

/-- Replaces the session. -/
def setSession (session : Session) : Shell Unit :=
  modify fun world => { world with session }

/-- A question about the files. -/
def inspect {α : Type} (question : FileSystem → α) : Shell α := do
  return question (← get).files

/-- Runs an operation on the files and gives its fault, if it has one, as a result. -/
def onFiles {α : Type} (action : Disk α) : Shell (Except Fault α) := fun world =>
  match action world.files with
  | .ok value files => .ok (.ok value) { world with files }
  | .error .nullByte files => .error .nullByte { world with files }
  | .error .noWorkingDirectory files => .error .noWorkingDirectory { world with files }
  | .error fault files => .ok (.error fault) { world with files }

/-- The absolute normal form of a path. -/
def absolute (path : Text) : Shell Text := do
  match (← get).files.absolute? path with
  | some normal => return normal
  | none => throw .noWorkingDirectory

/-- Runs an operation on the files whose only fault can be a null character. -/
def onFilesOr {α : Type} (default : α) (action : Disk α) : Shell α := do
  match ← onFiles action with
  | .ok value => return value
  | .error _ => return default

/-- Reads the next line, after the prompt where the reader shows one. -/
def readLine (prompt : Text) : Shell (Option Text) := do
  let reader := (← get).reader
  if reader.prompts && !prompt.isEmpty then write prompt
  modify fun world => { world with reader := reader.readLine.2 }
  return reader.readLine.1

end Shell

end LineShell
