import LineShell.Command.Basic
import LineShell.FileSystem.Entry
import LineShell.FileSystem.Transfer

/-!
# Working on directory entries

Listing, creating, removing, copying and moving.  A command with several arguments takes them one by
one and replies with a line for each.
-/

namespace LineShell

namespace EntryCommands

/-- The commands of this group. -/
def commands : List CommandSpec :=
  [ ⟨"ls", "ls [-a] [-r]", "Lists files in the current directory."⟩,
    ⟨"mkdir", "mkdir <directory_name>", "Creates a new directory."⟩,
    ⟨"rmdir", "rmdir <directory_name>", "Removes an empty directory."⟩,
    ⟨"rm", "rm [-r] <file_name>", "Removes a file, or a directory tree with -r."⟩,
    ⟨"touch", "touch <filename>", "Creates a new empty file."⟩,
    ⟨"cp", "cp <source_file> <destination_file>", "Copies a file."⟩,
    ⟨"mv", "mv <source> <destination>", "Moves a file or directory to a new location."⟩ ]

/-- The replies of a command to its arguments, one after the other. -/
def forEach (report : Text → Shell Text) : List Text → Shell Text
  | [] => return []
  | argument :: rest => do
      let line ← report argument
      return line ++ (← forEach report rest)

/-- A report on each argument, or the usage line where there is none. -/
def forEachOrUsage (usage : Text) (report : Text → Shell Text) (arguments : List Text) :
    Shell Reply := do
  if arguments.isEmpty then return .say usage
  return .say (← forEach report arguments)

/-! ### Listing -/

/-- What a listing shows and in which order. -/
structure ListOptions where
  hidden : Bool := false
  reversed : Bool := false
  deriving DecidableEq

/-- The options with the flags of one more argument: a dash and some of the letters `a` and `r`. -/
def ListOptions.add? (options : ListOptions) (argument : Text) : Option ListOptions :=
  match argument with
  | '-' :: flag :: flags =>
      if (flag :: flags).all fun letter => letter == 'a' || letter == 'r' then
        some
          { hidden := options.hidden || (flag :: flags).contains 'a'
            reversed := options.reversed || (flag :: flags).contains 'r' }
      else none
  | _ => none

/-- The options that all arguments make up together. -/
def ListOptions.of? (arguments : List Text) : Option ListOptions :=
  arguments.foldlM (·.add? ·) {}

/-- The lines of a listing. -/
def listing (options : ListOptions) (entries : List Entry) : Text :=
  let sorted := Entry.sortByName entries
  let ordered := if options.reversed then sorted.reverse else sorted
  (ordered.filter fun entry => options.hidden || !entry.isHidden).flatMap fun entry =>
    entry.displayName ++ ['\n']

/-- Lists the current directory. -/
def list (setup : Setup) (arguments : List Text) : Shell Reply := do
  match ListOptions.of? arguments with
  | none => return .say "Usage: ls [-a] [-r]\n"
  | some options =>
      let directory := (← Shell.session).directory
      match ← Shell.onFiles (Disk.listEntries setup.host directory) with
      | .ok entries => return .say (listing options entries)
      | .error _ => return .say ("Cannot access directory: " ++ directory ++ "\n")

/-! ### Creating and removing -/

/-- Makes a directory and reports. -/
def makeDirectory (setup : Setup) (name : Text) : Shell Text := do
  let path := (← Shell.session).resolve name
  if ← Shell.onFilesOr false (Disk.tryMakeDirectory setup.host path) then
    return "Directory created: " ++ name ++ "\n"
  else
    return "Failed to create directory: " ++ name ++ "\n"

/-- The report on a directory that was to be removed. -/
def removalReport (name : Text) : DirectoryRemoval → Text
  | .removed => name ++ " Directory removed.\n"
  | .notFound => name ++ " directory not found.\n"
  | .notEmpty => name ++ " Directory is not empty.\n"
  | .failed => "Error removing directory: " ++ name ++ "\n"

/-- Removes an empty directory and reports. -/
def removeDirectory (setup : Setup) (name : Text) : Shell Text := do
  let path := (← Shell.session).resolve name
  return removalReport name
    (← Shell.onFilesOr .failed (Disk.tryRemoveDirectory setup.host path))

/-- Removes a file and reports. -/
def removeFile (setup : Setup) (name : Text) : Shell Text := do
  let path := (← Shell.session).resolve name
  if ← Shell.onFilesOr false (Disk.tryRemoveFile setup.host path) then
    return "File removed: " ++ name ++ "\n"
  else
    return "Failed to remove file: " ++ name ++ "\n"

/-- Removes a tree and reports. -/
def removeTree (setup : Setup) (name : Text) : Shell Text := do
  let path := (← Shell.session).resolve name
  if !(← Shell.inspect (·.hasEntry setup.host path)) then
    return "Directory not found: " ++ name ++ "\n"
  else if ← Shell.onFilesOr false (Disk.tryRemoveTree setup.host path) then
    return "Removed directory and its contents: " ++ name ++ "\n"
  else
    return "Failed to remove directory: " ++ name ++ "\n"

/-- Removes files, or trees where the first argument says so. -/
def remove (setup : Setup) (arguments : List Text) : Shell Reply :=
  let usage : Text := "Usage: rm [-r] <file/directory>\n"
  match arguments with
  | ['-', 'r'] :: names => forEachOrUsage usage (removeTree setup) names
  | names => forEachOrUsage usage (removeFile setup) names

/-- The report on a file that was to be created. -/
def creationReport (name : Text) : Creation → Text
  | .created => "File created: " ++ name ++ "\n"
  | .alreadyExists => "File already exists: " ++ name ++ "\n"
  | .failed => "Failed to create file: " ++ name ++ "\n"

/-- Creates a file and reports. -/
def createFile (setup : Setup) (name : Text) : Shell Text := do
  let path := (← Shell.session).resolve name
  return creationReport name (← Shell.onFilesOr .failed (Disk.tryCreateFile setup.host path))

/-! ### Copying and moving -/

/-- Copies one source and reports. -/
def copyOne (setup : Setup) (destination source : Text) : Shell Text := do
  let session ← Shell.session
  let action := Disk.copy setup.host (session.resolve source) (session.resolve destination)
  match ← Shell.onFiles action with
  | .ok _ => return "Successfully copied " ++ source ++ " to " ++ destination ++ "\n"
  | .error fault =>
      if fault.isNotFound then return "Source file does not exist: " ++ source ++ "\n"
      else return "Failed to copy file: " ++ fault.message ++ "\n"

/-- Moves one source and reports. -/
def moveOne (setup : Setup) (destination source : Text) : Shell Text := do
  let session ← Shell.session
  let action := Disk.move setup.host (session.resolve source) (session.resolve destination)
  match ← Shell.onFiles action with
  | .ok _ => return "Successfully moved " ++ source ++ " to " ++ destination ++ "\n"
  | .error fault =>
      if fault.isNotFound then return "Source does not exist: " ++ source ++ "\n"
      else return "Failed to move file: " ++ fault.message ++ "\n"

/-- Copies one or several sources.  Several of them need a directory to go to. -/
def copy (setup : Setup) (arguments : List Text) : Shell Reply := do
  match arguments with
  | [] | [_] => return .say "Usage: cp <source_file(s)> <destination>\n"
  | [source, destination] => return .say (← copyOne setup destination source)
  | _ =>
      let destination := arguments.getLastD []
      let path := (← Shell.session).resolve destination
      if !(← Shell.inspect (·.hasEntry setup.host path)) then
        return .say ("Destination directory does not exist: " ++ destination ++ "\n")
      else if !(← Shell.inspect (·.isDirectory setup.host path)) then
        return .say "Destination must be a directory when copying multiple files\n"
      else
        return .say (← forEach (copyOne setup destination) arguments.dropLast)

/-- Moves one or several sources.  Several of them need a directory to go to. -/
def move (setup : Setup) (arguments : List Text) : Shell Reply := do
  match arguments with
  | [] | [_] => return .say "Usage: mv <source(s)> <destination>\n"
  | [source, destination] => return .say (← moveOne setup destination source)
  | _ =>
      let destination := arguments.getLastD []
      let path := (← Shell.session).resolve destination
      if !(← Shell.inspect (·.isDirectory setup.host path)) then
        return .say "Destination must be a directory when moving multiple files\n"
      else
        return .say (← forEach (moveOne setup destination) arguments.dropLast)

/-- Runs a command of this group. -/
def run (setup : Setup) (invocation : Invocation) : Shell Reply :=
  let arguments := invocation.arguments
  if invocation.name = "ls" then list setup arguments
  else if invocation.name = "mkdir" then
    forEachOrUsage "Usage: mkdir <directory_name1> [<directory_name2> ...]\n"
      (makeDirectory setup) arguments
  else if invocation.name = "rmdir" then
    forEachOrUsage "Usage: rmdir <directory_name1> [<directory_name2> ...]\n"
      (removeDirectory setup) arguments
  else if invocation.name = "rm" then remove setup arguments
  else if invocation.name = "touch" then
    forEachOrUsage "Usage: touch <filename> [<filename2> ...]\n" (createFile setup) arguments
  else if invocation.name = "cp" then copy setup arguments
  else if invocation.name = "mv" then move setup arguments
  else throw (.unknownCommand invocation.name)

/-- The group of the commands that work on directory entries. -/
def group (setup : Setup) : CommandGroup :=
  ⟨commands, run setup⟩

end EntryCommands

end LineShell
