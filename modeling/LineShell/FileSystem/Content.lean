import LineShell.FileSystem.Disk

/-!
# Creating, reading and writing

The operations on single files and directories that commands are made of.
-/

namespace LineShell

/-- What became of a file that was to be created. -/
inductive Creation where
  | created
  | alreadyExists
  | failed
  deriving DecidableEq

/-- What became of a directory that was to be removed when empty. -/
inductive DirectoryRemoval where
  | removed
  | notFound
  | notEmpty
  | failed
  deriving DecidableEq

/-- Whether a text replaces the content of its file or is added to it. -/
inductive WriteMode where
  | overwrite
  | append
  deriving DecidableEq

namespace WriteMode

/-- The operator that asks for a mode. -/
def operator : WriteMode → Text
  | .overwrite => ">"
  | .append => ">>"

/-- Every operator begins with the redirection sign. -/
theorem exists_operator_eq (mode : WriteMode) : ∃ more, mode.operator = '>' :: more := by
  cases mode <;> exact ⟨_, rfl⟩

/-- What opening a file keeps of its content. -/
def keep (mode : WriteMode) (content : Bytes) : Bytes :=
  match mode with
  | .overwrite => []
  | .append => content

end WriteMode

namespace Disk

/-- Makes a directory, if the system lets it. -/
def tryMakeDirectory (host : Host) (path : Text) : Disk Bool :=
  succeeds (makeDirectory host path)

/-- Makes an empty file unless something is there already. -/
def tryCreateFile (host : Host) (path : Text) : Disk Creation := do
  if (← get).hasEntry host path then return .alreadyExists
  match ← attempt (createFile host path) with
  | .ok _ => return .created
  | .error (.system .taken _) => return .alreadyExists
  | .error _ => return .failed

/-- Removes a regular file or a link, if there is one. -/
def tryRemoveFile (host : Host) (path : Text) : Disk Bool := do
  let files ← get
  if files.isFile host path || files.isLink host path then
    succeeds (removeEntry host path)
  else
    return false

/-- Removes a directory if it has no entries. -/
def tryRemoveDirectory (host : Host) (path : Text) : Disk DirectoryRemoval := do
  if !(← get).isDirectory host path then return .notFound
  match ← attempt (listNames host path) with
  | .error _ => return .failed
  | .ok (_ :: _) => return .notEmpty
  | .ok [] => return if ← succeeds (removeDirectory host path) then .removed else .failed

/-- The content of a file as text; ill-formed bytes are read as replacement characters. -/
def readText (host : Host) (path : Text) : Disk Text := do
  let files ← get
  if !files.reaches host path then throw (.noFile path)
  if files.isDirectory host path then throw (.fileIsDirectory path)
  return Utf8.decode (← readFile host path)

/-- Writes text to a file, which is made if it is not there. -/
def writeText (host : Host) (mode : WriteMode) (path text : Text) : Disk Unit :=
  changeFile host path mode.keep text.utf8

end Disk

end LineShell
