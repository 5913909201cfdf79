import LineShell.FileSystem.Disk

/-!
# Directory entries

An entry describes what one name of a directory stands for: its normal path, its name and whether it
leads to a directory.
-/

namespace LineShell

/-- The description of a directory entry. -/
structure Entry where
  /-- The absolute normal path. -/
  path : Text
  name : Name
  isDirectory : Bool
  deriving DecidableEq

namespace Entry

/-- Whether a listing shows the entry only on demand. -/
def isHidden (entry : Entry) : Bool :=
  Text.startsWith entry.name "."

/-- Whether the name has a dot anywhere. -/
def hasExtension (entry : Entry) : Bool :=
  entry.name.contains '.'

/-- The entry's name and kind for a reader. -/
def summary (entry : Entry) : Text :=
  "Entry(name='" ++ entry.name ++ "', type='" ++
    (if entry.isDirectory then "directory" else "file" : Text) ++ "')"

/-- The entry's path for a reader. -/
def label (entry : Entry) : Text :=
  "Entry(path='" ++ entry.path ++ "')"

/-- The name as a listing shows it: a file without an extension gets one, a directory never does. -/
def displayName (entry : Entry) : Text :=
  if entry.isDirectory || entry.hasExtension then entry.name else entry.name ++ ".txt"

end Entry

/-- Whether there is no description because the working directory was removed. -/
def Entry.isUnplaced : Except Fault Entry → Bool
  | .error .noWorkingDirectory => true
  | _ => false

namespace FileSystem

/-- The description of what is at a path.  Name and kind are those of the normal path. -/
def describe (files : FileSystem) (host : Host) (path : Text) : Except Fault Entry :=
  if path.isEmpty then .error .emptyPath
  else if !files.hasEntry host path then .error (.noPath path)
  else
    match files.absolute? path with
    | none => .error .noWorkingDirectory
    | some normal => .ok ⟨normal, Path.lastComponent normal, files.isDirectory host normal⟩

end FileSystem

namespace Disk

/-- The descriptions of all entries of a directory, in the order of its names.  An entry whose path
the system refuses is left out. -/
def listEntries (host : Host) (path : Text) : Disk (List Entry) := do
  let files ← get
  if !files.reaches host path then throw (.noListing path)
  if !files.isDirectory host path then throw (.notListing path)
  let described := (← listNames host path).map fun name => files.describe host (Path.join path name)
  if described.any Entry.isUnplaced then throw (.listingUnplaced path)
  return described.filterMap Except.toOption

end Disk

/-- The entries in ascending order of their names, by code point. -/
def Entry.sortByName (entries : List Entry) : List Entry :=
  entries.mergeSort fun left right => Text.inOrder left.name right.name

end LineShell
