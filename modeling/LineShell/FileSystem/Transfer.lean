import LineShell.FileSystem.Parents
import LineShell.FileSystem.Removal

/-!
# Copying and moving

A file is copied by its bytes, a directory with all that is below it.  A move relinks its source
where the machine can, and else copies it and removes the source.
-/

namespace LineShell.Disk

/-- Copies the content of a file, through links on both sides.  What is refused first: one file on
both sides, then pipes, then the source, then the target.  The target is empty once it is opened,
and so it has the first bytes only if the machine breaks the copy off. -/
def copyFile (host : Host) (source target : Text) : Disk Unit := do
  let files ← get
  if source.hasNull || target.hasNull then throw .nullByte
  if files.samePlace host source target then throw (.sameFile source target)
  if files.isPipe host source then throw (.namedPipe source)
  if files.isPipe host target then throw (.namedPipe target)
  let content ← readFile host source
  match ← attempt (changeFile host target (fun _ => []) content) with
  | .ok _ => pure ()
  | .error .brokenOff => throw (.copyBrokenOff source target)
  | .error (.system .isDirectory path) =>
      if files.reaches host target then throw (.system .isDirectory path)
      else throw (.noDirectory target)
  | .error fault => throw fault

/-- Copies the entries of a directory that are no directories, each name in turn, and gives the
names of the directories.  A link counts as what it leads to, but never as a directory. -/
def copyEntries (host : Host) (source target : Text) : List Name → Disk (List Name)
  | [] => return []
  | name :: rest => do
      let files ← get
      let path := Path.join source name
      if files.isDirectory host path && !files.isLink host path then
        return name :: (← copyEntries host source target rest)
      else
        copyFile host path (Path.join target name)
        copyEntries host source target rest

/-- Copies a directory into another one, which is made if it is not there, going no deeper than
allowed.  The directories in it follow after its files, the last one first. -/
def copyTree (host : Host) : Nat → Text → Text → Disk Unit
  | 0, _, target => throw (.tooDeep target)
  | depth + 1, source, target => do
      makeDirectories host target
      let names ← listNames host source
      let directories ← copyEntries host source target names
      directories.reverse.forM fun name =>
        copyTree host depth (Path.join source name) (Path.join target name)

/-- The depth that no directory walk reaches, because every level makes the path longer. -/
def depthLimit (host : Host) : Nat :=
  host.pathLimit + 2

/-- Where a copy or move ends: below the destination under the source's own name if that is a
directory, else at the destination. -/
def targetFor (files : FileSystem) (host : Host) (source destination : Text) : Text :=
  if files.isDirectory host destination then
    Path.join destination (Path.lastComponent (Path.normalize source))
  else destination

/-- Whether a path is another one or lies below it, by the spelling alone. -/
def isWithin (path parent : Text) : Disk Bool := do
  return Path.isWithin (← absolute path) (← absolute parent)

/-- Copies a file or directory to a target. -/
def copyTo (host : Host) (source target : Text) : Disk Unit := do
  if (← get).isDirectory host source then
    if ← isWithin target source then throw (.copyIntoItself source)
    ensureParent host target
    copyTree host (depthLimit host) source target
  else
    ensureParent host target
    copyFile host source target

/-- Copies a file or directory and gives the path of the copy. -/
def copy (host : Host) (source destination : Text) : Disk Text := do
  let files ← get
  if !files.hasEntry host source then throw (.noSource source)
  let target := targetFor files host source destination
  match ← attempt (copyTo host source target) with
  | .ok _ => return target
  | .error .noWorkingDirectory => throw .copyUnplaced
  | .error fault => throw fault

/-- Moves an entry by relinking it. -/
def moveByRelinking (host : Host) (source target : Text) : Disk Unit := do
  ensureParent host target
  rename host source target

/-- Moves an entry by copying it and removing it. -/
def moveByCopying (host : Host) (source target : Text) : Disk Unit := do
  let files ← get
  if files.isDirectory host source && !files.isLink host source then
    copyTree host (depthLimit host) source target
  else
    copyFile host source target
  if !(← tryRemoveTree host source) then throw (.sourceKept source)

/-- Moves a file or directory and gives its new path. -/
def move (host : Host) (source destination : Text) : Disk Text := do
  let files ← get
  if !files.hasEntry host source then throw (.noSource source)
  let target := targetFor files host source destination
  if files.isDirectory host source then
    if ← isWithin target source then throw (.moveIntoItself source)
  match ← attempt (moveByRelinking host source target) with
  | .ok _ => return target
  | .error _ =>
      moveByCopying host source target
      return target

end LineShell.Disk
