import LineShell.FileSystem.Disk

/-!
# Removing a tree

A tree is removed in two passes: everything that is no directory goes first, then the directories
from the innermost out.  Links are removed and never followed.
-/

namespace LineShell.Disk

/-- Removes all that is no directory at or below a path, going no deeper than allowed, and gives the
directories in the order in which they were found, each before those below it. -/
def stripTree (host : Host) : Nat → Text → Disk (List Text)
  | 0, path => throw (.tooDeep path)
  | depth + 1, path => do
      let files ← get
      if files.isDirectory host path && !files.isLink host path then
        let names ← listNames host path
        let below ← names.reverse.mapM fun name => stripTree host depth (Path.join path name)
        return path :: below.flatten
      else
        removeEntry host path
        return []

/-- Removes what is at a path and all that is below it.  No path is longer than the limit, so the
depth allowed is never reached. -/
def removeTree (host : Host) (path : Text) : Disk Unit := do
  let directories ← stripTree host (host.pathLimit + 2) path
  directories.reverse.forM (removeDirectory host)

/-- Removes a tree, if there is one. -/
def tryRemoveTree (host : Host) (path : Text) : Disk Bool := do
  if (← get).hasEntry host path then succeeds (removeTree host path) else return false

end LineShell.Disk
