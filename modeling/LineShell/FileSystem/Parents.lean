import LineShell.FileSystem.Disk

/-!
# Missing parents

Making a directory together with all directories above it that do not exist yet, the outermost
first.
-/

namespace LineShell.Disk

/-- Makes a directory; one that is there already will do. -/
def ensureDirectory (host : Host) (path : Text) : Disk Unit := do
  match ← attempt (makeDirectory host path) with
  | .ok _ => pure ()
  | .error fault => if (← get).isDirectory host path then pure () else throw fault

/-- Runs an action and takes it in good part if something is in its way already. -/
def allowTaken (action : Disk Unit) : Disk Unit := do
  match ← attempt action with
  | .error (.system .taken _) => pure ()
  | .error fault => throw fault
  | .ok _ => pure ()

/-- Makes a directory and all missing directories above it, the outermost first.  A path that ends
in `.` is done with once the directory above it is made. -/
def makeDirectories (host : Host) (path : Text) : Disk Unit := do
  if _h : (Path.splitLast path).1 ≠ [] ∧ (Path.splitLast path).2 ≠ [] then
    if (← get).reaches host (Path.splitLast path).1 then
      ensureDirectory host path
    else
      allowTaken (makeDirectories host (Path.splitLast path).1)
      if (Path.splitLast path).2 == Path.self then pure () else ensureDirectory host path
  else
    ensureDirectory host path
termination_by path.length
decreasing_by exact Path.length_splitLast_lt _h.2

/-- Makes all missing directories above a path. -/
def ensureParent (host : Host) (path : Text) : Disk Unit := do
  makeDirectories host (Path.directory (← absolute path))

end LineShell.Disk
