import LineShell.Session.Shell

/-!
# Writing results to files

Text goes to a file that is named as seen from the current directory.  What comes back is a status
line in either case, success or failure.
-/

namespace LineShell

namespace WriteMode

/-- The status line of a successful write. -/
def successStatus (mode : WriteMode) (target : Text) : Text :=
  match mode with
  | .overwrite => "Content written to " ++ target ++ "\n"
  | .append => "Content appended to " ++ target ++ "\n"

/-- The status line of a failed write. -/
def failureStatus (mode : WriteMode) (fault : Fault) : Text :=
  match mode with
  | .overwrite => "Failed to write to file: " ++ fault.message ++ "\n"
  | .append => "Failed to append to file: " ++ fault.message ++ "\n"

end WriteMode

/-- Writes content to a file, as seen from the current directory, and gives the status line. -/
def Shell.writeTo (setup : Setup) (mode : WriteMode) (target content : Text) : Shell Text := do
  let path := (← session).resolve target
  match ← onFiles (Disk.writeText setup.host mode path content) with
  | .ok _ => return mode.successStatus target
  | .error fault => return mode.failureStatus fault

end LineShell
