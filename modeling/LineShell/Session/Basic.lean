import LineShell.Path.Normal

/-!
# Sessions

A session is one user's place in the file system.  It carries its own current directory, so that
several sessions live side by side.
-/

namespace LineShell

/-- The state of one session. -/
structure Session where
  /-- What the session is called. -/
  id : Text := []
  /-- The directory that its relative paths start from. -/
  directory : Text
  /-- Whether it still takes commands. -/
  running : Bool := true
  deriving DecidableEq

namespace Session

/-- A path as seen from the current directory. -/
def resolve (session : Session) (path : Text) : Text :=
  Path.join session.directory path

/-- What a terminal shows in front of the next line. -/
def prompt (session : Session) : Text :=
  session.directory ++ "$ "

/-- The session after it ended. -/
def terminate (session : Session) : Session :=
  { session with running := false }

end Session

end LineShell
