import LineShell.FileSystem.Walk

/-!
# Calls to the system

The single steps that change or read a file system.  Each but one is atomic: it either does one
thing or refuses with a fault and leaves the file system alone.  The exception is writing to a file
that was opened before, which the machine may break off when a part of the bytes is in the file.  A
sequence of steps that ends in a fault keeps what the steps before it did: a write that is broken
off does not undo what opening the file did to its content.
-/

namespace LineShell

/-- A computation over a file system, which may end in a fault and keeps what it did before. -/
abbrev Disk := EStateM Fault FileSystem

namespace Disk

/-- Runs an action and gives its fault, if it has one, as a result.  The fault of a null character
is none of the system's and goes on. -/
def attempt {α : Type} (action : Disk α) : Disk (Except Fault α) := fun files =>
  match action files with
  | .ok value after => .ok (.ok value) after
  | .error .nullByte after => .error .nullByte after
  | .error fault after => .ok (.error fault) after

/-- Whether an action succeeds. -/
def succeeds (action : Disk Unit) : Disk Bool := do
  return (← attempt action).isOk

/-- The result of a question to the system about a path, or the fault that names the path. -/
def ask {α : Type} (path : Text) (question : FileSystem → Except Cause α) : Disk α := fun files =>
  if path.hasNull then .error .nullByte files
  else
    match question files with
    | .ok value => .ok value files
    | .error cause => .error (.system cause path) files

/-- The absolute normal form of a path. -/
def absolute (path : Text) : Disk Text := do
  match (← get).absolute? path with
  | some normal => return normal
  | none => throw .noWorkingDirectory

/-- Where the entry that a path names is, or would be. -/
def entrySpot (host : Host) (rule : LinkRule) (ending : Cause) (path : Text) :
    Disk (Place × Name × Bool) :=
  ask path fun files =>
    match files.locate host rule path with
    | .error cause => .error cause
    | .ok (.itself _) | .ok .removed => .error ending
    | .ok (.entry place name slashed) => .ok (place, name, slashed)

/-- Refuses a name that is too long. -/
def checkName (host : Host) (path : Text) (name : Name) : Disk Unit :=
  if host.nameLimit < name.utf8Size then throw (.system .nameTooLong path) else pure ()

/-- The node of a name in the directory at a place. -/
def nodeAt (place : Place) (name : Name) : Disk (Option Node) := do
  return (← get).at? (place ++ [name])

/-- Sets an entry of the directory at a place. -/
def put (place : Place) (name : Name) (node : Node) : Disk Unit :=
  modify fun files => files.put place name node

/-- Makes a new entry at a path where nothing is. -/
def create (host : Host) (path : Text) (node : Node) : Disk Unit := do
  let (place, name, slashed) ← entrySpot host .never .taken path
  checkName host path name
  match ← nodeAt place name with
  | some _ => throw (.system .taken path)
  | none =>
      if slashed && !node.isDirectory then throw (.system .noEntry path)
      else put place name node

/-- Makes a new directory. -/
def makeDirectory (host : Host) (path : Text) : Disk Unit :=
  create host path (.directory [])

/-- Makes a symbolic link. -/
def makeLink (host : Host) (path target : Text) : Disk Unit :=
  create host path (.link target)

/-- Makes a named pipe. -/
def makePipe (host : Host) (path : Text) : Disk Unit :=
  create host path .pipe

/-- Makes a new empty file. -/
def createFile (host : Host) (path : Text) : Disk Unit := do
  let (place, name, slashed) ← entrySpot host .never .taken path
  if slashed then throw (.system .isDirectory path)
  checkName host path name
  match ← nodeAt place name with
  | some _ => throw (.system .taken path)
  | none => put place name (.file [])

/-- Opens a file for writing, which is made if it is not there, and gives where it is and what it
has kept of its content.  Links are followed, also to a name that does not exist yet. -/
def openFile (host : Host) (path : Text) (keep : Bytes → Bytes) : Disk (Place × Name × Bytes) := do
  let (place, name, slashed) ← entrySpot host .unlessSlashed .isDirectory path
  if slashed then throw (.system .isDirectory path)
  checkName host path name
  let kept ← match ← nodeAt place name with
    | none => pure (keep [])
    | some (.file content) => pure (keep content)
    | some .pipe => throw (.system .unavailable path)
    | some _ => throw (.system .isDirectory path)
  put place name (.file kept)
  return (place, name, kept)

/-- Adds bytes to an opened file.  Where the machine breaks that off, the first of them stay. -/
def writeOpened (host : Host) (place : Place) (name : Name) (kept addition : Bytes) : Disk Unit :=
  match host.breaksOff (place ++ [name]) kept addition with
  | none => put place name (.file (kept ++ addition))
  | some count => do
      put place name (.file (kept ++ addition.take count))
      throw .brokenOff

/-- Changes the content of a file, which is made if it is not there: opens it, and then adds to what
it has kept. -/
def changeFile (host : Host) (path : Text) (keep : Bytes → Bytes) (addition : Bytes := []) :
    Disk Unit := do
  let (place, name, kept) ← openFile host path keep
  writeOpened host place name kept addition

/-- The content of a file. -/
def readFile (host : Host) (path : Text) : Disk Bytes := do
  match ← ask path fun files => files.lookup host .always path with
  | (_, .file content) => return content
  | (_, .pipe) => throw (.system .unavailable path)
  | _ => throw (.system .isDirectory path)

/-- The names in a directory, in the order of the machine. -/
def listNames (host : Host) (path : Text) : Disk (List Name) := do
  match ← ask path fun files => files.lookup host .always path with
  | (place, .directory entries) => return host.arrange (← get) place (Entries.names entries)
  | _ => throw (.system .notDirectory path)

/-- Removes an entry that is no directory.  A link is removed itself. -/
def removeEntry (host : Host) (path : Text) : Disk Unit := do
  let (place, name, slashed) ← entrySpot host .never .isDirectory path
  checkName host path name
  match ← nodeAt place name with
  | none => throw (.system .noEntry path)
  | some (.directory _) => throw (.system .isDirectory path)
  | some _ =>
      if slashed then throw (.system .notDirectory path)
      else modify fun files => files.remove place name

/-- Removes an empty directory. -/
def removeDirectory (host : Host) (path : Text) : Disk Unit := do
  let (place, name, _) ← entrySpot host .never .busy path
  checkName host path name
  match ← nodeAt place name with
  | none => throw (.system .noEntry path)
  | some (.directory []) => modify fun files => files.removeDirectory place name
  | some (.directory _) => throw (.system .notEmpty path)
  | some _ => throw (.system .notDirectory path)

/-- Why a node cannot be relinked over what is at the target, if it cannot.  A directory replaces an
empty directory only, and anything else replaces no directory. -/
def replaceFault? (source : Node) : Option Node → Option Cause
  | none => none
  | some (.directory []) => if source.isDirectory then none else some .isDirectory
  | some (.directory _) => if source.isDirectory then some .notEmpty else some .isDirectory
  | some _ => if source.isDirectory then some .notDirectory else none

/-- Relinks an entry under another path.  Relinking an entry onto itself does nothing. -/
def rename (host : Host) (source target : Text) : Disk Unit := do
  if target.hasNull then throw .nullByte
  if !host.relinks then throw (.system .otherDevice source)
  let (place, name, slashed) ← entrySpot host .never .busy source
  let (targetPlace, targetName, targetSlashed) ← entrySpot host .never .busy target
  checkName host source name
  match ← nodeAt place name with
  | none => throw (.system .noEntry source)
  | some node =>
      checkName host target targetName
      if !node.isDirectory && (slashed || targetSlashed) then throw (.system .notDirectory source)
      else if (place ++ [name]).isPrefixOf targetPlace then throw (.system .invalid source)
      else if (targetPlace ++ [targetName]).isPrefixOf place then throw (.system .notEmpty source)
      else if place = targetPlace ∧ name = targetName then pure ()
      else
        match replaceFault? node (← nodeAt targetPlace targetName) with
        | some cause => throw (.system cause source)
        | none =>
            modify fun files => files.relink place name targetPlace targetName node

end Disk

end LineShell
