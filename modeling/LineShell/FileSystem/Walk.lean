import LineShell.FileSystem.Fault
import LineShell.FileSystem.Host
import LineShell.Path.Normal

/-!
# Walking a path

The system reads a path component by component, going into directories, back up at `..` and through
symbolic links.  A walk ends at the directory that holds, or would hold, what the last component
names; whether a link in that position is followed is up to the operation.
-/

namespace LineShell

/-- Where a path leads. -/
inductive Spot where
  /-- The path ends in `.`, in `..` or at the root: it leads to a directory itself. -/
  | itself (place : Place)
  /-- The path leads to the working directory or to one above it, which was removed. -/
  | removed
  /-- The path ends in a name, looked up in the directory at a place; it may be spelled with slashes
  after the name. -/
  | entry (place : Place) (name : Name) (slashed : Bool)
  deriving DecidableEq

/-- When the last component of a path is followed if it names a symbolic link. -/
inductive LinkRule where
  | never
  | always
  | whenSlashed
  | unlessSlashed
  deriving DecidableEq

/-- Whether a rule follows a link that is, or is not, spelled with slashes after it. -/
def LinkRule.follows (rule : LinkRule) (slashed : Bool) : Bool :=
  match rule with
  | .never => false
  | .always => true
  | .whenSlashed => slashed
  | .unlessSlashed => !slashed

namespace Walk

/-- Where a link with this target starts from when it stands in the directory at a place. -/
def linkStart (place : Place) (target : Text) : Place :=
  if Path.isAbsolute target then [] else place

/-- Walks the components from the directory at a place.  A link that has to be followed is handed
on: where it starts from, its components and those left to walk. -/
def steps (host : Host) (files : FileSystem) (rule : LinkRule)
    (follow : Place → List Text → Except Cause Spot) : Place → List Text → Except Cause Spot
  | place, [] => .ok (.itself place)
  | place, component :: rest =>
      if component.isEmpty || component == Path.self then
        steps host files rule follow place rest
      else if component == Path.up then
        steps host files rule follow place.dropLast rest
      else if rest.all List.isEmpty then
        match files.at? (place ++ [component]) with
        | some (.link target) =>
            if rule.follows (!rest.isEmpty) then
              follow (linkStart place target) (Text.splitOn '/' target ++ rest)
            else .ok (.entry place component (!rest.isEmpty))
        | _ => .ok (.entry place component (!rest.isEmpty))
      else if host.nameLimit < component.utf8Size then
        .error .nameTooLong
      else
        match files.at? (place ++ [component]) with
        | none => .error .noEntry
        | some (.link target) => follow (linkStart place target) (Text.splitOn '/' target ++ rest)
        | some (.directory _) => steps host files rule follow (place ++ [component]) rest
        | some _ => .error .notDirectory

/-- Walks components through at most so many links. -/
def walk (host : Host) (files : FileSystem) (rule : LinkRule) :
    Nat → Place → List Text → Except Cause Spot
  | 0 => steps host files rule fun _ _ => .error .linkLoop
  | links + 1 => steps host files rule (walk host files rule links)

/-- Walks the components from a removed directory, where so many directories on the way out of it
are gone as well.  Nothing is in any of them, and each still leads to the one above it. -/
def fromRemoved (host : Host) (files : FileSystem) (rule : LinkRule) :
    Nat → List Text → Except Cause Spot
  | 0, components => walk host files rule host.linkLimit files.working.lasting components
  | _ + 1, [] => .ok .removed
  | gone + 1, component :: rest =>
      if component.isEmpty || component == Path.self then
        fromRemoved host files rule (gone + 1) rest
      else if component == Path.up then fromRemoved host files rule gone rest
      else .error .noEntry

/-- Walks the components from the working directory. -/
def fromWorking (host : Host) (files : FileSystem) (rule : LinkRule) (components : List Text) :
    Except Cause Spot :=
  fromRemoved host files rule files.working.gone components

end Walk

namespace FileSystem

/-- The absolute path of the working directory, unless it was removed. -/
def workingPath? (files : FileSystem) : Option Text :=
  if files.working.removed then none
  else some ('/' :: Text.joinWith "/" files.working.place)

/-- The absolute normal form of a path.  A relative one has none if the working directory was
removed. -/
def absolute? (files : FileSystem) (path : Text) : Option Text :=
  if Path.isAbsolute path then some (Path.normalize path)
  else files.workingPath?.map fun working => Path.absolute working path

theorem absolute?_of_isAbsolute (files : FileSystem) {path : Text}
    (hpath : Path.isAbsolute path = true) : files.absolute? path = some (Path.normalize path) := by
  simp [absolute?, hpath]

/-- Where a path leads, or why it leads nowhere. -/
def locate (files : FileSystem) (host : Host) (rule : LinkRule) (path : Text) :
    Except Cause Spot :=
  if path.isEmpty then .error .noEntry
  else if host.pathLimit < path.utf8Size then .error .nameTooLong
  else if Path.isAbsolute path then
    Walk.walk host files rule host.linkLimit [] (Text.splitOn '/' path)
  else Walk.fromWorking host files rule (Text.splitOn '/' path)

/-- What is at a spot, with its place. -/
def atSpot (files : FileSystem) (host : Host) : Spot → Except Cause (Place × Node)
  | .itself place =>
      match files.at? place with
      | some node => .ok (place, node)
      | none => .error .noEntry
  | .removed => .ok (files.working.place, .directory [])
  | .entry place name slashed =>
      if host.nameLimit < name.utf8Size then .error .nameTooLong
      else
        match files.at? (place ++ [name]) with
        | none => .error .noEntry
        | some node =>
            if slashed && !node.isDirectory then .error .notDirectory
            else .ok (place ++ [name], node)

/-- What a path names, with its place. -/
def lookup (files : FileSystem) (host : Host) (rule : LinkRule) (path : Text) :
    Except Cause (Place × Node) :=
  files.locate host rule path >>= files.atSpot host

/-- What a path names, where links are followed to the end. -/
def target? (files : FileSystem) (host : Host) (path : Text) : Option (Place × Node) :=
  if path.hasNull then none else (files.lookup host .always path).toOption

/-- What a path names, where a link in the last position counts itself. -/
def entry? (files : FileSystem) (host : Host) (path : Text) : Option (Place × Node) :=
  if path.hasNull then none else (files.lookup host .whenSlashed path).toOption

/-- Whether a path leads to something, through links. -/
def reaches (files : FileSystem) (host : Host) (path : Text) : Bool :=
  (files.target? host path).isSome

/-- Whether anything exists at a path, dangling links included. -/
def hasEntry (files : FileSystem) (host : Host) (path : Text) : Bool :=
  (files.entry? host path).isSome

/-- Whether a path leads to a directory. -/
def isDirectory (files : FileSystem) (host : Host) (path : Text) : Bool :=
  match files.target? host path with
  | some (_, .directory _) => true
  | _ => false

/-- Whether a path leads to a regular file. -/
def isFile (files : FileSystem) (host : Host) (path : Text) : Bool :=
  match files.target? host path with
  | some (_, .file _) => true
  | _ => false

/-- Whether a path leads to a named pipe. -/
def isPipe (files : FileSystem) (host : Host) (path : Text) : Bool :=
  match files.target? host path with
  | some (_, .pipe) => true
  | _ => false

/-- Whether there is a symbolic link at a path. -/
def isLink (files : FileSystem) (host : Host) (path : Text) : Bool :=
  match files.entry? host path with
  | some (_, .link _) => true
  | _ => false

/-- Whether two paths lead to one place. -/
def samePlace (files : FileSystem) (host : Host) (left right : Text) : Bool :=
  match files.target? host left, files.target? host right with
  | some (leftPlace, _), some (rightPlace, _) => leftPlace == rightPlace
  | _, _ => false

end FileSystem

end LineShell
