import LineShell.Text.Utf8

/-!
# The tree of files

A file system is a tree of named entries: directories, files, symbolic links and named pipes.  A
place is the list of names on the way from the root.  What is at a place is read with `at?` and
changed by editing the entry list of the directory that holds it.

Not every kind of entry is here: there are no devices and no sockets, every file has one name only
(no hard links), and an entry has neither an owner nor permissions nor times.

Relative paths start from the working directory.  It stays the same directory when it is moved, and
even when it is removed: then nothing is in it any more, not even if another directory takes its
name.
-/

namespace LineShell

/-- The name of a directory entry. -/
abbrev Name := Text

/-- The names on the way from the root to an entry, the outermost first. -/
abbrev Place := List Name

/-- What a directory can hold. -/
inductive Node where
  | directory (entries : List (Name × Node))
  | file (content : Bytes)
  | link (target : Text)
  | pipe

/-- The entries of a directory, each under its name. -/
abbrev Entries := List (Name × Node)

namespace Entries

/-- The entry of a name. -/
def get? (name : Name) : Entries → Option Node
  | [] => none
  | (other, node) :: rest => if other = name then some node else get? name rest

/-- The entries with one of them set: replaced where its name occurs, else added. -/
def set (name : Name) (node : Node) : Entries → Entries
  | [] => [(name, node)]
  | (other, old) :: rest =>
      if other = name then (name, node) :: rest else (other, old) :: set name node rest

/-- The entries without the one of a name. -/
def erase (name : Name) (entries : Entries) : Entries :=
  entries.filter fun entry => !(entry.1 == name)

/-- The names, in the order of the entries. -/
def names (entries : Entries) : List Name :=
  entries.map Prod.fst

theorem get?_set (name other : Name) (node : Node) (entries : Entries) :
    get? other (set name node entries) = if other = name then some node else get? other entries := by
  induction entries with
  | nil => simp [set, get?, eq_comm]
  | cons entry rest ih =>
      obtain ⟨first, old⟩ := entry
      by_cases hfirst : first = name
      · subst hfirst
        by_cases hother : other = first <;> simp [set, get?, hother, Ne.symm]
      · by_cases hother : other = name
        · subst hother
          simp [set, get?, hfirst, ih]
        · simp [set, get?, hfirst, ih, hother]

theorem set_set (name : Name) (first node : Node) (entries : Entries) :
    set name node (set name first entries) = set name node entries := by
  induction entries with
  | nil => simp [set]
  | cons entry rest ih =>
      obtain ⟨other, old⟩ := entry
      by_cases hother : other = name <;> simp [set, hother, ih]

theorem get?_erase (name other : Name) (entries : Entries) :
    get? other (erase name entries) = if other = name then none else get? other entries := by
  induction entries with
  | nil => simp [erase, get?]
  | cons entry rest ih =>
      obtain ⟨first, old⟩ := entry
      simp only [erase] at ih
      by_cases hfirst : first = name
      · subst hfirst
        by_cases hother : other = first
        · subst hother
          simpa [erase] using ih
        · simp [erase, get?, ih, hother, Ne.symm hother]
      · by_cases hother : other = name
        · subst hother
          simp [erase, get?, hfirst, ih]
        · simp [erase, get?, hfirst, ih, hother]

end Entries

namespace Node

/-- The entry of a name, in a directory. -/
def child? (node : Node) (name : Name) : Option Node :=
  match node with
  | .directory entries => Entries.get? name entries
  | _ => none

/-- What is at a place, seen from this node.  Links are not followed. -/
def at? (node : Node) : Place → Option Node
  | [] => some node
  | name :: rest => (node.child? name).bind (·.at? rest)

/-- The node with the entry list of the directory at a place changed. -/
def edit (change : Entries → Entries) : Place → Node → Node
  | [], .directory entries => .directory (change entries)
  | name :: rest, .directory entries =>
      .directory (entries.map fun entry =>
        if entry.1 = name then (entry.1, edit change rest entry.2) else entry)
  | _, node => node

/-- Two changes at one place are one change. -/
theorem edit_edit (first change : Entries → Entries) (place : Place) (node : Node) :
    edit change place (edit first place node) = edit (change ∘ first) place node := by
  induction place generalizing node with
  | nil => cases node <;> rfl
  | cons name rest ih =>
      cases node with
      | directory entries =>
          simp only [edit, List.map_map, directory.injEq]
          refine List.map_congr_left fun entry _ => ?_
          by_cases hentry : entry.1 = name <;> simp [hentry, ih]
      | _ => rfl

/-- Whether a node is a directory. -/
def isDirectory : Node → Bool
  | .directory _ => true
  | _ => false

end Node

/-- The directory that relative paths start from: the place where it is, or was until it was
removed. -/
structure WorkingDirectory where
  place : Place := []
  /-- How many of the last names of the place were removed, from the innermost out. -/
  gone : Nat := 0
  deriving DecidableEq

namespace WorkingDirectory

/-- Whether the working directory was removed. -/
def removed (working : WorkingDirectory) : Bool :=
  0 < working.gone

/-- The place of the innermost directory on the way to the working directory that is left. -/
def lasting (working : WorkingDirectory) : Place :=
  working.place.take (working.place.length - working.gone)

/-- The working directory after the directory at a place was removed. -/
def afterRemoval (working : WorkingDirectory) (place : Place) : WorkingDirectory :=
  if working.lasting = place then { working with gone := working.gone + 1 } else working

/-- The working directory after an entry was moved. -/
def afterMove (working : WorkingDirectory) (source target : Place) : WorkingDirectory :=
  if source.isPrefixOf working.lasting then
    { working with place := target ++ working.place.drop source.length }
  else working

end WorkingDirectory

/-- A file system: the entries of its root directory, and the working directory. -/
structure FileSystem where
  top : Entries
  working : WorkingDirectory := {}

namespace FileSystem

/-- The file system with nothing in it. -/
def empty : FileSystem := { top := [] }

/-- The root directory. -/
def root (files : FileSystem) : Node :=
  .directory files.top

/-- What is at a place.  Links are not followed. -/
def at? (files : FileSystem) (place : Place) : Option Node :=
  files.root.at? place

/-- The file system with the entry list of the directory at a place changed. -/
def edit (files : FileSystem) (place : Place) (change : Entries → Entries) : FileSystem :=
  match files.root.edit change place with
  | .directory entries => { files with top := entries }
  | _ => files

/-- The file system with an entry set in the directory at a place. -/
def put (files : FileSystem) (place : Place) (name : Name) (node : Node) : FileSystem :=
  files.edit place (Entries.set name node)

/-- The file system without an entry of the directory at a place. -/
def remove (files : FileSystem) (place : Place) (name : Name) : FileSystem :=
  files.edit place (Entries.erase name)

/-- The file system without an empty directory, which may be the working directory. -/
def removeDirectory (files : FileSystem) (place : Place) (name : Name) : FileSystem :=
  { files.remove place name with working := files.working.afterRemoval (place ++ [name]) }

/-- The file system with an entry moved.  What was at its new place is gone, and the working
directory goes with the entry where it is in there. -/
def relink (files : FileSystem) (place : Place) (name : Name) (target : Place) (targetName : Name)
    (node : Node) : FileSystem :=
  let working := (files.working.afterRemoval (target ++ [targetName])).afterMove
    (place ++ [name]) (target ++ [targetName])
  { (files.remove place name).put target targetName node with working }

@[simp]
theorem at?_nil (files : FileSystem) : files.at? [] = some files.root := rfl

@[simp]
theorem root_edit (files : FileSystem) (place : Place) (change : Entries → Entries) :
    (files.edit place change).root = files.root.edit change place := by
  cases place <;> rfl

/-- What was set last in a place is there. -/
theorem put_put (files : FileSystem) (place : Place) (name : Name) (first node : Node) :
    (files.put place name first).put place name node = files.put place name node := by
  have hset : Entries.set name node ∘ Entries.set name first = Entries.set name node :=
    funext (Entries.set_set name first node)
  have hroot : ((files.put place name first).put place name node).root =
      (files.put place name node).root := by
    simp only [put, root_edit, Node.edit_edit, hset]
  injection hroot with htop
  cases place <;> exact congrArg (fun top => { files with top }) htop

end FileSystem

end LineShell
