import LineShell.Proofs.FileSystem.Performed

/-!
# Making and removing single entries

Four operations make or remove one entry: a new directory, a new empty file, an empty directory, a
file or a link.  Each either does just this to the entry that its path names, or leaves the file
system as it is.  An entry that is a link is never followed.
-/

namespace LineShell

/-- The commands that make or remove one entry for each argument. -/
inductive EntryCommand where
  | makeDirectory
  | removeDirectory
  | removeFile
  | createFile
  deriving DecidableEq

namespace EntryCommand

/-- What a command asks of the entry that it works on. -/
def Applies (command : EntryCommand) (files : FileSystem) (place : Place) : Prop :=
  match command with
  | .makeDirectory | .createFile => files.kind? place = none
  | .removeDirectory => files.kind? place = some .directory ∧ files.Bare place
  | .removeFile =>
      (∃ content, files.kind? place = some (.file content)) ∨
        ∃ target, files.kind? place = some (.link target)

/-- What stands at the entry after a command has done its work. -/
def leaves (command : EntryCommand) : Option Kind :=
  match command with
  | .makeDirectory => some .directory
  | .createFile => some (.file [])
  | .removeDirectory | .removeFile => none

/-- A command has done its work on the entry that a path names, and has changed nothing else. -/
structure Done (command : EntryCommand) (host : Host) (path : Text) (place : Place)
    (before after : FileSystem) : Prop where
  names : ∃ slashed, before.Names path place slashed
  applies : command.Applies before place
  kinds : ∀ other, after.kind? other = if other = place then command.leaves else before.kind? other
  working : after.working =
    if command = .removeDirectory then before.working.afterRemoval place else before.working
  valid : after.Valid host

theorem Applies.kind?_ne_leaves {command : EntryCommand} {files : FileSystem} {place : Place}
    (h : command.Applies files place) : files.kind? place ≠ command.leaves := by
  cases command with
  | makeDirectory => exact fun heq => nomatch h.symm.trans heq
  | createFile => exact fun heq => nomatch h.symm.trans heq
  | removeDirectory => exact fun heq => nomatch h.1.symm.trans heq
  | removeFile =>
      rcases h with ⟨content, hkind⟩ | ⟨target, hkind⟩ <;>
        exact fun heq => nomatch hkind.symm.trans heq

/-- Work that was done can be seen. -/
theorem Done.ne {command : EntryCommand} {host : Host} {path : Text} {place : Place}
    {before after : FileSystem} (h : command.Done host path place before after) :
    after ≠ before := by
  rintro rfl
  apply h.applies.kind?_ne_leaves
  rw [h.kinds, if_pos rfl]

end EntryCommand

namespace Disk

variable {host : Host} {files : FileSystem} {path : Text} {place : Place} {name : Name}
variable {slashed : Bool}

/-- A call on a path without null characters is answered, be it refused or not. -/
theorem completes_attempt {A : Type} {action : Disk A} {done : A → FileSystem → Prop}
    (hends : Ends action files done (Refused files path)) (hnull : path.hasNull = false) :
    Completes (attempt action) files fun result after =>
      (∃ value, result = .ok value ∧ done value after) ∨
        (∃ cause, result = .error (.system cause path)) ∧ after = files := by
  rw [Completes, ends_attempt]
  apply hends.mono
  · exact fun value after hdone => .inl ⟨value, rfl, hdone⟩
  · rintro fault after ⟨rfl, hfault⟩
    rw [if_neg (by simp [hnull])] at hfault
    obtain ⟨cause, rfl⟩ := hfault
    rw [if_neg (by simp)]
    exact .inr ⟨⟨cause, rfl⟩, rfl⟩

theorem completes_succeeds {action : Disk Unit} {done : FileSystem → Prop}
    (hends : Ends action files (fun _ after => done after) (Refused files path))
    (hnull : path.hasNull = false) :
    Completes (succeeds action) files fun success after =>
      success = true ∧ done after ∨ success = false ∧ after = files := by
  simp only [Completes, succeeds, ends_bind, ends_pure]
  apply (completes_attempt hends hnull).ends
  rintro result after (⟨value, rfl, hdone⟩ | ⟨⟨cause, rfl⟩, rfl⟩)
  · exact .inl ⟨rfl, hdone⟩
  · exact .inr ⟨rfl, rfl⟩

/-- What the system takes for a file or a link is one, and no pipe. -/
theorem applies_removeFile {node : Node} (haims : Aims host files .never path place name false)
    (hfiles : files.Valid host) (hnode : files.at? (place ++ [name]) = some node)
    (htest : (files.isFile host path || files.isLink host path) = true) :
    EntryCommand.removeFile.Applies files (place ++ [name]) := by
  have hkind := FileSystem.kind?_of_at? hnode
  by_cases hlink : ∃ target, files.kind? (place ++ [name]) = some (.link target)
  · exact .inr hlink
  · have htarget := haims.target?_eq hfiles hnode (by simp) (not_exists.mp hlink)
    have hentry := haims.entry?_eq hfiles hnode (by simp)
    rw [FileSystem.isFile, FileSystem.isLink, htarget, hentry] at htest
    cases node with
    | file content => exact .inl ⟨content, hkind⟩
    | link target => exact .inr ⟨target, hkind⟩
    | directory entries => cases htest
    | pipe => cases htest

section

variable (hfiles : files.Valid host) (hnull : path.hasNull = false)
include hfiles hnull

/-- A directory is made, or nothing is. -/
theorem completes_tryMakeDirectory :
    Completes (tryMakeDirectory host path) files fun success after =>
      success = true ∧ (∃ place, EntryCommand.makeDirectory.Done host path place files after) ∨
        success = false ∧ after = files := by
  apply completes_succeeds _ hnull
  apply ends_create.mono_done
  rintro - after ⟨place, name, slashed, haims, hsize, hnone, rfl⟩
  have hkind := FileSystem.at?_eq_none_iff.mp hnone
  obtain ⟨hplace, hname⟩ := haims.isName hfiles
  have hchanged : files.Changed host (place ++ [name]) (some (Node.directory []).kind)
      (files.put place name (.directory [])) :=
    changed_put hfiles hplace hname hsize (by simp [hkind]) (.inr rfl)
  exact ⟨place ++ [name], ⟨slashed, haims.names hfiles⟩, hkind, hchanged.kinds, hchanged.working,
    hchanged.valid⟩

/-- A file is made, or nothing is. -/
theorem completes_tryCreateFile :
    Completes (tryCreateFile host path) files fun creation after =>
      creation = .created ∧ (∃ place, EntryCommand.createFile.Done host path place files after) ∨
        creation ≠ .created ∧ after = files := by
  simp only [Completes, tryCreateFile, ends_bind, ends_get]
  split
  · exact .inr ⟨by simp, rfl⟩
  rw [ends_bind]
  apply (completes_attempt ends_createFile hnull).ends
  rintro result after (⟨-, rfl, place, name, haims, hsize, hnone, rfl⟩ | ⟨⟨cause, rfl⟩, rfl⟩)
  · have hkind := FileSystem.at?_eq_none_iff.mp hnone
    obtain ⟨hplace, hname⟩ := haims.isName hfiles
    have hchanged : files.Changed host (place ++ [name]) (some (Node.file []).kind)
        (files.put place name (.file [])) :=
      changed_put hfiles hplace hname hsize (by simp [hkind]) (.inl (by simp [Node.kind]))
    exact .inl ⟨rfl, place ++ [name], ⟨false, haims.names hfiles⟩, hkind, hchanged.kinds,
      hchanged.working, hchanged.valid⟩
  · split
    · contradiction
    · exact .inr ⟨by simp, rfl⟩
    · exact .inr ⟨by simp, rfl⟩

/-- A file or a link is removed, or nothing is. -/
theorem completes_tryRemoveFile :
    Completes (tryRemoveFile host path) files fun success after =>
      success = true ∧ (∃ place, EntryCommand.removeFile.Done host path place files after) ∨
        success = false ∧ after = files := by
  simp only [Completes, tryRemoveFile, ends_bind, ends_get]
  split
  · rename_i htest
    apply completes_succeeds _ hnull
    apply ends_removeEntry.mono_done
    rintro - after ⟨place, name, node, haims, hnode, hleaf, rfl⟩
    have hkind := FileSystem.kind?_of_at? hnode
    have hne : files.kind? (place ++ [name]) ≠ some .directory := by
      rw [hkind, ne_eq, Option.some.injEq, ← Node.isDirectory_iff, hleaf]
      simp
    have hchanged := changed_remove hfiles hne
    exact ⟨place ++ [name], ⟨false, haims.names hfiles⟩,
      applies_removeFile haims hfiles hnode htest, hchanged.kinds, hchanged.working, hchanged.valid⟩
  · exact .inr ⟨rfl, rfl⟩

/-- An empty directory is removed, or nothing is. -/
theorem completes_tryRemoveDirectory :
    Completes (tryRemoveDirectory host path) files fun removal after =>
      removal = .removed ∧ (∃ place, EntryCommand.removeDirectory.Done host path place files after) ∨
        removal ≠ .removed ∧ after = files := by
  simp only [Completes, tryRemoveDirectory, ends_bind, ends_get]
  split
  · exact .inr ⟨by simp, rfl⟩
  rw [ends_bind]
  apply (completes_attempt (ends_listNames.mono (fun _ _ h => h.1) fun _ _ h => h) hnull).ends
  rintro result after (⟨names, rfl, rfl⟩ | ⟨⟨cause, rfl⟩, rfl⟩)
  · cases names with
    | cons first rest => exact .inr ⟨by simp, rfl⟩
    | nil =>
        dsimp only
        rw [ends_bind]
        apply (completes_succeeds ends_removeDirectory hnull).ends
        rintro success last (⟨rfl, place, name, slashed, haims, hempty, rfl⟩ | ⟨rfl, rfl⟩)
        · exact .inl ⟨rfl, place ++ [name], ⟨slashed, haims.names hfiles⟩,
            ⟨FileSystem.kind?_of_at? hempty, FileSystem.bare_of_emptyDirectory hempty⟩,
            FileSystem.kind?_remove_bare (FileSystem.bare_of_emptyDirectory hempty), rfl,
            hfiles.removeDirectory hempty⟩
        · exact .inr ⟨by simp, rfl⟩
  · exact .inr ⟨by simp, rfl⟩

end

end Disk

end LineShell
