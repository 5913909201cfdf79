import LineShell.Proofs.FileSystem.Calls
import LineShell.Proofs.FileSystem.Walks
import LineShell.Proofs.Path.Joined

/-!
# Valid file systems

The system never lets an entry have a name that no path could spell or that is too long, and the
working directory is a directory until it is removed.  Both stay true when an entry is made or
removed, because the name of a new entry was spelled as a component of a path.
-/

namespace LineShell

/-- Every name can be spelled in a path, and what is left of the way to the working directory is a
directory. -/
structure FileSystem.Valid (files : FileSystem) (host : Host) : Prop where
  isName : ∀ {place name kind}, files.kind? (place ++ [name]) = some kind → Path.IsName name
  size : ∀ {place name kind}, files.kind? (place ++ [name]) = some kind →
    name.utf8Size ≤ host.nameLimit
  lasting : files.kind? files.working.lasting = some .directory

/-- A walk that ends at a directory itself ends where a directory is. -/
theorem Walks.kind?_itself {files : FileSystem} {rule : LinkRule} {start place : Place}
    {components : List Text} (h : Walks files rule start components (.itself place)) :
    files.kind? place = some .directory := by
  generalize hspot : Spot.itself place = spot at h
  induction h with
  | done hplace =>
      cases hspot
      exact hplace
  | skip _ _ ih => exact ih hspot
  | up _ ih => exact ih hspot
  | enter _ _ _ ih => exact ih hspot
  | follow _ _ _ _ ih => exact ih hspot
  | last => cases hspot

namespace Disk

variable {host : Host} {files : FileSystem} {rule : LinkRule} {path : Text}
variable {place : Place} {name : Name} {slashed : Bool}

theorem Aims.walks (haims : Aims host files rule path place name slashed)
    (hfiles : files.Valid host) :
    Walks files rule (files.startOf path) (Text.splitOn '/' path) (.entry place name slashed) := by
  cases FileSystem.walks_of_locate (.inr hfiles.lasting) haims.locate with
  | inl hremoved => cases hremoved.2
  | inr hwalks => exact hwalks

theorem Aims.isName (haims : Aims host files rule path place name slashed)
    (hfiles : files.Valid host) : files.kind? place = some .directory ∧ Path.IsName name := by
  obtain ⟨hplace, hnaming, hslash⟩ := (haims.walks hfiles).of_components ('/' ∉ ·)
    (fun _ _ _ _ hmem => Path.not_slash_of_mem_splitOn hmem)
    (fun _ hmem => Path.not_slash_of_mem_splitOn hmem)
  exact ⟨hplace, hnaming, hslash⟩

end Disk

namespace FileSystem

variable {host : Host} {files : FileSystem} {place : Place} {name : Name}

@[simp]
theorem working_edit (files : FileSystem) (place : Place) (change : Entries → Entries) :
    (files.edit place change).working = files.working := by
  unfold edit
  split <;> rfl

@[simp]
theorem working_put (files : FileSystem) (place : Place) (name : Name) (node : Node) :
    (files.put place name node).working = files.working := working_edit files place _

@[simp]
theorem working_remove (files : FileSystem) (place : Place) (name : Name) :
    (files.remove place name).working = files.working := working_edit files place _

/-- The names below an existing place are names that a path can spell. -/
theorem Valid.isName_of_mem (hfiles : files.Valid host) {names : Place} {kind : Kind}
    (hkind : files.kind? (place ++ names) = some kind) {name : Name} (hname : name ∈ names) :
    Path.IsName name := by
  obtain ⟨front, back, rfl⟩ := List.append_of_mem hname
  rw [List.append_cons, ← List.append_assoc] at hkind
  by_cases hback : back = []
  · rw [hback, List.append_nil, ← List.append_assoc] at hkind
    exact hfiles.isName hkind
  · have habove := kind?_eq_directory_of_below hkind hback
    rw [← List.append_assoc] at habove
    exact hfiles.isName habove

theorem valid_empty (host : Host) : FileSystem.empty.Valid host := by
  have hbare : FileSystem.empty.Bare [] := bare_of_emptyDirectory rfl
  have hnone : ∀ place name, FileSystem.empty.kind? (place ++ [name]) = none := fun place name =>
    hbare.kind?_eq_none (by simp)
  constructor
  · simp [hnone]
  · simp [hnone]
  · rfl

/-- No directory is replaced by a new leaf. -/
theorem Valid.put_leaf (hfiles : files.Valid host) {node : Node}
    (hplace : files.kind? place = some .directory) (hname : Path.IsName name)
    (hsize : name.utf8Size ≤ host.nameLimit)
    (hkind : files.kind? (place ++ [name]) ≠ some .directory)
    (hleaf : ∀ other, node.child? other = none) : (files.put place name node).Valid host := by
  have hput := kind?_put_leaf hplace (bare_of_kind?_ne hkind) hleaf
  have hsame : ∀ {other last kind},
      (files.put place name node).kind? (other ++ [last]) = some kind →
      last = name ∨ ∃ old, files.kind? (other ++ [last]) = some old := by
    intro other last kind hother
    rw [hput] at hother
    split at hother
    · rename_i heq
      exact .inl (List.append_singleton_inj.mp heq).2
    · exact .inr ⟨kind, hother⟩
  constructor
  · intro other last kind hother
    cases hsame hother with
    | inl heq => exact heq ▸ hname
    | inr hold => exact hfiles.isName hold.choose_spec
  · intro other last kind hother
    cases hsame hother with
    | inl heq => exact heq ▸ hsize
    | inr hold => exact hfiles.size hold.choose_spec
  · rw [working_put, hput, if_neg]
    · exact hfiles.lasting
    · intro heq
      exact hkind (heq ▸ hfiles.lasting)

/-- What is left after a removal has the names it had. -/
theorem Valid.of_fewer {after : FileSystem} (hfiles : files.Valid host)
    (hfewer : ∀ other kind, after.kind? other = some kind → files.kind? other = some kind)
    (hlasting : after.kind? after.working.lasting = some .directory) : after.Valid host :=
  ⟨fun h => hfiles.isName (hfewer _ _ h), fun h => hfiles.size (hfewer _ _ h), hlasting⟩

theorem Valid.remove (hfiles : files.Valid host)
    (hkind : files.kind? (place ++ [name]) ≠ some .directory) :
    (files.remove place name).Valid host := by
  have hremove := kind?_remove_bare (bare_of_kind?_ne hkind)
  apply hfiles.of_fewer
  · intro other kind hother
    rw [hremove] at hother
    split at hother
    · cases hother
    · exact hother
  · rw [working_remove, hremove, if_neg]
    · exact hfiles.lasting
    · intro heq
      exact hkind (heq ▸ hfiles.lasting)

/-- The way to a removed working directory ends one name earlier. -/
theorem lasting_afterRemoval (working : WorkingDirectory) (place : Place) :
    (working.afterRemoval place).lasting =
      if working.lasting = place then place.dropLast else working.lasting := by
  unfold WorkingDirectory.afterRemoval
  split
  · rename_i hplace
    rw [← hplace, WorkingDirectory.lasting, WorkingDirectory.lasting, List.dropLast_eq_take,
      List.take_take, List.length_take]
    congr 1
    simp only
    omega
  · rfl

theorem Valid.removeDirectory (hfiles : files.Valid host)
    (hempty : files.at? (place ++ [name]) = some (.directory [])) :
    (files.removeDirectory place name).Valid host := by
  have hremove : ∀ other, (files.removeDirectory place name).kind? other =
      if other = place ++ [name] then none else files.kind? other :=
    kind?_remove_bare (bare_of_emptyDirectory hempty)
  apply hfiles.of_fewer
  · intro other kind hother
    rw [hremove] at hother
    split at hother
    · cases hother
    · exact hother
  · have hworking : (files.removeDirectory place name).working =
        files.working.afterRemoval (place ++ [name]) := rfl
    rw [hworking, lasting_afterRemoval, hremove]
    split
    · rw [List.dropLast_concat, if_neg (by simp)]
      exact kind?_eq_directory_of_below (kind?_of_at? hempty) (by simp)
    · exact hfiles.lasting

end FileSystem

/-- The names that are listed are those of entries. -/
theorem Disk.ends_listNames_kind? {host : Host} {files : FileSystem} {path : Text}
    (hfiles : files.Valid host) :
    Ends (listNames host path) files
      (fun names after => after = files ∧
        ∀ name ∈ names, ∃ place kind, files.kind? (place ++ [name]) = some kind)
      (fun _ after => after = files) := by
  apply ends_listNames.mono _ fun _ _ hrefused => hrefused.1
  rintro names _ ⟨rfl, -, place, entries, hlookup, hperm⟩
  refine ⟨rfl, fun name hname => ?_⟩
  rw [hperm.mem_iff] at hname
  have hentries := FileSystem.at?_of_lookup (.inr hfiles.lasting) hlookup
    (.inr fun heq => by simp [Node.directory.inj heq, Entries.names] at hname)
  exact ⟨place, (FileSystem.mem_names_iff hentries).mp hname⟩

end LineShell
