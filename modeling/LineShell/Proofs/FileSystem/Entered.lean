import LineShell.Proofs.FileSystem.Found

/-!
# Paths into directories

A path leads into a directory if all its components do, whether or not the system takes a path of
that length.  Names can be joined to it then, one after the other, and as far as the paths fit the
system finds what stands under them.
-/

namespace LineShell

namespace FileSystem

variable {host : Host} {files after : FileSystem} {path : Text} {place : Place} {name : Name}

/-- What the system finds to be a directory is one, unless it may be a removed one. -/
theorem kind?_of_isDirectory (hfiles : files.Valid host) (hplaced : files.Placed path)
    (hpath : files.Denotes path place) (hdirectory : files.isDirectory host path = true) :
    files.kind? place = some .directory := by
  obtain ⟨found, entries, htarget⟩ := isDirectory_iff.mp hdirectory
  obtain ⟨hat, hfound⟩ := denotes_of_placed hfiles hplaced (target?_eq_some_iff.mp htarget).2
    fun _ => by simp
  rw [hpath.unique hfound]
  exact kind?_of_at? hat

/-- A path leads into the directory at a place, be it too long or not. -/
def Enters (host : Host) (files : FileSystem) (path : Text) (place : Place) : Prop :=
  files.Way host path (Text.splitOn '/' path) place

/-- Where there are no links, components lead into a directory if all that they go into are
directories. -/
theorem arrives_of_visited (hlinks : files.LinkFree) {start last : Place} {components : List Text}
    (h : Leads files start components last) (hstart : files.kind? start = some .directory)
    (hvisited : ∀ entry ∈ Walk.visited start components, files.kind? entry = some .directory)
    {links : Nat} : Arrives files links start components last := by
  induction h with
  | done => exact .done hstart
  | skip hcomponent _ ih =>
      rw [Walk.visited_of_skipped hcomponent] at hvisited
      exact .skip hcomponent (ih hstart hvisited)
  | up _ ih =>
      rw [Walk.visited_up] at hvisited
      exact .up (ih (kind?_dropLast hstart) hvisited)
  | enter hname _ _ ih =>
      rw [Walk.visited_of_naming hname] at hvisited
      obtain ⟨hkind, hrest⟩ := List.forall_mem_cons.mp hvisited
      exact .enter hname hkind (ih hkind hrest)
  | follow _ hkind => exact absurd hkind (hlinks _ _)

theorem Enters.of_visited (hfiles : files.Valid host) (hlinks : files.LinkFree)
    (hrooted : files.Rooted path) (h : files.Denotes path place)
    (hvisited : ∀ entry ∈ files.visited path, files.kind? entry = some .directory) :
    files.Enters host path place := by
  have harrives : Arrives files host.linkLimit (files.startOf path) (Text.splitOn '/' path) place :=
    arrives_of_visited hlinks h (hrooted.kind?_startOf hfiles) hvisited
  unfold Enters Way
  unfold startOf at harrives
  split
  · rwa [if_pos ‹_›] at harrives
  · rename_i hpath
    rw [if_neg hpath] at harrives
    obtain ⟨hgone, hlasting⟩ := hrooted.lasting_eq (by simpa using hpath)
    rw [hgone]
    exact .start (hlasting ▸ harrives)

/-- What the system finds to be a directory is one that the path leads into, unless it may be a
removed one. -/
theorem Enters.of_isDirectory (hfiles : files.Valid host) (hrooted : files.Rooted path)
    (hdirectory : files.isDirectory host path = true) : ∃ place, files.Enters host path place := by
  obtain ⟨place, entries, htarget⟩ := isDirectory_iff.mp hdirectory
  obtain ⟨spot, hlocate, hspot⟩ := exists_spot_of_lookup (target?_eq_some_iff.mp htarget).2
  unfold locate at hlocate
  split at hlocate
  · cases hlocate
  split at hlocate
  · cases hlocate
  refine ⟨place, ?_⟩
  unfold Enters Way
  split at hlocate
  · rw [if_pos ‹_›]
    exact Walk.arrives_of_walk rfl hlocate hspot
  · rename_i hpath
    rw [if_neg hpath]
    obtain ⟨hgone, -⟩ := hrooted.lasting_eq (by simpa using hpath)
    rw [Walk.fromWorking, hgone, Walk.fromRemoved] at hlocate
    rw [hgone]
    exact .start (Walk.arrives_of_walk hfiles.lasting hlocate hspot)

namespace Enters

variable (h : files.Enters host path place)
include h

theorem kind?_eq : files.kind? place = some .directory :=
  Way.kind?_eq h

theorem denotes : files.Denotes path place :=
  Way.leads h

theorem of_directories (hlinks : files.LinkFree) (hworking : after.working = files.working)
    (hkept : ∀ other, files.kind? other = some .directory → after.kind? other = some .directory) :
    after.Enters host path place :=
  Way.of_directories h hlinks hworking hkept

variable (hfiles : files.Valid host) (hname : Path.IsName name)
include hfiles hname

theorem exists_ahead :
    ∃ front, Ahead host files (Path.join path name) place name front [] := by
  obtain ⟨front, hfront, hsplit⟩ := Path.splitOn_join path hname.not_slash
  have hway : files.Way host path front place := by
    rcases hfront with hfront | hfront
    · exact hfront ▸ h
    · exact Way.of_append_empty h hfiles (by simp) hfront
  exact ⟨front, hsplit, hname.naming, rfl,
    hway.of_isAbsolute (Path.isAbsolute_join_of_not_slash hname.not_slash)⟩

/-- A name joined to the path leads into the directory of the name. -/
theorem join (hkind : files.kind? (place ++ [name]) = some .directory) :
    files.Enters host (Path.join path name) (place ++ [name]) := by
  obtain ⟨front, hahead⟩ := h.exists_ahead hfiles hname
  rw [Enters, hahead.split]
  exact hahead.way.append (.enter hahead.naming hkind (.done hkind))

theorem aims (hfits : Path.Fits host (Path.join path name)) :
    Disk.Aims host files .never (Path.join path name) place name false := by
  obtain ⟨front, hahead⟩ := h.exists_ahead hfiles hname
  exact Disk.aims_of_ahead hahead hfiles hfits fun _ _ => rfl

end Enters

end FileSystem

end LineShell
