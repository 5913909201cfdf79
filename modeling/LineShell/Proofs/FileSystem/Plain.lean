import LineShell.Proofs.FileSystem.Containment
import LineShell.Proofs.FileSystem.Valid

/-!
# File systems of files and directories

Where there is nothing but regular files and directories, and no directory has two entries of one
name, an operation that makes or removes one of them keeps it so.
-/

namespace LineShell

/-- What stands at a place is a directory or a regular file. -/
def Kind.Plain (kind : Kind) : Prop :=
  kind = .directory ∨ ∃ content, kind = .file content

namespace Entries

theorem names_set (name : Name) (node : Node) (entries : Entries) :
    (set name node entries).names =
      if name ∈ entries.names then entries.names else entries.names ++ [name] := by
  induction entries with
  | nil => simp [set, names]
  | cons entry rest ih =>
      obtain ⟨first, old⟩ := entry
      simp only [names] at ih
      by_cases hfirst : first = name
      · simp [set, names, hfirst]
      · by_cases hmem : name ∈ rest.map Prod.fst <;>
          simp [set, names, hfirst, Ne.symm hfirst, ih, hmem]

theorem nodup_names_set {name : Name} {node : Node} {entries : Entries}
    (hentries : entries.names.Nodup) : (set name node entries).names.Nodup := by
  rw [names_set]
  split
  · exact hentries
  · rename_i hmem
    exact List.nodup_append.mpr ⟨hentries, List.nodup_singleton name, fun other hother last hlast =>
      fun heq => hmem (List.mem_singleton.mp hlast ▸ heq ▸ hother)⟩

theorem nodup_names_erase (name : Name) {entries : Entries} (hentries : entries.names.Nodup) :
    (erase name entries).names.Nodup :=
  hentries.sublist (List.filter_sublist.map Prod.fst)

end Entries

namespace Node

/-- No directory at or below a node has two entries of one name. -/
def Distinct (node : Node) : Prop :=
  ∀ place entries, node.at? place = some (.directory entries) → (Entries.names entries).Nodup

theorem distinct_directory_iff {entries : Entries} :
    (directory entries).Distinct ↔ (Entries.names entries).Nodup ∧
      ∀ name child, Entries.get? name entries = some child → child.Distinct := by
  constructor
  · intro h
    refine ⟨h [] entries rfl, fun name child hchild place others hat => ?_⟩
    apply h (name :: place) others
    simpa [at?, child?, hchild] using hat
  · rintro ⟨hnames, hchildren⟩ place others hat
    cases place with
    | nil =>
        obtain rfl : entries = others := by simpa [at?] using hat
        exact hnames
    | cons name rest =>
        obtain ⟨child, hchild, hat⟩ := Option.bind_eq_some_iff.mp hat
        exact hchildren name child hchild rest others hat

theorem Distinct.of_leaf {node : Node} (hleaf : ∀ name, node.child? name = none)
    (hkind : node.kind ≠ .directory ∨ node = .directory []) : node.Distinct := by
  intro place entries hat
  cases place with
  | nil =>
      obtain rfl : node = directory entries := by simpa [at?] using hat
      have hempty : entries = [] := by simpa [kind] using hkind
      simp [hempty, Entries.names]
  | cons name rest => simp [at?, hleaf name] at hat

/-- An edit that leaves the entries of a directory distinct leaves those of the whole tree distinct.
-/
theorem Distinct.edit {change : Entries → Entries} {node : Node} (h : node.Distinct)
    (hchange : ∀ entries, (directory entries).Distinct → (directory (change entries)).Distinct)
    (place : Place) : (node.edit change place).Distinct := by
  induction place generalizing node with
  | nil =>
      cases node with
      | directory entries => exact hchange entries h
      | file content => exact h
      | link target => exact h
      | pipe => exact h
  | cons key rest ih =>
      cases node with
      | directory entries =>
          obtain ⟨hnames, hchildren⟩ := distinct_directory_iff.mp h
          rw [Node.edit, distinct_directory_iff]
          constructor
          · have hsame : Entries.names (entries.map fun entry =>
                if entry.1 = key then (entry.1, Node.edit change rest entry.2) else entry) =
                  Entries.names entries := by
              rw [Entries.names, Entries.names, List.map_map]
              apply List.map_congr_left
              intro entry _
              by_cases hkey : entry.1 = key <;> simp [hkey]
            rw [hsame]
            exact hnames
          · intro name child hchild
            rw [Entries.get?_map_value] at hchild
            split at hchild
            · obtain ⟨old, hold, rfl⟩ := Option.map_eq_some_iff.mp hchild
              exact ih (hchildren _ _ hold)
            · exact hchildren _ _ hchild
      | file content => exact h
      | link target => exact h
      | pipe => exact h

end Node

namespace FileSystem

variable {host : Host} {files : FileSystem} {place : Place} {name : Name}

/-- No directory has two entries of one name. -/
def Distinct (files : FileSystem) : Prop :=
  files.root.Distinct

theorem Distinct.edit (h : files.Distinct) {change : Entries → Entries}
    (hchange : ∀ entries, (Node.directory entries).Distinct →
      (Node.directory (change entries)).Distinct) (place : Place) :
    (files.edit place change).Distinct := by
  rw [Distinct, root_edit]
  exact Node.Distinct.edit h hchange place

theorem Distinct.put (h : files.Distinct) {node : Node} (hnode : node.Distinct) (place : Place)
    (name : Name) : (files.put place name node).Distinct := by
  refine h.edit (fun entries hentries => ?_) place
  obtain ⟨hnames, hchildren⟩ := Node.distinct_directory_iff.mp hentries
  refine Node.distinct_directory_iff.mpr ⟨Entries.nodup_names_set hnames, ?_⟩
  intro other child hchild
  rw [Entries.get?_set] at hchild
  split at hchild
  · exact Option.some.inj hchild ▸ hnode
  · exact hchildren _ _ hchild

theorem Distinct.remove (h : files.Distinct) (place : Place) (name : Name) :
    (files.remove place name).Distinct := by
  refine h.edit (fun entries hentries => ?_) place
  obtain ⟨hnames, hchildren⟩ := Node.distinct_directory_iff.mp hentries
  refine Node.distinct_directory_iff.mpr ⟨Entries.nodup_names_erase name hnames, ?_⟩
  intro other child hchild
  rw [Entries.get?_erase] at hchild
  split at hchild
  · cases hchild
  · exact hchildren _ _ hchild

/-- A file system of regular files and directories, as the system keeps it. -/
structure Plain (files : FileSystem) (host : Host) : Prop where
  valid : files.Valid host
  kinds : ∀ {place kind}, files.kind? place = some kind → kind.Plain
  distinct : files.Distinct

namespace Plain

variable (h : files.Plain host)
include h

theorem linkFree : files.LinkFree := by
  intro place target hkind
  rcases h.kinds hkind with heq | ⟨content, heq⟩ <;> cases heq

theorem exists_file {kind : Kind} (hkind : files.kind? place = some kind)
    (hne : kind ≠ .directory) : ∃ content, kind = .file content :=
  (h.kinds hkind).resolve_left hne

end Plain

end FileSystem

end LineShell
