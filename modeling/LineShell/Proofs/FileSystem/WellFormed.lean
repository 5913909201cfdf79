import LineShell.Proofs.FileSystem.NullFree
import LineShell.Proofs.FileSystem.Plain

/-!
# Well-formed trees

All that is asked of a tree for the system to have made it can be told from each of its directories:
its names can be spelled in a path, are not too long and occur once, and nothing has a null
character in it.
-/

namespace LineShell

namespace Node

variable {host : Host}

/-- A tree as the system keeps it. -/
structure WellFormed (host : Host) (node : Node) : Prop where
  names : ∀ {place kind}, node.kind? place = some kind →
    ∀ name ∈ place, Path.IsName name ∧ name.utf8Size ≤ host.nameLimit
  distinct : node.Distinct
  nullFree : node.NullFree

theorem wellFormed_directory {entries : Entries}
    (hnames : ∀ name ∈ Entries.names entries,
      Path.IsName name ∧ name.utf8Size ≤ host.nameLimit ∧ name.hasNull = false)
    (hdistinct : (Entries.names entries).Nodup)
    (hentries : ∀ entry ∈ entries, entry.2.WellFormed host) :
    (Node.directory entries).WellFormed host := by
  have hspelled : ∀ entry ∈ entries, Path.IsName entry.1 ∧ entry.1.utf8Size ≤ host.nameLimit ∧
      entry.1.hasNull = false := fun entry hmem => hnames _ (List.mem_map_of_mem hmem)
  refine ⟨fun {place kind} hkind => ?_, ?_, ?_⟩
  · apply forall_kind?_directory _ _ place kind hkind
    · simp
    · intro entry hmem rest kind hrest name hname
      rcases List.mem_cons.mp hname with rfl | hname
      · exact ⟨(hspelled entry hmem).1, (hspelled entry hmem).2.1⟩
      · exact (hentries entry hmem).names hrest name hname
  · exact distinct_directory_iff.mpr ⟨hdistinct, fun name child hchild =>
      (hentries _ (Entries.mem_of_get? hchild)).distinct⟩
  · exact nullFree_directory fun entry hmem =>
      ⟨(hspelled entry hmem).2.2, (hentries entry hmem).nullFree⟩

theorem wellFormed_leaf {node : Node} (hleaf : node.kind ≠ .directory)
    (hlink : ∀ target, node.kind = .link target → target.hasNull = false) :
    node.WellFormed host := by
  have hnone := child?_of_kind_ne hleaf
  refine ⟨fun {place kind} hkind => ?_, .of_leaf hnone (.inl hleaf), .of_leaf hnone hlink⟩
  apply forall_kind?_leaf hnone _ place kind hkind
  exact fun name hmem => absurd hmem List.not_mem_nil

theorem wellFormed_file (content : Bytes) : (Node.file content).WellFormed host :=
  wellFormed_leaf (by simp [kind]) (by simp [kind])

theorem wellFormed_link {target : Text} (htarget : target.hasNull = false) :
    (Node.link target).WellFormed host :=
  wellFormed_leaf (by simp [kind]) fun _ h => Kind.link.inj h ▸ htarget

theorem wellFormed_pipe : Node.pipe.WellFormed host :=
  wellFormed_leaf (by simp [kind]) (by simp [kind])

end Node

/-- A well-formed tree with the root for a working directory is valid. -/
theorem FileSystem.valid_of_wellFormed {host : Host} {entries : Entries}
    (h : (Node.directory entries).WellFormed host) :
    FileSystem.Valid { top := entries } host :=
  ⟨fun hkind => (h.names hkind _ (by simp)).1, fun hkind => (h.names hkind _ (by simp)).2, rfl⟩

end LineShell
