import LineShell.FileSystem.Transfer
import LineShell.Proofs.FileSystem.Names
import LineShell.Proofs.FileSystem.Operations

/-!
# Trees that grow

Making directories and copying files adds to a tree.  Links stay as they are and directories stay
directories, so every path denotes and names what it did before.  Some places may be watched:
nothing but directories is added there.
-/

namespace LineShell

/-- A file system with directories and files added, and only directories at watched places. -/
structure Grown (host : Host) (watched : Place → Prop) (before after : FileSystem) : Prop where
  links : ∀ other target,
    after.kind? other = some (.link target) ↔ before.kind? other = some (.link target)
  directories : ∀ other, before.kind? other = some .directory → after.kind? other = some .directory
  leaves : ∀ other kind, watched other → kind ≠ .directory →
    (after.kind? other = some kind ↔ before.kind? other = some kind)
  working : after.working = before.working
  valid : after.Valid host

namespace Grown

variable {host : Host} {watched : Place → Prop} {before now : FileSystem} {path : Text}

theorem refl (hvalid : before.Valid host) : Grown host watched before before :=
  ⟨fun _ _ => Iff.rfl, fun _ h => h, fun _ _ _ _ => Iff.rfl, rfl, hvalid⟩

theorem leaves_below {place : Place} (h : Grown host (place <+: ·) before now) (rest : Place)
    {kind : Kind} (hkind : kind ≠ .directory) :
    now.kind? (place ++ rest) = some kind ↔ before.kind? (place ++ rest) = some kind :=
  h.leaves _ kind (List.prefix_append place rest) hkind

/-- Fewer places may be watched. -/
theorem mono {fewer : Place → Prop} (h : Grown host watched before now)
    (hfewer : ∀ other, fewer other → watched other) : Grown host fewer before now :=
  ⟨h.links, h.directories, fun other kind hother => h.leaves other kind (hfewer other hother),
    h.working, h.valid⟩

section

variable (h : Grown host watched before now)
include h

theorem startOf (path : Text) : now.startOf path = before.startOf path :=
  FileSystem.startOf_congr (congrArg _ h.working) path

theorem placed (hplaced : before.Placed path) : now.Placed path := by
  rw [FileSystem.Placed, h.working]
  exact hplaced

theorem denotes_iff {other : Place} : now.Denotes path other ↔ before.Denotes path other := by
  constructor
  · intro hdenotes
    exact hdenotes.congr (fun place target => (h.links place target).symm) (h.startOf path).symm
  · intro hdenotes
    exact hdenotes.congr h.links (h.startOf path)

theorem names_iff {other : Place} {slashed : Bool} :
    now.Names path other slashed ↔ before.Names path other slashed := by
  constructor
  · intro hnames
    exact hnames.congr (fun place target => (h.links place target).symm) (h.startOf path).symm
  · intro hnames
    exact hnames.congr h.links (h.startOf path)

theorem stands {place : Place} (hstands : before.Stands path place) : now.Stands path place := by
  constructor
  · intro other hnames
    exact hstands.names (h.names_iff.mp hnames)
  · intro other hdenotes
    cases hstands.denotes (h.denotes_iff.mp hdenotes) with
    | inl heq => exact .inl heq
    | inr hlink =>
        obtain ⟨target, hnames, hkind⟩ := hlink
        exact .inr ⟨target, h.names_iff.mpr hnames, (h.links place target).mpr hkind⟩

/-- One more directory or file was added. -/
theorem of_added {after : FileSystem} {added : Place} {kind : Kind}
    (hafter : ∀ other, after.kind? other = if other = added then some kind else now.kind? other)
    (hworking : after.working = now.working) (hvalid : after.Valid host)
    (hold : ∀ old, now.kind? added = some old → ∃ content, old = .file content)
    (hkind : ∀ target, kind ≠ .link target)
    (hwatched : watched added → kind = .directory ∧ now.kind? added = none) :
    Grown host watched before after := by
  constructor
  · intro other target
    rw [← h.links, hafter]
    split
    · rename_i heq
      subst heq
      constructor
      · intro hlink
        exact absurd (Option.some.inj hlink) (hkind target)
      · intro hlink
        obtain ⟨content, hcontent⟩ := hold _ hlink
        cases hcontent
    · rfl
  · intro other hother
    have hnow := h.directories other hother
    rw [hafter, if_neg]
    · exact hnow
    · intro heq
      obtain ⟨content, hcontent⟩ := hold _ (heq ▸ hnow)
      cases hcontent
  · intro other leaf hother hleaf
    rw [← h.leaves other leaf hother hleaf, hafter]
    split
    · rename_i heq
      subst heq
      obtain ⟨hdirectory, hnone⟩ := hwatched hother
      rw [hnone, hdirectory]
      constructor
      · intro hsome
        exact absurd (Option.some.inj hsome).symm hleaf
      · intro hsome
        cases hsome
    · rfl
  · exact hworking.trans h.working
  · exact hvalid

end

end Grown

namespace Disk

variable {host : Host} {place : Place} {before files : FileSystem}

/-! ### Making directories -/

/-- A new directory is put where nothing was. -/
theorem ends_makeDirectory (hfiles : files.Valid host) {path : Text} :
    Ends (makeDirectory host path) files
      (fun _ after => ∃ made, files.kind? made = none ∧ after.working = files.working ∧
        after.Valid host ∧ ∀ other, after.kind? other =
          if other = made then some .directory else files.kind? other)
      (fun _ after => after = files) := by
  apply ends_create.mono
  · rintro _ after ⟨directory, name, slashed, haims, hsize, hnone, rfl⟩
    obtain ⟨hdirectory, hname⟩ := haims.isName hfiles
    have hkind : files.kind? (directory ++ [name]) = none := FileSystem.at?_eq_none_iff.mp hnone
    have hleaf : ∀ other, (Node.directory []).child? other = none := fun _ => rfl
    have hbare : files.Bare (directory ++ [name]) :=
      FileSystem.bare_of_kind?_ne (by simp [hkind])
    exact ⟨directory ++ [name], hkind, FileSystem.working_put files directory name _,
      hfiles.put_leaf hdirectory hname hsize (by simp [hkind]) hleaf,
      FileSystem.kind?_put_leaf hdirectory hbare hleaf⟩
  · intro _ _ hrefused
    exact hrefused.1

/-- What new directories do not touch outlives the making of missing parents. -/
theorem keeps_ensureParent {invariant : FileSystem → Prop}
    (hvalid : ∀ now, invariant now → now.Valid host)
    (hmade : ∀ now after made, invariant now → now.kind? made = none →
      after.working = now.working → after.Valid host →
      (∀ other, after.kind? other = if other = made then some .directory else now.kind? other) →
      invariant after) (path : Text) :
    Keeps invariant (fun _ => True) (makeDirectories host path) ∧
      Keeps invariant (fun _ => True) (ensureParent host path) := by
  have hmake : ∀ path, Keeps invariant (fun _ => True) (makeDirectory host path) := by
    intro path now hnow
    apply (ends_makeDirectory (hvalid now hnow)).mono
    · rintro _ after ⟨made, hnone, hworking, hafter, hkinds⟩
      exact ⟨trivial, hmade now after made hnow hnone hworking hafter hkinds⟩
    · rintro _ after rfl
      exact ⟨trivial, hnow⟩
  have hmakes : ∀ path, Keeps invariant (fun _ => True) (makeDirectories host path) := by
    intro path
    have hany : ∀ path : Text, True → Keeps invariant (fun _ => True) (makeDirectory host path) :=
      fun path _ => hmake path
    exact keeps_makeDirectories (fun _ _ _ => trivial) hany trivial
  have habsolute : Keeps invariant (fun _ => True) (absolute path) := by
    intro now hnow
    unfold absolute
    rw [ends_bind, ends_get]
    split
    · exact ⟨trivial, hnow⟩
    · exact ⟨trivial, hnow⟩
  exact ⟨hmakes path, habsolute.bind fun _ _ => hmakes _⟩

end Disk

end LineShell
