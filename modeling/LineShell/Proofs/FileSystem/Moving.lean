import LineShell.Proofs.FileSystem.TreeCopies
import LineShell.Proofs.FileSystem.TreeRemoval

/-!
# What a move conserves

A move relinks its source, or copies it and removes it afterwards.  Relinking takes all files along.
A copy that is followed by a removal conserves them exactly if the copies land apart: outside of the
source tree, which is removed in the end, and apart from each other.  Nothing in a move sees to
that, so files are lost where the target lies above the source or has links below it.
-/

namespace LineShell

namespace FileSystem

/-- Names below a path mean a place: the path with the names denotes it, or it lies under the names
from the entry that the path names.  The two differ where the path names a link, which a copy writes
through and a relinked entry replaces. -/
def Meant (files : FileSystem) (path : Text) (names other : Place) : Prop :=
  files.Denotes (Path.below path names) other ∨
    ∃ entry slashed, files.Names path entry slashed ∧ other = entry ++ names

/-- Every regular file at or below the source is where it was, or at the place that its path below
the target meant. -/
def Conserves (files : FileSystem) (target : Text) (place : Place) (node : Node)
    (after : FileSystem) : Prop :=
  ∀ names content, node.at? names = some (.file content) →
    after.at? (place ++ names) = some (.file content) ∨
      ∃ other, files.Meant target names other ∧ after.at? other = some (.file content)

/-- Nothing is left at the source, and every regular file at or below it is at the place that its
path below the target meant. -/
def Transfers (files : FileSystem) (target : Text) (place : Place) (node : Node)
    (after : FileSystem) : Prop :=
  after.at? place = none ∧ ∀ names content, node.at? names = some (.file content) →
    ∃ other, files.Meant target names other ∧ after.at? other = some (.file content)

theorem Transfers.conserves {files after : FileSystem} {target : Text} {place : Place} {node : Node}
    (h : files.Transfers target place node after) : files.Conserves target place node after :=
  fun names content hfile => .inr (h.2 names content hfile)

theorem kind?_relink (files : FileSystem) (directory : Place) (name : Name) (target : Place)
    (targetName : Name) (node : Node) (other : Place) :
    (files.relink directory name target targetName node).kind? other =
      ((files.remove directory name).put target targetName node).kind? other := rfl

end FileSystem

namespace Disk

variable {host : Host} {files now : FileSystem} {source target : Text} {place : Place} {node : Node}

/-- The entry that is renamed is the one that the system found. -/
theorem eq_place_of_rename (hstands : files.Stands source place)
    (hnow : Grown host (place <+: ·) files now) {directory : Place} {name : Name} {slashed : Bool}
    (haims : Aims host now .never source directory name slashed) {moved : Node}
    (hmoved : now.at? (directory ++ [name]) = some moved)
    (hslashed : slashed = true → moved.isDirectory = true) : directory ++ [name] = place := by
  have hnames := haims.names hnow.valid
  have hstands := hnow.stands hstands
  cases slashed with
  | false => exact hstands.names hnames
  | true =>
      have hkind := FileSystem.kind?_of_at? hmoved
      rw [Node.isDirectory_iff.mp (hslashed rfl)] at hkind
      cases hstands.denotes (hnames.denotes (by simp [hkind])) with
      | inl heq => exact heq
      | inr hlink =>
          obtain ⟨link, hlink, -⟩ := hlink
          exact (hnames.unique hlink).1

/-- A relinked entry takes all files along. -/
theorem transfers_relink (hat : files.at? place = some node)
    (hnow : Grown host (place <+: ·) files now) {directory targetPlace : Place}
    {name targetName : Name} {moved : Node} (hplace : directory ++ [name] = place)
    (hmoved : now.at? place = some moved) (htarget : now.kind? targetPlace = some .directory)
    (hnames : ∃ slashed, files.Names target (targetPlace ++ [targetName]) slashed)
    (hinside : ¬ place <+: targetPlace) (houtside : ¬ targetPlace ++ [targetName] <+: directory)
    (hne : place ≠ targetPlace ++ [targetName]) :
    files.Transfers target place node
      (now.relink directory name targetPlace targetName moved) := by
  subst hplace
  have hdirectory : (now.remove directory name).kind? targetPlace = some .directory := by
    rw [FileSystem.kind?_remove_of_apart now hinside]
    exact htarget
  constructor
  · have hapart : ¬ targetPlace ++ [targetName] <+: directory ++ [name] := by
      intro hprefix
      cases List.prefix_concat_iff.mp hprefix with
      | inl heq => exact hne heq.symm
      | inr hbelow => exact houtside hbelow
    rw [FileSystem.at?_eq_none_iff, FileSystem.kind?_relink,
      FileSystem.kind?_put_of_apart _ moved hapart]
    exact FileSystem.kind?_remove now directory name []
  · intro names content hfile
    obtain ⟨slashed, hnames⟩ := hnames
    refine ⟨targetPlace ++ [targetName] ++ names, .inr ⟨_, slashed, hnames, rfl⟩, ?_⟩
    rw [FileSystem.at?_file_below_iff hat, ← hnow.leaves_below names (by simp),
      FileSystem.kind?_append hmoved] at hfile
    rw [FileSystem.at?_file_iff, FileSystem.kind?_relink, ← List.append_cons,
      FileSystem.kind?_put hdirectory targetName moved names]
    exact hfile

/-- As long as a tree has only grown, its files are at their old places. -/
theorem conserves_of_grown (hat : files.at? place = some node)
    (hnow : Grown host (place <+: ·) files now) : files.Conserves target place node now := by
  intro names content hfile
  left
  rw [FileSystem.at?_file_iff, hnow.leaves_below names (by simp),
    ← FileSystem.at?_file_below_iff hat]
  exact hfile

/-- A move by relinking conserves all files. -/
theorem ends_moveByRelinking (hfiles : files.Valid host) (hat : files.at? place = some node)
    (hstands : files.Stands source place) :
    Ends (moveByRelinking host source target) files
      (fun _ after => files.Conserves target place node after ∧
        ((∀ slashed, ¬ files.Names target place slashed) →
          files.Transfers target place node after))
      (fun _ after => Grown host (place <+: ·) files after) := by
  have hparents : Keeps (Grown host (place <+: ·) files) (fun _ => True)
      (ensureParent host target) := by
    apply (keeps_ensureParent (fun now hnow => hnow.valid) _ target).2
    intro now after made hnow hnone hworking hvalid hafter
    exact hnow.of_added hafter hworking hvalid (by simp [hnone]) (by simp) fun _ => ⟨rfl, hnone⟩
  unfold moveByRelinking
  rw [ends_bind]
  apply (hparents files (.refl hfiles)).mono
  · rintro _ now ⟨-, hnow⟩
    apply ends_rename.mono
    · rintro _ after ⟨directory, name, slashed, targetPlace, targetName, targetSlashed, moved,
        haims, htarget, hmoved, -, hslashed, hinside, houtside, hcase⟩
      have hplace := eq_place_of_rename hstands hnow haims hmoved fun hs => hslashed (by simp [hs])
      have hnames : files.Names target (targetPlace ++ [targetName]) targetSlashed :=
        hnow.names_iff.mp (htarget.names hnow.valid)
      rw [hplace] at hmoved hinside hcase
      cases hcase with
      | inl hsame =>
          obtain ⟨heq, rfl⟩ := hsame
          exact ⟨conserves_of_grown hat hnow, fun hother => absurd (heq ▸ hnames) (hother _)⟩
      | inr hmove =>
          obtain ⟨hne, -, rfl⟩ := hmove
          have htransfers := transfers_relink hat hnow hplace hmoved
            (htarget.isName hnow.valid).1 ⟨_, hnames⟩ hinside houtside hne
          exact ⟨htransfers.conserves, fun _ => htransfers⟩
    · rintro _ _ ⟨rfl, -⟩
      exact hnow
  · exact fun _ _ hfailed => hfailed.2

/-! ### Copying and removing -/

/-- Every regular file at or below the source has its content where the path below the target
leads, and outside of the source. -/
def Saved (files : FileSystem) (target : Text) (place : Place) (now : FileSystem) : Prop :=
  ∀ names content, files.kind? (place ++ names) = some (.file content) →
    ∃ landing, files.Denotes (Path.below target names) landing ∧ ¬ place <+: landing ∧
      now.kind? landing = some (.file content)

/-- A move by copying ends after its copy, or with what its removal left of that. -/
theorem ends_moveByCopying (hstands : files.Stands source place) (hplaced : files.Placed source)
    {copied failed : FileSystem → Prop}
    (hcopied : ∀ middle, copied middle → Grown host (fun _ => False) files middle)
    (htree : now.isDirectory host source = true → now.isLink host source = false →
      Ends (copyTree host (depthLimit host) source target) now (fun _ middle => copied middle)
        (fun _ middle => failed middle))
    (hfile : ¬ (now.isDirectory host source = true ∧ now.isLink host source = false) →
      Ends (copyFile host source target) now (fun _ middle => copied middle)
        (fun _ middle => failed middle)) :
    Ends (moveByCopying host source target) now
      (fun _ after => after.kind? place = none ∧
        ∃ middle, copied middle ∧ Pruned host place middle after)
      (fun _ after => failed after ∨ ∃ middle, copied middle ∧ Pruned host place middle after) := by
  have hremove : ∀ middle, copied middle →
      Ends (do if !(← tryRemoveTree host source) then throw (.sourceKept source) : Disk Unit) middle
        (fun _ after => after.kind? place = none ∧
          ∃ middle, copied middle ∧ Pruned host place middle after)
        (fun _ after =>
          failed after ∨ ∃ middle, copied middle ∧ Pruned host place middle after) := by
    intro middle hmiddle
    have hgrown := hcopied middle hmiddle
    rw [ends_bind]
    apply (ends_tryRemoveTree hgrown.valid (hgrown.stands hstands) (hgrown.placed hplaced)).mono
    · rintro removed after ⟨hpruned, hgone⟩
      cases removed with
      | true => exact ⟨hgone rfl, middle, hmiddle, hpruned⟩
      | false => exact .inr ⟨middle, hmiddle, hpruned⟩
    · exact fun _ after hpruned => .inr ⟨middle, hmiddle, hpruned⟩
  simp only [moveByCopying, ends_bind, ends_get]
  split
  · rename_i htest
    rw [Bool.and_eq_true, Bool.not_eq_true'] at htest
    rw [ends_bind]
    apply (htree htest.1 htest.2).mono
    · exact fun _ middle hmiddle => hremove middle hmiddle
    · exact fun _ _ hfailed => .inl hfailed
  · rename_i htest
    rw [Bool.and_eq_true, Bool.not_eq_true'] at htest
    rw [ends_bind]
    apply (hfile htest).mono
    · exact fun _ middle hmiddle => hremove middle hmiddle
    · exact fun _ _ hfailed => .inl hfailed

/-- What was saved outlives the removal of the source. -/
theorem Saved.exists_meant {after : FileSystem} (hsaved : Saved files target place now)
    (hat : files.at? place = some node) (hpruned : Pruned host place now after) {names : Place}
    {content : Bytes} (hfile : node.at? names = some (.file content)) :
    ∃ other, files.Meant target names other ∧ after.at? other = some (.file content) := by
  rw [FileSystem.at?_file_below_iff hat] at hfile
  obtain ⟨landing, hlanding, houtside, hkept⟩ := hsaved names content hfile
  refine ⟨landing, .inl hlanding, ?_⟩
  rw [FileSystem.at?_file_iff, hpruned.apart houtside]
  exact hkept

/-- Where its copies land apart, a directory is saved by copying it. -/
theorem ends_copyTree_saved (hapart : files.CopiesApart source target place)
    (hdenotes : files.Denotes source place) (hplaced : files.Placed source)
    (hnow : Grown host (place <+: ·) files now) :
    Ends (copyTree host (depthLimit host) source target) now
      (fun _ middle => Grown host (place <+: ·) files middle ∧ Saved files target place middle)
      (fun _ middle => Grown host (place <+: ·) files middle) := by
  have hhere : files.Denotes (Path.below source []) (place ++ []) := by
    rw [List.append_nil]
    exact hdenotes
  apply (ends_copyTree hapart hhere hplaced hnow).mono
  · rintro _ middle ⟨hmiddle, hlanded⟩
    refine ⟨hmiddle.grown, fun names content hfile => ?_⟩
    obtain ⟨landing, hlands, hlanding⟩ := hlanded names content hfile
    exact ⟨landing, hlands.denotes, hapart.outside hlands, hlanding⟩
  · exact fun _ _ hmiddle => hmiddle

/-- A directory cannot be read as a file. -/
theorem ends_copyFile_directory (hdenotes : files.Denotes source place)
    (hkind : files.kind? place = some .directory) (hnow : Grown host (place <+: ·) files now) :
    Ends (copyFile host source target) now (fun _ _ => False)
      (fun _ middle => Grown host (place <+: ·) files middle) := by
  have hcontrary : ∀ {found landing content written middle},
      ¬ FileCopied host now source target found landing content written middle := by
    intro found landing content written middle hcopied
    have hfound := hcopied.stored
    obtain rfl := hdenotes.unique (hnow.denotes_iff.mp hcopied.reads)
    rw [hnow.directories _ hkind] at hfound
    cases hfound
  apply (ends_copyFile hnow.valid).mono
  · exact fun _ middle ⟨found, landing, content, _, hcopied⟩ => hcontrary hcopied
  · rintro _ _ (- | ⟨-, hcopied⟩)
    · exact hnow
    · exact absurd hcopied hcontrary

/-- What is no directory is never found to be one. -/
theorem not_isDirectory_of_names (hnames : files.Names source place false)
    (hat : files.at? place = some node) (hnode : node.kind ≠ .directory)
    (hnow : Grown host (place <+: ·) files now) :
    ¬ (now.isDirectory host source = true ∧ now.isLink host source = false) := by
  rintro ⟨hdirectory, hlink⟩
  have hnames := hnow.names_iff.mpr hnames
  obtain ⟨entries, htarget⟩ := hnames.target?_eq hnow.valid hdirectory hlink
  obtain ⟨-, hlookup⟩ := FileSystem.target?_eq_some_iff.mp htarget
  have hfound := FileSystem.denotes_of_placed hnow.valid hnames.placed hlookup (by simp)
  have hkept := hnow.leaves_below [] hnode
  rw [List.append_nil, FileSystem.kind?_of_at? hfound.1, FileSystem.kind?_of_at? hat] at hkept
  exact hnode (Option.some.inj (hkept.mpr rfl)).symm

/-- A single file is saved by copying it, because its copy lands elsewhere. -/
theorem ends_copyFile_saved (hnames : files.Names source place false)
    (hat : files.at? place = some node) (hnode : node.kind ≠ .directory)
    (hnow : Grown host (place <+: ·) files now) :
    Ends (copyFile host source target) now
      (fun _ middle => Grown host (place <+: ·) files middle ∧ Saved files target place middle)
      (fun _ middle => Grown host (place <+: ·) files middle) := by
  have hplace : now.kind? place = some node.kind := by
    have hkept := hnow.leaves_below [] hnode
    rw [List.append_nil, FileSystem.kind?_of_at? hat] at hkept
    exact hkept.mpr rfl
  have hcase : ∀ {found landing content written middle},
      FileCopied host now source target found landing content written middle →
      (∀ old, node.kind = .file old → content = old) ∧ ¬ place <+: landing := by
    intro found landing content written middle hcopied
    have hsource := hnow.denotes_iff.mp hcopied.reads
    have hown : ∀ old, node.kind = .file old → found = place ∧ content = old := by
      intro old hfile
      have hdenotes : files.Denotes source place := by
        apply hnames.denotes
        simp [FileSystem.kind?_of_at? hat, hfile]
      have hfound := hcopied.stored
      obtain rfl := hsource.unique hdenotes
      rw [hplace, hfile] at hfound
      exact ⟨rfl, (Kind.file.inj (Option.some.inj hfound)).symm⟩
    refine ⟨fun old hfile => (hown old hfile).2, ?_⟩
    rintro ⟨rest, rfl⟩
    by_cases hrest : rest = []
    · have hold := hcopied.replaces
      have hne := hcopied.apart
      rw [hrest, List.append_nil] at hold hne
      obtain ⟨old, hfile⟩ := hold _ hplace
      exact hne (hown old hfile).1
    · have hlanded : middle.kind? (place ++ rest) = some (.file written) := by
        rw [hcopied.kinds, if_pos rfl]
      have habove := FileSystem.kind?_eq_directory_of_below hlanded hrest
      rw [hcopied.kinds, if_neg (by simpa using hrest), hplace] at habove
      exact hnode (Option.some.inj habove)
  have hgrown : ∀ {found landing content written middle},
      FileCopied host now source target found landing content written middle →
      Grown host (place <+: ·) files middle := fun hcopied =>
    hnow.of_added hcopied.kinds hcopied.working hcopied.valid hcopied.replaces (by simp)
      fun hwithin => absurd hwithin (hcase hcopied).2
  apply (ends_copyFile hnow.valid).mono
  · rintro _ middle ⟨found, landing, content, -, hcopied⟩
    refine ⟨hgrown hcopied, fun names old hfile => ?_⟩
    obtain ⟨hown, houtside⟩ := hcase hcopied
    by_cases hnil : names = []
    · subst hnil
      rw [List.append_nil, FileSystem.kind?_of_at? hat] at hfile
      refine ⟨landing, hnow.denotes_iff.mp hcopied.lands, houtside, ?_⟩
      rw [hcopied.kinds, if_pos rfl, hown old (Option.some.inj hfile)]
    · have habove := FileSystem.kind?_eq_directory_of_below hfile hnil
      rw [FileSystem.kind?_of_at? hat] at habove
      exact absurd (Option.some.inj habove) hnode
  · rintro _ _ (- | ⟨-, hcopied⟩)
    · exact hnow
    · exact hgrown hcopied

/-- Copies let a tree grow, wherever they land. -/
theorem copyCallsKeep_grown (host : Host) (files : FileSystem) :
    CopyCallsKeep host (fun _ => True) (fun _ => True) (Grown host (fun _ => False) files)
      (fun _ => True) where
  join _ _ := trivial
  splitLast _ := trivial
  listNames _ := fun now hnow => by
    apply ends_listNames.mono
    · rintro names _ ⟨rfl, -⟩
      exact ⟨fun _ _ => trivial, hnow⟩
    · rintro _ _ ⟨rfl, -⟩
      exact ⟨trivial, hnow⟩
  readFile _ := fun now hnow => by
    apply ends_readFile.mono
    · rintro content _ ⟨rfl, -⟩
      exact ⟨trivial, hnow⟩
    · rintro _ _ ⟨rfl, -⟩
      exact ⟨trivial, hnow⟩
  makeDirectory _ := fun now hnow => by
    apply (ends_makeDirectory hnow.valid).mono
    · rintro _ after ⟨made, hnone, hworking, hvalid, hafter⟩
      exact ⟨trivial, hnow.of_added hafter hworking hvalid (by simp [hnone]) (by simp) (by simp)⟩
    · rintro _ _ rfl
      exact ⟨trivial, hnow⟩
  changeFile _ := keeps_changeFile (fun _ => trivial) trivial fun written hnow hopens => by
    obtain ⟨-, hold, -, hworking, hvalid, hafter⟩ := hopens.landing hnow.valid written
    exact hnow.of_added hafter hworking hvalid hold (by simp) (by simp)
  nullByte _ _ := trivial
  sameFile _ _ := trivial
  namedPipe _ := trivial
  copyBrokenOff _ _ := trivial
  noDirectory _ := trivial
  tooDeep _ := trivial

/-- A move by copying conserves the files of a directory whose copies land apart, and every single
file. -/
theorem ends_moveByCopying_saved (hfiles : files.Valid host)
    (hlookup : files.lookup host .whenSlashed source = .ok (place, node))
    (hplaced : files.Placed source)
    (hsafe : node.kind ≠ .directory ∨ files.CopiesApart source target place)
    (hnow : Grown host (place <+: ·) files now) :
    Ends (moveByCopying host source target) now
      (fun _ after => files.Transfers target place node after)
      (fun _ after => files.Conserves target place node after) := by
  obtain ⟨hat, hstands⟩ := FileSystem.stands_of_lookup hfiles hplaced hlookup
  have hgrown : ∀ middle,
      Grown host (place <+: ·) files middle ∧ Saved files target place middle →
        Grown host (fun _ => False) files middle :=
    fun middle hmiddle => hmiddle.1.mono fun _ hother => hother.elim
  have hends : Ends (moveByCopying host source target) now
      (fun _ after => after.kind? place = none ∧ ∃ middle,
        (Grown host (place <+: ·) files middle ∧ Saved files target place middle) ∧
          Pruned host place middle after)
      (fun _ after => Grown host (place <+: ·) files after ∨ ∃ middle,
        (Grown host (place <+: ·) files middle ∧ Saved files target place middle) ∧
          Pruned host place middle after) := by
    by_cases hnode : node.kind = .directory
    · have hapart := hsafe.resolve_left fun hne => hne hnode
      have hkind : files.kind? place = some .directory := by
        rw [FileSystem.kind?_of_at? hat, hnode]
      have hdenotes : files.Denotes source place :=
        (FileSystem.denotes_of_placed hfiles hplaced hlookup
          (fun target heq => by simp [heq, Node.kind] at hnode)).2
      apply ends_moveByCopying hstands hplaced hgrown
      · exact fun _ _ => ends_copyTree_saved hapart hdenotes hplaced hnow
      · intro _
        apply (ends_copyFile_directory hdenotes hkind hnow).mono
        · exact fun _ _ hcopied => hcopied.elim
        · exact fun _ _ hfailed => hfailed
    · have hnames := FileSystem.names_of_lookup hfiles hlookup hnode
      have hleaf := not_isDirectory_of_names hnames hat hnode hnow
      apply ends_moveByCopying hstands hplaced hgrown
      · exact fun hdirectory hlink => absurd ⟨hdirectory, hlink⟩ hleaf
      · exact fun _ => ends_copyFile_saved hnames hat hnode hnow
  apply hends.mono
  · rintro _ after ⟨hgone, middle, ⟨-, hsaved⟩, hpruned⟩
    exact ⟨FileSystem.at?_eq_none_iff.mpr hgone, fun names content hfile =>
      hsaved.exists_meant hat hpruned hfile⟩
  · rintro _ after (hgrown | ⟨middle, ⟨-, hsaved⟩, hpruned⟩)
    · exact conserves_of_grown hat hgrown
    · exact fun names content hfile => .inr (hsaved.exists_meant hat hpruned hfile)

/-- However its copies land, a move by copying that comes to its end leaves nothing at the source.
-/
theorem ends_moveByCopying_gone (hstands : files.Stands source place)
    (hplaced : files.Placed source) (hnow : Grown host (place <+: ·) files now) :
    Ends (moveByCopying host source target) now
      (fun _ after => after.kind? place = none ∧ ∃ middle,
        Grown host (fun _ => False) files middle ∧ Pruned host place middle after)
      (fun _ _ => True) := by
  have hcalls := copyCallsKeep_grown host files
  have hstart : Grown host (fun _ => False) files now := hnow.mono fun _ hother => hother.elim
  have htree : Ends (copyTree host (depthLimit host) source target) now
      (fun _ middle => Grown host (fun _ => False) files middle) (fun _ _ => True) :=
    (hcalls.copyTree trivial trivial now hstart).mono (fun _ _ h => h.2) fun _ _ _ => trivial
  have hfile : Ends (copyFile host source target) now
      (fun _ middle => Grown host (fun _ => False) files middle) (fun _ _ => True) :=
    (hcalls.copyFile trivial trivial now hstart).mono (fun _ _ h => h.2) fun _ _ _ => trivial
  apply (ends_moveByCopying hstands hplaced (fun _ h => h) (fun _ _ => htree) fun _ => hfile).mono
  · exact fun _ _ h => h
  · exact fun _ _ _ => trivial

end Disk

end LineShell
