import LineShell.Proofs.FileSystem.Ancestors

/-!
# Machines of the same limits

Where two machines have the same limits, paths lead to the same entries on both and directories are
made alike, and where they have the same room as well, files are copied alike.  A move does the same
on both up to the point where it relinks its source; one of them may refuse to do that, and they may
list names in any order.  What is done in the order of names ends alike where it comes to its end on
both or on neither, and leaves the same tree.
-/

namespace LineShell

/-- The same stands at every place. -/
def FileSystem.SameTree (files after : FileSystem) : Prop :=
  ∀ place, after.kind? place = files.kind? place

/-- Two machines have the same limits and the same room. -/
structure Host.Alike (host other : Host) : Prop where
  nameLimit : other.nameLimit = host.nameLimit
  pathLimit : other.pathLimit = host.pathLimit
  linkLimit : other.linkLimit = host.linkLimit
  breaksOff : other.breaksOff = host.breaksOff

namespace Host.Alike

variable {host other : Host} (h : host.Alike other) (files : FileSystem)
include h

theorem symm : other.Alike host :=
  ⟨h.nameLimit.symm, h.pathLimit.symm, h.linkLimit.symm, h.breaksOff.symm⟩

/-! ### Walks -/

theorem steps_eq (rule : LinkRule) (follow : Place → List Text → Except Cause Spot) (place : Place)
    (components : List Text) :
    Walk.steps other files rule follow place components =
      Walk.steps host files rule follow place components := by
  induction components generalizing place with
  | nil => rfl
  | cons component rest ih =>
      rw [Walk.steps, Walk.steps, h.nameLimit]
      simp only [ih]

theorem walk_eq (rule : LinkRule) (links : Nat) (place : Place) (components : List Text) :
    Walk.walk other files rule links place components =
      Walk.walk host files rule links place components := by
  induction links generalizing place components with
  | zero => exact h.steps_eq files rule _ place components
  | succ links ih =>
      have hfollow : Walk.walk other files rule links = Walk.walk host files rule links :=
        funext fun place => funext (ih place)
      rw [Walk.walk, Walk.walk, hfollow]
      exact h.steps_eq files rule _ place components

/-! ### What paths lead to -/

theorem locate_eq : files.locate other = files.locate host := by
  funext rule path
  refine Walk.locate_related Eq h.pathLimit.symm rfl rfl rfl rfl (fun place components => ?_) path
  rw [h.linkLimit, h.walk_eq]

theorem lookup_eq : files.lookup other = files.lookup host := by
  funext rule path
  have hspot : files.atSpot other = files.atSpot host := by
    funext spot
    cases spot <;> simp only [FileSystem.atSpot, h.nameLimit]
  rw [FileSystem.lookup, FileSystem.lookup, h.locate_eq, hspot]

theorem target?_eq : files.target? other = files.target? host := by
  funext path
  rw [FileSystem.target?, FileSystem.target?, h.lookup_eq]

theorem entry?_eq : files.entry? other = files.entry? host := by
  funext path
  rw [FileSystem.entry?, FileSystem.entry?, h.lookup_eq]

theorem isDirectory_eq : files.isDirectory other = files.isDirectory host := by
  funext path
  rw [FileSystem.isDirectory, FileSystem.isDirectory, h.target?_eq]

theorem reaches_eq : files.reaches other = files.reaches host := by
  funext path
  rw [FileSystem.reaches, FileSystem.reaches, h.target?_eq]

theorem targetFor_eq : Disk.targetFor files other = Disk.targetFor files host := by
  funext source destination
  rw [Disk.targetFor, Disk.targetFor, h.isDirectory_eq]

omit files in
theorem aims {files : FileSystem} {rule : LinkRule} {path : Text} {place : Place} {name : Name}
    {slashed : Bool} (haims : Disk.Aims host files rule path place name slashed) :
    Disk.Aims other files rule path place name slashed :=
  ⟨haims.hasNull, by rw [h.locate_eq]; exact haims.locate⟩

omit files in
theorem fits {path : Text} (hfits : Path.Fits host path) : Path.Fits other path :=
  ⟨by rw [h.pathLimit]; exact hfits.size, hfits.hasNull⟩

omit files in
theorem valid {files : FileSystem} (hfiles : files.Valid host) : files.Valid other :=
  ⟨hfiles.isName, fun hkind => by rw [h.nameLimit]; exact hfiles.size hkind, hfiles.lasting⟩

omit files in
theorem plain {files : FileSystem} (hfiles : files.Plain host) : files.Plain other :=
  ⟨h.valid hfiles.valid, hfiles.kinds, hfiles.distinct⟩

/-! ### Files and missing parents -/

omit files

theorem entrySpot_eq : Disk.entrySpot other = Disk.entrySpot host := by
  funext rule ending path
  simp only [Disk.entrySpot, h.locate_eq]

theorem copyFile_eq : Disk.copyFile other = Disk.copyFile host := by
  have hread : Disk.readFile other = Disk.readFile host := by
    funext path
    simp only [Disk.readFile, h.lookup_eq]
  have hopen : Disk.openFile other = Disk.openFile host := by
    funext path keep
    simp only [Disk.openFile, h.entrySpot_eq, Disk.checkName, h.nameLimit]
  have hwrite : Disk.writeOpened other = Disk.writeOpened host := by
    funext place name kept addition
    simp only [Disk.writeOpened, h.breaksOff]
  have hchange : @Disk.changeFile other = @Disk.changeFile host := by
    funext path keep addition
    simp only [Disk.changeFile, hopen, hwrite]
  have hpipe : ∀ files : FileSystem, files.isPipe other = files.isPipe host := by
    intro files
    funext path
    rw [FileSystem.isPipe, FileSystem.isPipe, h.target?_eq]
  have hsame : ∀ files : FileSystem, files.samePlace other = files.samePlace host := by
    intro files
    funext left right
    rw [FileSystem.samePlace, FileSystem.samePlace, h.target?_eq]
  funext source target
  simp only [Disk.copyFile, hsame, hpipe, h.reaches_eq, hread, hchange]

theorem makeDirectory_eq : Disk.makeDirectory other = Disk.makeDirectory host := by
  funext path
  simp only [Disk.makeDirectory, Disk.create, h.entrySpot_eq, Disk.checkName, h.nameLimit]

theorem ensureDirectory_eq : Disk.ensureDirectory other = Disk.ensureDirectory host := by
  funext path
  simp only [Disk.ensureDirectory, h.makeDirectory_eq, h.isDirectory_eq]

theorem makeDirectories_eq : Disk.makeDirectories other = Disk.makeDirectories host := by
  funext path
  induction path using Disk.makeDirectories.induct with
  | case1 path hsplit ih =>
      rw [Disk.makeDirectories, dif_pos hsplit, ih, h.ensureDirectory_eq]
      conv_rhs => rw [Disk.makeDirectories, dif_pos hsplit]
      simp only [h.reaches_eq]
  | case2 path hsplit =>
      rw [Disk.makeDirectories, dif_neg hsplit, h.ensureDirectory_eq]
      conv_rhs => rw [Disk.makeDirectories, dif_neg hsplit]

theorem ensureParent_eq : Disk.ensureParent other = Disk.ensureParent host := by
  funext path
  simp only [Disk.ensureParent, h.makeDirectories_eq]

end Host.Alike

/-! ### Actions that end alike -/

namespace Disk

variable {A B : Type} {files : FileSystem} {done : A → FileSystem → Prop}

/-- An action comes to its end exactly if another one does, with the same value and the same tree.
-/
def EndsAlike (action other : Disk A) (files : FileSystem) (done : A → FileSystem → Prop) : Prop :=
  Ends action files
    (fun value after => done value after ∧
      ∃ last, other files = .ok value last ∧ after.SameTree last)
    (fun _ _ => ∀ value last, other files ≠ .ok value last)

namespace EndsAlike

theorem mono {action other : Disk A} {done' : A → FileSystem → Prop}
    (h : EndsAlike action other files done)
    (hdone : ∀ value after, done value after → done' value after) :
    EndsAlike action other files done' :=
  Ends.mono_done h fun value after h => h.imp_left (hdone value after)

/-- An action ends as it does. -/
theorem same {action : Disk A} (h : Ends action files done fun _ _ => True) :
    EndsAlike action action files done := by
  apply h.with_run.mono
  · exact fun value after ⟨hdone, hrun⟩ => ⟨hdone, after, hrun, fun _ => rfl⟩
  · rintro fault after ⟨-, hrun⟩ value last hok
    rw [hrun] at hok
    cases hok

/-- Where the same decides whether two actions come to their end, and they leave the same tree then,
they end alike. -/
theorem of_ends {action other : Disk Unit} {fits : Prop} {left right : FileSystem → Prop}
    (h : Ends action files (fun _ after => fits ∧ left after) fun _ _ => ¬ fits)
    (h' : Ends other files (fun _ after => fits ∧ right after) fun _ _ => ¬ fits)
    (hsame : ∀ {after last}, left after → right last → after.SameTree last) :
    EndsAlike action other files fun _ after => fits ∧ left after := by
  apply h.mono
  · rintro value after ⟨hfits, hleft⟩
    obtain ⟨⟨⟩, last, hrun, -, hright⟩ :=
      Completes.exists_ok (h'.mono (fun _ _ h => h) fun _ _ hfails => hfails hfits)
    exact ⟨⟨hfits, hleft⟩, last, hrun, hsame hleft hright⟩
  · exact fun _ _ hfails value last hrun => hfails (h'.of_ok hrun).1

/-- What begins alike ends alike if what follows does. -/
theorem bind {action : Disk B} {next other : B → Disk A}
    (h : Ends action files (fun value after => EndsAlike (next value) (other value) after done)
      fun _ _ => True) :
    EndsAlike (action >>= next) (action >>= other) files done := by
  rw [EndsAlike, ends_bind]
  apply h.with_run.mono
  · rintro value after ⟨hnext, hrun⟩
    rw [bind_of_ok hrun]
    exact hnext
  · rintro fault after ⟨-, hrun⟩ value last hok
    rw [bind_of_error hrun] at hok
    cases hok

end EndsAlike

end Disk

end LineShell
