import LineShell.Proofs.FileSystem.Growth

/-!
# Where copies land

A file is copied through links on both sides, so its content lands at the place that the target path
denotes.  A tree is copied by copying each of its entries below the target, and the landing places
of two entries, or of an entry and the source tree, can be one if links lead there or if the target
lies above the source.  Where they are apart, every file of the tree is at its landing place in the
end and the tree itself is untouched.
-/

namespace LineShell

/-- The path of what is below a path under one name after the other. -/
def Path.below (path : Text) (names : Place) : Text :=
  names.foldl Path.join path

theorem Path.below_append (path : Text) (names others : Place) :
    Path.below path (names ++ others) = Path.below (Path.below path names) others :=
  List.foldl_append

theorem Path.below_concat (path : Text) (names : Place) (name : Name) :
    Path.below path (names ++ [name]) = Path.join (Path.below path names) name :=
  Path.below_append path names [name]

theorem Path.hasNull_below {path : Text} {names : Place} (hpath : path.hasNull = false)
    (hnames : ∀ name ∈ names, name.hasNull = false) : (Path.below path names).hasNull = false := by
  induction names using List.reverseRecOn with
  | nil => exact hpath
  | append_singleton front name ih =>
      have hfront := ih fun name hname => hnames name (List.mem_append_left _ hname)
      have hname := hnames name (List.mem_append_right _ List.mem_cons_self)
      rw [Path.below_concat]
      exact Path.hasNull_join hfront hname

/-- Where no links are on the way, the names below a path lead straight down. -/
theorem FileSystem.denotes_below {files : FileSystem} {path : Text} {entry names : Place}
    (h : files.Denotes path entry)
    (hnames : ∀ name ∈ names, Path.IsName name)
    (hlink : ∀ front back, names = front ++ back → front ≠ [] → ∀ target,
      files.kind? (entry ++ front) ≠ some (.link target)) :
    files.Denotes (Path.below path names) (entry ++ names) := by
  induction names generalizing path entry with
  | nil =>
      rw [List.append_nil]
      exact h
  | cons name rest ih =>
      have hname := hnames name List.mem_cons_self
      have hjoin : files.Denotes (Path.join path name) (entry ++ [name]) :=
        FileSystem.denotes_join h hname (hlink [name] rest rfl (by simp))
      rw [List.append_cons]
      apply ih hjoin
      · exact fun other hother => hnames other (List.mem_cons_of_mem name hother)
      · intro front back hrest hfront target
        have hbelow := hlink (name :: front) back (by rw [hrest]; rfl) (by simp) target
        rw [List.append_cons] at hbelow
        exact hbelow

/-- What is copied to a place finds room there: the machine does not break off its writing. -/
def Kind.FindsRoom (host : Host) (place : Place) : Kind → Prop
  | .file content => host.breaksOff place [] content = none
  | _ => True

theorem Host.Roomy.findsRoom {host : Host} (h : host.Roomy) (kind : Kind) (place : Place) :
    kind.FindsRoom host place := by
  cases kind with
  | file content => exact h place [] content
  | directory | link | pipe => trivial

namespace Disk

variable {host : Host} {files : FileSystem} {source target : Text}

/-- What is written to an opened file lands where its path leads, be it there or not. -/
theorem Opens.landing {path : Text} {directory : Place} {name : Name} {old : Bytes}
    (hopens : Opens host files path directory name old) (hfiles : files.Valid host)
    (written : Bytes) :
    files.Denotes path (directory ++ [name]) ∧
      (∀ kind, files.kind? (directory ++ [name]) = some kind → ∃ content, kind = .file content) ∧
      (∀ content, files.at? (directory ++ [name]) = some (.file content) →
        files.target? host path = some (directory ++ [name], .file content)) ∧
      (files.put directory name (.file written)).working = files.working ∧
      (files.put directory name (.file written)).Valid host ∧
      ∀ other, (files.put directory name (.file written)).kind? other =
        if other = directory ++ [name] then some (.file written) else files.kind? other := by
  obtain ⟨haims, hsize, hold⟩ := hopens
  obtain ⟨hdirectory, hname⟩ := haims.isName hfiles
  have hkinds : ∀ kind, files.kind? (directory ++ [name]) = some kind →
      ∃ content, kind = .file content := by
    intro kind hkind
    cases hold with
    | inl hnone => simp [FileSystem.at?_eq_none_iff.mp hnone.1] at hkind
    | inr hfile =>
        rw [FileSystem.kind?_of_at? hfile] at hkind
        exact ⟨old, (Option.some.inj hkind).symm⟩
  have hunlinked : ∀ target, files.kind? (directory ++ [name]) ≠ some (.link target) := by
    intro target hkind
    obtain ⟨content, hcontent⟩ := hkinds _ hkind
    cases hcontent
  have hne : files.kind? (directory ++ [name]) ≠ some .directory := by
    intro hkind
    obtain ⟨content, hcontent⟩ := hkinds _ hkind
    cases hcontent
  have hleaf : ∀ other, (Node.file written).child? other = none := fun _ => rfl
  have htarget : ∀ content, files.at? (directory ++ [name]) = some (.file content) →
      files.target? host path = some (directory ++ [name], .file content) := by
    intro content hcontent
    have hlocate := FileSystem.locate_of_unlinked .always (fun _ _ => rfl) hunlinked
      haims.locate
    have hfits : ¬ host.nameLimit < name.utf8Size := Nat.not_lt.mpr hsize
    rw [FileSystem.target?_eq_some_iff, FileSystem.lookup, hlocate]
    refine ⟨haims.hasNull, ?_⟩
    simp [bind, Except.bind, FileSystem.atSpot, hfits, hcontent]
  exact ⟨(haims.walks hfiles).leads hunlinked, hkinds, htarget,
    FileSystem.working_put _ _ _ _, hfiles.put_leaf hdirectory hname hsize hne hleaf,
    FileSystem.kind?_put_leaf hdirectory (FileSystem.bare_of_kind?_ne hne) hleaf⟩

/-- Bytes from the file that one path leads to were written to where another path leads, to a new
file or an old one. -/
structure FileCopied (host : Host) (files : FileSystem) (source target : Text)
    (found landing : Place) (content written : Bytes) (after : FileSystem) : Prop where
  stored : files.kind? found = some (.file content)
  reads : files.Denotes source found
  lands : files.Denotes target landing
  apart : found ≠ landing
  replaces : ∀ old, files.kind? landing = some old → ∃ content, old = .file content
  working : after.working = files.working
  valid : after.Valid host
  kinds : ∀ other, after.kind? other =
    if other = landing then some (.file written) else files.kind? other

/-- What a copy of a file comes to that ends in a fault: nothing was changed, or the machine broke
the copy off and the first bytes only were written. -/
inductive CopyCut (host : Host) (files : FileSystem) (source target : Text) : FileSystem → Prop
  | untouched : CopyCut host files source target files
  | cut {found landing : Place} {content : Bytes} {count : Nat} {after : FileSystem}
      (hcount : host.breaksOff landing [] content = some count)
      (hcopied : FileCopied host files source target found landing content (content.take count)
        after) :
      CopyCut host files source target after

/-- The content of a file lands at another place, in a new file or an old one. -/
theorem ends_copyFile (hfiles : files.Valid host) :
    Ends (copyFile host source target) files
      (fun _ after => ∃ found landing content, host.breaksOff landing [] content = none ∧
        FileCopied host files source target found landing content content after)
      (fun _ after => CopyCut host files source target after) := by
  unfold copyFile
  simp only [ends_bind, ends_get, ends_guard]
  refine ⟨fun _ => .untouched, fun _ => ⟨fun _ => .untouched, fun hsame => ⟨fun _ => .untouched,
    fun _ => ⟨fun _ => .untouched, fun _ => ?_⟩⟩⟩⟩
  apply ends_readFile.mono _ fun _ _ hrefused => hrefused.1 ▸ .untouched
  rintro content now ⟨rfl, hnull, found, hlookup⟩
  have hnode : Node.file content ≠ .directory [] := by simp
  have hfound := FileSystem.at?_of_lookup (.inr hfiles.lasting) hlookup (.inr hnode)
  have hdenotes :=
    FileSystem.denotes_of_lookup (.inr hfiles.lasting) hlookup (.inr hnode) (by simp)
  have hcopied : ∀ {place name old} written, Opens host now target place name old →
      FileCopied host now source target found (place ++ [name]) content written
        (now.put place name (.file written)) := by
    intro place name old written hopens
    obtain ⟨hlanding, hold, htarget, hworking, hvalid, hkinds⟩ := hopens.landing hfiles written
    refine ⟨FileSystem.kind?_of_at? hfound, hdenotes, hlanding, ?_, hold, hworking, hvalid, hkinds⟩
    -- Were both one place, the system would have seen that the target leads there too.
    rintro rfl
    have hsource : now.target? host source = some (_, .file content) :=
      FileSystem.target?_eq_some_iff.mpr ⟨hnull, hlookup⟩
    simp [FileSystem.samePlace, hsource, htarget content hfound] at hsame
  rw [ends_attempt]
  apply ends_changeFile.mono
  · rintro _ _ ⟨place, name, old, hopens, hroom, rfl⟩
    exact ⟨found, place ++ [name], content, hroom, hcopied content hopens⟩
  · rintro fault after (⟨rfl, -⟩ | ⟨hopens, hcount⟩)
    · split
      · exact .untouched
      · split
        · cases ‹Except.error _ = Except.ok _›
        · exact .untouched
        · split <;> exact .untouched
        · exact .untouched
    · exact .cut hcount (hcopied _ hopens)

end Disk

/-! ### Landing places -/

namespace FileSystem

/-- The content of an entry at or below the source lands at a place.  A link brings the content of
the file that it leads to.  Nothing is copied where the entry's own path leads. -/
structure CopyLands (files : FileSystem) (source target : Text) (place names landing : Place) :
    Prop where
  entry : (∃ content, files.kind? (place ++ names) = some (.file content)) ∨
    ∃ link, files.kind? (place ++ names) = some (.link link)
  denotes : files.Denotes (Path.below target names) landing
  elsewhere : ¬ files.Denotes (Path.below source names) landing

/-- The copies of a tree land outside of it, and on the landing place of a file lands nothing but
files with the same content. -/
structure CopiesApart (files : FileSystem) (source target : Text) (place : Place) : Prop where
  outside : ∀ {names landing}, files.CopyLands source target place names landing →
    ¬ place <+: landing
  agree : ∀ {names others landing content},
    files.kind? (place ++ names) = some (.file content) →
    files.CopyLands source target place names landing →
    files.CopyLands source target place others landing →
    files.kind? (place ++ others) = some (.file content)

/-- A content is at the landing place of an entry. -/
def Landed (files : FileSystem) (source target : Text) (place : Place) (now : FileSystem)
    (names : Place) (content : Bytes) : Prop :=
  ∃ landing, files.CopyLands source target place names landing ∧
    now.kind? landing = some (.file content)

/-- All files at or below an entry of the source are at their landing places. -/
def LandedBelow (files : FileSystem) (source target : Text) (place : Place) (now : FileSystem)
    (names : Place) : Prop :=
  ∀ rest content, files.kind? (place ++ (names ++ rest)) = some (.file content) →
    files.Landed source target place now (names ++ rest) content

/-- The files below a directory are its own and those below its directories. -/
theorem landedBelow_of_entries {files now : FileSystem} {source target : Text}
    {place names : Place} (hfile : ∀ content, files.kind? (place ++ names) ≠ some (.file content))
    (hfiles : ∀ name content, files.kind? (place ++ (names ++ [name])) = some (.file content) →
      files.Landed source target place now (names ++ [name]) content)
    (hdirectories : ∀ name, files.kind? (place ++ (names ++ [name])) = some .directory →
      files.LandedBelow source target place now (names ++ [name])) :
    files.LandedBelow source target place now names := by
  intro rest content hrest
  cases rest with
  | nil =>
      rw [List.append_nil] at hrest
      exact absurd hrest (hfile content)
  | cons name others =>
      rw [List.append_cons] at hrest ⊢
      by_cases hothers : others = []
      · subst hothers
        rw [List.append_nil] at hrest ⊢
        exact hfiles name content hrest
      · apply hdirectories name _ others content hrest
        rw [← List.append_assoc] at hrest
        exact kind?_eq_directory_of_below hrest hothers

end FileSystem

/-- A copy went on from one state to another: the tree has grown, and what has landed stays. -/
structure Onward (host : Host) (files : FileSystem) (source target : Text) (place : Place)
    (now after : FileSystem) : Prop where
  grown : Grown host (place <+: ·) files after
  directories : ∀ {other}, now.kind? other = some .directory → after.kind? other = some .directory
  landed : ∀ {names content}, files.kind? (place ++ names) = some (.file content) →
    files.Landed source target place now names content →
    files.Landed source target place after names content

namespace Onward

variable {host : Host} {files now : FileSystem} {source target : Text} {place : Place}

theorem refl (h : Grown host (place <+: ·) files now) :
    Onward host files source target place now now :=
  ⟨h, fun hother => hother, fun _ hlanded => hlanded⟩

theorem trans {middle after : FileSystem} (h : Onward host files source target place now middle)
    (h' : Onward host files source target place middle after) :
    Onward host files source target place now after :=
  ⟨h'.grown, fun hother => h'.directories (h.directories hother),
    fun hfile hlanded => h'.landed hfile (h.landed hfile hlanded)⟩

theorem landedBelow {after : FileSystem} (h : Onward host files source target place now after)
    {names : Place} (hlanded : files.LandedBelow source target place now names) :
    files.LandedBelow source target place after names :=
  fun rest content hfile => h.landed hfile (hlanded rest content hfile)

/-- What stands at or below the source stays. -/
theorem kind?_below {after : FileSystem} (h : Onward host files source target place now after)
    (hnow : Grown host (place <+: ·) files now) {names : Place} {kind : Kind}
    (hkind : now.kind? (place ++ names) = some kind) :
    after.kind? (place ++ names) = some kind := by
  by_cases hdirectory : kind = .directory
  · subst hdirectory
    exact h.directories hkind
  · rw [h.grown.leaves_below names hdirectory, ← hnow.leaves_below names hdirectory]
    exact hkind

/-- Making missing directories goes on with a copy. -/
theorem keeps_makeDirectories (path : Text) :
    Keeps (Onward host files source target place now) (fun _ => True)
        (Disk.makeDirectories host path) ∧
      Keeps (Onward host files source target place now) (fun _ => True)
        (Disk.ensureParent host path) := by
  apply Disk.keeps_ensureParent (fun middle hmiddle => hmiddle.grown.valid)
  intro middle after made hmiddle hnone hworking hvalid hafter
  apply hmiddle.trans
  refine ⟨hmiddle.grown.of_added hafter hworking hvalid (by simp [hnone]) (by simp)
    fun _ => ⟨rfl, hnone⟩, ?_, ?_⟩
  · intro other hother
    rw [hafter]
    split
    · rfl
    · exact hother
  · rintro names content - ⟨landing, hlands, hlanding⟩
    refine ⟨landing, hlands, ?_⟩
    rw [hafter, if_neg]
    · exact hlanding
    · rintro rfl
      simp [hnone] at hlanding

/-- Where copies land apart, one more copied file goes on with the copy. -/
theorem of_copied {after : FileSystem} {names landing : Place} {content : Bytes}
    (hapart : files.CopiesApart source target place) (h : Grown host (place <+: ·) files now)
    (hlands : files.CopyLands source target place names landing)
    (hcontent : ∀ old, files.kind? (place ++ names) = some (.file old) → content = old)
    (hold : ∀ old, now.kind? landing = some old → ∃ content, old = .file content)
    (hworking : after.working = now.working) (hvalid : after.Valid host)
    (hafter : ∀ other, after.kind? other =
      if other = landing then some (.file content) else now.kind? other) :
    Onward host files source target place now after := by
  constructor
  · exact h.of_added hafter hworking hvalid hold (by simp) fun hwithin =>
      absurd hwithin (hapart.outside hlands)
  · intro other hother
    rw [hafter, if_neg]
    · exact hother
    · rintro rfl
      obtain ⟨old, heq⟩ := hold _ hother
      cases heq
  · rintro others other hfile ⟨place', hlands', hplace'⟩
    refine ⟨place', hlands', ?_⟩
    rw [hafter]
    split
    · rename_i heq
      subst heq
      rw [hcontent other (hapart.agree hfile hlands' hlands)]
    · exact hplace'

end Onward

end LineShell
