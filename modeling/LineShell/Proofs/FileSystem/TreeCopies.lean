import LineShell.Proofs.FileSystem.Copies

/-!
# Copying a tree

A tree is copied directory by directory, and the tree that is copied may be written to meanwhile.
As long as its copies land apart from it and from each other, only directories are added to it, so
each file of the tree is met and lands with its old content.
-/

namespace LineShell.Disk

variable {host : Host} {files now : FileSystem} {source target : Text} {place names : Place}

/-- Some entries of a directory were taken: those that are directories are kept for later, and those
that are files have landed. -/
structure EntriesCopied (host : Host) (files : FileSystem) (source target : Text)
    (place names : Place) (listed directories : List Name) (now after : FileSystem) : Prop where
  onward : Onward host files source target place now after
  directory : ∀ name ∈ directories,
    Path.IsName name ∧ after.kind? (place ++ (names ++ [name])) = some .directory
  kept : ∀ name ∈ listed,
    now.kind? (place ++ (names ++ [name])) = some .directory → name ∈ directories
  landed : ∀ name ∈ listed, ∀ content,
    files.kind? (place ++ (names ++ [name])) = some (.file content) →
      files.Landed source target place after (names ++ [name]) content

namespace EntriesCopied

variable {middle after : FileSystem} {name : Name} {rest directories : List Name}

/-- One more directory is kept for later. -/
theorem cons_directory
    (h : EntriesCopied host files source target place names rest directories now after)
    (hnow : Grown host (place <+: ·) files now) (hname : Path.IsName name)
    (hdirectory : now.kind? (place ++ (names ++ [name])) = some .directory) :
    EntriesCopied host files source target place names (name :: rest) (name :: directories)
      now after := by
  refine ⟨h.onward, List.forall_mem_cons.mpr ⟨⟨hname, h.onward.directories hdirectory⟩, h.directory⟩,
    List.forall_mem_cons.mpr ⟨fun _ => List.mem_cons_self, fun other hother hkind => ?_⟩,
    List.forall_mem_cons.mpr ⟨fun content hfile => ?_, h.landed⟩⟩
  · exact List.mem_cons_of_mem name (h.kept other hother hkind)
  · have hkept := (hnow.leaves_below _ (by simp)).mpr hfile
    exact absurd (hdirectory.symm.trans hkept) (by simp)

/-- One more entry that is no directory was copied before the others. -/
theorem cons_leaf
    (h : EntriesCopied host files source target place names rest directories middle after)
    (hmiddle : Onward host files source target place now middle)
    (hleaf : now.kind? (place ++ (names ++ [name])) ≠ some .directory)
    (hlanded : ∀ content, files.kind? (place ++ (names ++ [name])) = some (.file content) →
      files.Landed source target place middle (names ++ [name]) content) :
    EntriesCopied host files source target place names (name :: rest) directories now after :=
  ⟨hmiddle.trans h.onward, h.directory,
    List.forall_mem_cons.mpr ⟨fun hkind => absurd hkind hleaf,
      fun other hother hkind => h.kept other hother (hmiddle.directories hkind)⟩,
    List.forall_mem_cons.mpr
      ⟨fun content hfile => h.onward.landed hfile (hlanded content hfile), h.landed⟩⟩

end EntriesCopied

/-- The directories of a list are copied one after the other. -/
theorem ends_copyDirectories {depth : Nat} {directories : List Name}
    (hcopy : ∀ name ∈ directories, ∀ now, Grown host (place <+: ·) files now →
      Ends (copyTree host depth (Path.below source (names ++ [name]))
          (Path.below target (names ++ [name]))) now
        (fun _ after => Onward host files source target place now after ∧
          files.LandedBelow source target place after (names ++ [name]))
        (fun _ after => Grown host (place <+: ·) files after))
    (hnow : Grown host (place <+: ·) files now) :
    Ends (directories.reverse.forM fun name =>
        copyTree host depth (Path.join (Path.below source names) name)
          (Path.join (Path.below target names) name)) now
      (fun _ after => Onward host files source target place now after ∧
        ∀ name ∈ directories.reverse,
          files.LandedBelow source target place after (names ++ [name]))
      (fun _ after => Grown host (place <+: ·) files after) := by
  refine ends_forM (fun h => .refl h.grown) Onward.trans (fun h hlanded => h.landedBelow hlanded)
    ?_ (.refl hnow)
  intro name hname middle hmiddle
  rw [← Path.below_concat, ← Path.below_concat]
  exact hcopy name (List.mem_reverse.mp hname) middle hmiddle.grown

section

variable (hapart : files.CopiesApart source target place)
include hapart

/-- An entry that is no directory is copied to its landing place. -/
theorem ends_copyFile_entry (hdenotes : files.Denotes (Path.below source names) (place ++ names))
    (hnow : Grown host (place <+: ·) files now) {name : Name} (hname : Path.IsName name)
    {kind : Kind} (hkind : now.kind? (place ++ (names ++ [name])) = some kind) :
    Ends (copyFile host (Path.join (Path.below source names) name)
        (Path.join (Path.below target names) name)) now
      (fun _ after => Onward host files source target place now after ∧ kind ≠ .directory ∧
        ∀ content, files.kind? (place ++ (names ++ [name])) = some (.file content) →
          files.Landed source target place after (names ++ [name]) content)
      (fun _ after => Grown host (place <+: ·) files after) := by
  -- What is no link is read at its own place, and the copy of an entry lands where it may.
  have hentry : ∀ {found landing content written after},
      FileCopied host now (Path.join (Path.below source names) name)
        (Path.join (Path.below target names) name) found landing content written after →
      ((∀ link, files.kind? (place ++ (names ++ [name])) ≠ some (.link link)) →
        kind = .file content) ∧
      files.CopyLands source target place (names ++ [name]) landing := by
    intro found landing content written after hcopied
    have hsource := hcopied.reads
    have htarget := hcopied.lands
    rw [hnow.denotes_iff, ← Path.below_concat] at hsource htarget
    have hown : (∀ link, files.kind? (place ++ (names ++ [name])) ≠ some (.link link)) →
        kind = .file content := by
      intro hlink
      rw [← List.append_assoc] at hlink hkind
      have hhere := FileSystem.denotes_join hdenotes hname hlink
      rw [← Path.below_concat] at hhere
      have hfound := hcopied.stored
      rw [hsource.unique hhere, hkind] at hfound
      exact Option.some.inj hfound
    refine ⟨hown, ?_, htarget, fun hlanding => hcopied.apart (hsource.unique hlanding)⟩
    by_cases hlink : ∃ link, files.kind? (place ++ (names ++ [name])) = some (.link link)
    · exact .inr hlink
    · have hfile := hown fun link hkind => hlink ⟨link, hkind⟩
      exact .inl ⟨content, (hnow.leaves_below _ (by simp)).mp (hfile ▸ hkind)⟩
  apply (ends_copyFile hnow.valid).mono
  · rintro _ after ⟨found, landing, content, -, hcopied⟩
    obtain ⟨hown, hlands⟩ := hentry hcopied
    have hcontent : ∀ old, files.kind? (place ++ (names ++ [name])) = some (.file old) →
        content = old := by
      intro old hfile
      have hkept := (hnow.leaves_below _ (by simp)).mpr hfile
      rw [hkind, hown (by simp [hfile])] at hkept
      simpa using hkept
    refine ⟨.of_copied hapart hnow hlands hcontent hcopied.replaces hcopied.working hcopied.valid
      hcopied.kinds, ?_, ?_⟩
    · rintro rfl
      cases hlands.entry with
      | inl hfile =>
          obtain ⟨old, hfile⟩ := hfile
          exact absurd (hown (by simp [hfile])) (by simp)
      | inr hlink =>
          obtain ⟨link, hlink⟩ := hlink
          exact absurd (((hnow.links _ link).mpr hlink).symm.trans hkind) (by simp)
    · intro old hfile
      refine ⟨landing, hlands, ?_⟩
      rw [hcopied.kinds, if_pos rfl, hcontent old hfile]
  · rintro _ _ (- | ⟨-, hcopied⟩)
    · exact hnow
    · exact hnow.of_added hcopied.kinds hcopied.working hcopied.valid hcopied.replaces (by simp)
        fun hwithin => absurd hwithin (hapart.outside (hentry hcopied).2)

/-- The entries of a directory are taken one after the other: a directory is kept for later, and
what is none is copied. -/
theorem ends_copyEntries (hdenotes : files.Denotes (Path.below source names) (place ++ names))
    {listed : List Name} (hnow : Grown host (place <+: ·) files now)
    (hlisted : ∀ name ∈ listed, Path.IsName name ∧
      ∃ kind, now.kind? (place ++ (names ++ [name])) = some kind) :
    Ends (copyEntries host (Path.below source names) (Path.below target names) listed) now
      (fun directories after =>
        EntriesCopied host files source target place names listed directories now after)
      (fun _ after => Grown host (place <+: ·) files after) := by
  induction listed generalizing now with
  | nil => exact ⟨.refl hnow, by simp, by simp, by simp⟩
  | cons name rest ih =>
      obtain ⟨hname, kind, hkind⟩ := hlisted name List.mem_cons_self
      have hrest := fun other hother => hlisted other (List.mem_cons_of_mem name hother)
      have hnames := FileSystem.names_join hdenotes hname
      rw [List.append_assoc, ← hnow.names_iff] at hnames
      simp only [copyEntries, ends_bind, ends_get]
      split
      · rename_i htest
        have hdirectory := hnames.kind?_eq_directory hnow.valid htest
        rw [ends_bind]
        apply (ih hnow hrest).mono
        · exact fun directories after hothers => hothers.cons_directory hnow hname hdirectory
        · exact fun _ _ h => h
      · rw [ends_bind]
        apply (ends_copyFile_entry hapart hdenotes hnow hname hkind).mono
        · rintro _ middle ⟨hmiddle, hleaf, hlanded⟩
          have hrest' : ∀ other ∈ rest, Path.IsName other ∧
              ∃ kind, middle.kind? (place ++ (names ++ [other])) = some kind := by
            intro other hother
            obtain ⟨hother', kind, hkind⟩ := hrest other hother
            exact ⟨hother', kind, hmiddle.kind?_below hnow hkind⟩
          have hleaf' : now.kind? (place ++ (names ++ [name])) ≠ some .directory := by
            simpa [hkind] using hleaf
          apply (ih hmiddle.grown hrest').mono
          · exact fun directories after hothers => hothers.cons_leaf hmiddle hleaf' hlanded
          · exact fun _ _ hafter => hafter
        · exact fun _ _ h => h

/-- The entries of a directory are copied, its directories last. -/
theorem ends_copyListed {depth : Nat} {entries : Entries} {listed : List Name}
    (hdenotes : files.Denotes (Path.below source names) (place ++ names))
    (hnow : Grown host (place <+: ·) files now)
    (hat : now.at? (place ++ names) = some (.directory entries))
    (hlisted : ∀ name, name ∈ listed ↔
      ∃ kind, now.kind? (place ++ (names ++ [name])) = some kind)
    (hcopy : ∀ {others now}, files.Denotes (Path.below source others) (place ++ others) →
      files.Placed (Path.below source others) → Grown host (place <+: ·) files now →
      Ends (copyTree host depth (Path.below source others) (Path.below target others)) now
        (fun _ after => Onward host files source target place now after ∧
          files.LandedBelow source target place after others)
        (fun _ after => Grown host (place <+: ·) files after)) :
    Ends (do
        let directories ←
          copyEntries host (Path.below source names) (Path.below target names) listed
        directories.reverse.forM fun name =>
          copyTree host depth (Path.join (Path.below source names) name)
            (Path.join (Path.below target names) name)) now
      (fun _ after => Onward host files source target place now after ∧
        files.LandedBelow source target place after names)
      (fun _ after => Grown host (place <+: ·) files after) := by
  have hnames : ∀ name ∈ listed, Path.IsName name ∧
      ∃ kind, now.kind? (place ++ (names ++ [name])) = some kind := by
    intro name hname
    obtain ⟨kind, hkind⟩ := (hlisted name).mp hname
    refine ⟨?_, kind, hkind⟩
    rw [← List.append_assoc] at hkind
    exact hnow.valid.isName hkind
  rw [ends_bind]
  apply (ends_copyEntries hapart hdenotes hnow hnames).mono
  · rintro directories copied hentries
    have hcopied := hentries.onward
    have hbelow : ∀ name ∈ directories, ∀ now, Grown host (place <+: ·) files now →
        Ends (copyTree host depth (Path.below source (names ++ [name]))
            (Path.below target (names ++ [name]))) now
          (fun _ after => Onward host files source target place now after ∧
            files.LandedBelow source target place after (names ++ [name]))
          (fun _ after => Grown host (place <+: ·) files after) := by
      intro name hname now hnow
      obtain ⟨hname, hkind⟩ := hentries.directory name hname
      have hjoined := FileSystem.names_join hdenotes hname
      rw [← Path.below_concat, List.append_assoc] at hjoined
      have hlink : ∀ link, files.kind? (place ++ (names ++ [name])) ≠ some (.link link) := by
        intro link hlink
        have hcontrary := (hcopied.grown.links _ link).mpr hlink
        exact absurd (hcontrary.symm.trans hkind) (by simp)
      exact hcopy (hjoined.denotes hlink) hjoined.placed hnow
    apply (ends_copyDirectories hbelow hcopied.grown).mono
    · rintro _ last ⟨hlast, hlanded⟩
      refine ⟨hcopied.trans hlast, ?_⟩
      apply FileSystem.landedBelow_of_entries
      · intro content hfile
        have hkept := (hnow.leaves_below names (by simp)).mpr hfile
        rw [FileSystem.kind?_of_at? hat] at hkept
        simp [Node.kind] at hkept
      · intro name content hfile
        have hkept := (hnow.leaves_below _ (by simp)).mpr hfile
        have hname := (hlisted name).mpr ⟨_, hkept⟩
        exact hlast.landed hfile (hentries.landed name hname content hfile)
      · intro name hdirectory
        have hkept := hnow.directories _ hdirectory
        have hname := hentries.kept name ((hlisted name).mpr ⟨_, hkept⟩) hkept
        exact hlanded name (List.mem_reverse.mpr hname)
    · exact fun _ _ hlast => hlast
  · exact fun _ _ hcopied => hcopied

/-- Every file at or below a directory of the source lands when the directory is copied. -/
theorem ends_copyTree {depth : Nat}
    (hdenotes : files.Denotes (Path.below source names) (place ++ names))
    (hplaced : files.Placed (Path.below source names))
    (hnow : Grown host (place <+: ·) files now) :
    Ends (copyTree host depth (Path.below source names) (Path.below target names)) now
      (fun _ after => Onward host files source target place now after ∧
        files.LandedBelow source target place after names)
      (fun _ after => Grown host (place <+: ·) files after) := by
  induction depth generalizing names now with
  | zero => exact hnow
  | succ depth ih =>
      have hmakes : Keeps (Onward host files source target place now) (fun _ => True)
          (makeDirectories host (Path.below target names)) := (Onward.keeps_makeDirectories _).1
      unfold copyTree
      rw [ends_bind]
      apply (hmakes now (.refl hnow)).mono _ fun _ _ hfailed => hfailed.2.grown
      rintro _ made ⟨-, hmade⟩
      rw [ends_bind]
      apply ends_listNames.mono
      · rintro listed after ⟨rfl, -, directory, entries, hlookup, hperm⟩
        obtain ⟨hat, hfound⟩ := FileSystem.denotes_of_placed hmade.grown.valid
          (hmade.grown.placed hplaced) hlookup (by simp)
        obtain rfl := hdenotes.unique (hmade.grown.denotes_iff.mp hfound)
        have hlisted : ∀ name, name ∈ listed ↔
            ∃ kind, after.kind? (place ++ (names ++ [name])) = some kind := by
          intro name
          rw [hperm.mem_iff, FileSystem.mem_names_iff hat, List.append_assoc]
        apply (ends_copyListed hapart hdenotes hmade.grown hat hlisted ih).mono
        · exact fun _ last hlast => ⟨hmade.trans hlast.1, hlast.2⟩
        · exact fun _ last hlast => hlast
      · rintro _ _ ⟨rfl, -⟩
        exact hmade.grown

end

end LineShell.Disk
