import LineShell.Command.Entries
import LineShell.Proofs.FileSystem.Alike
import LineShell.Proofs.FileSystem.Listings
import LineShell.Proofs.FileSystem.WellFormed
import LineShell.Proofs.Session.OnFiles

/-!
# What `ls` shows

The current directory is shown with one line for each of its names, in ascending or descending order.
The names of a directory have one such order only, so the order in which the machine lists them makes
no difference, and of the arguments it matters only which letters occur in them.
-/

namespace LineShell

/-! ### The order of names -/

namespace Text

/-- A text comes before another one, character by character and by code point. -/
def Before (left right : Text) : Prop :=
  List.Lex (fun left right : Char => left.toNat < right.toNat) left right

theorem before_cons_iff {first second : Char} {left right : Text} :
    Before (first :: left) (second :: right) ↔
      first.toNat < second.toNat ∨ first = second ∧ Before left right :=
  List.cons_lex_cons_iff

theorem Before.irrefl (text : Text) : ¬ Before text text := by
  have hcharacter : ∀ character : Char, ¬ character.toNat < character.toNat := fun _ =>
    Nat.lt_irrefl _
  exact List.lex_irrefl hcharacter text

theorem Before.trans {left middle right : Text} (h : Before left middle)
    (h' : Before middle right) : Before left right := by
  induction left generalizing middle right with
  | nil =>
      cases h
      cases h' with
      | rel => exact .nil
      | cons => exact .nil
  | cons first rest ih =>
      cases h with
      | rel h =>
          cases h' with
          | rel h' => exact .rel (Nat.lt_trans h h')
          | cons => exact .rel h
      | cons h =>
          cases h' with
          | rel h' => exact .rel h'
          | cons h' => exact .cons (ih h h')

theorem before_trichotomy (left right : Text) : left = right ∨ Before left right ∨ Before right left := by
  induction left generalizing right with
  | nil =>
      cases right with
      | nil => exact .inl rfl
      | cons second rest => exact .inr (.inl .nil)
  | cons first rest ih =>
      cases right with
      | nil => exact .inr (.inr .nil)
      | cons second others =>
          rcases Nat.lt_trichotomy first.toNat second.toNat with hlt | heq | hlt
          · exact .inr (.inl (.rel hlt))
          · obtain rfl := Char.toNat_inj.mp heq
            rcases ih others with rfl | h | h
            · exact .inl rfl
            · exact .inr (.inl (.cons h))
            · exact .inr (.inr (.cons h))
          · exact .inr (.inr (.rel hlt))

theorem inOrder_iff {left right : Text} :
    inOrder left right = true ↔ left = right ∨ Before left right := by
  induction left generalizing right with
  | nil =>
      cases right with
      | nil => simp [inOrder]
      | cons second rest => exact iff_of_true rfl (.inr .nil)
  | cons first rest ih =>
      cases right with
      | nil => exact iff_of_false Bool.false_ne_true (by rintro (h | h) <;> cases h)
      | cons second others =>
          rw [before_cons_iff, List.cons.injEq, inOrder]
          simp only [Bool.or_eq_true, decide_eq_true_eq, Bool.and_eq_true, beq_iff_eq, ih]
          tauto

/-- Names in ascending order are the only ones of their kind in this order. -/
theorem eq_of_perm_of_before {names others : List Text} (hnames : names.Pairwise Before)
    (hothers : others.Pairwise Before) (hperm : names.Perm others) : names = others :=
  hperm.eq_of_pairwise (fun _ _ _ _ h h' => absurd (h.trans h') (Before.irrefl _)) hnames hothers

end Text

namespace Entry

variable {entries : List Entry}

theorem pairwise_sortByName (entries : List Entry) :
    (sortByName entries).Pairwise fun left right => Text.inOrder left.name right.name = true := by
  refine List.pairwise_mergeSort (fun left middle right h h' => ?_) (fun left right => ?_) entries
  · rw [Text.inOrder_iff] at h h' ⊢
    rcases h with h | h
    · rwa [h]
    rcases h' with h' | h'
    · exact .inr (h' ▸ h)
    · exact .inr (h.trans h')
  · rw [Bool.or_eq_true, Text.inOrder_iff, Text.inOrder_iff]
    rcases Text.before_trichotomy left.name right.name with h | h | h
    · exact .inl (.inl h)
    · exact .inl (.inr h)
    · exact .inr (.inr h)

/-- Entries with distinct names have them in strictly ascending order afterwards. -/
theorem before_sortByName (hentries : (entries.map (·.name)).Nodup) :
    ((sortByName entries).map (·.name)).Pairwise Text.Before := by
  have hnodup : ((sortByName entries).map (·.name)).Nodup :=
    ((List.mergeSort_perm entries _).map _).nodup_iff.mpr hentries
  rw [List.Nodup, List.pairwise_map] at hnodup
  rw [List.pairwise_map]
  exact ((pairwise_sortByName entries).and hnodup).imp fun h =>
    (Text.inOrder_iff.mp h.1).resolve_left h.2

end Entry

namespace EntryCommands

/-! ### Flags -/

/-- An argument of flags: a dash and one or more of the letters `a` and `r`. -/
def IsFlags (argument : Text) : Prop :=
  ∃ letters, argument = '-' :: letters ∧ letters ≠ [] ∧
    ∀ letter ∈ letters, letter = 'a' ∨ letter = 'r'

theorem add?_of_isFlags (options : ListOptions) {argument : Text} (h : IsFlags argument) :
    options.add? argument = some
      { hidden := options.hidden || argument.contains 'a'
        reversed := options.reversed || argument.contains 'r' } := by
  obtain ⟨letters, rfl, hne, hletters⟩ := h
  obtain ⟨first, rest, rfl⟩ := List.exists_cons_of_ne_nil hne
  have hall : (first :: rest).all (fun letter => letter == 'a' || letter == 'r') = true := by
    simpa using hletters
  rw [ListOptions.add?, if_pos hall]
  simp

theorem add?_of_not_isFlags (options : ListOptions) {argument : Text} (h : ¬ IsFlags argument) :
    options.add? argument = none := by
  unfold ListOptions.add?
  split
  · rename_i first rest
    rw [if_neg]
    intro hall
    exact h ⟨first :: rest, rfl, List.cons_ne_nil first rest, by simpa using hall⟩
  · rfl

/-- The letters in all arguments together are the options, whatever arguments they stand in. -/
theorem foldlM_add? (options : ListOptions) {arguments : List Text}
    (h : ∀ argument ∈ arguments, IsFlags argument) :
    arguments.foldlM (·.add? ·) options = some
      { hidden := options.hidden || arguments.any (·.contains 'a')
        reversed := options.reversed || arguments.any (·.contains 'r') } := by
  induction arguments generalizing options with
  | nil => simp
  | cons argument rest ih =>
      obtain ⟨hargument, hrest⟩ := List.forall_mem_cons.mp h
      rw [List.foldlM_cons, add?_of_isFlags options hargument, Option.bind_eq_bind,
        Option.bind_some, ih _ hrest]
      simp [Bool.or_assoc]

theorem foldlM_add?_eq_none (options : ListOptions) {arguments : List Text}
    (h : ¬ ∀ argument ∈ arguments, IsFlags argument) :
    arguments.foldlM (·.add? ·) options = none := by
  induction arguments generalizing options with
  | nil => exact absurd (by simp) h
  | cons argument rest ih =>
      rw [List.foldlM_cons]
      by_cases hargument : IsFlags argument
      · rw [add?_of_isFlags options hargument, Option.bind_eq_bind, Option.bind_some]
        exact ih _ fun hrest => h (List.forall_mem_cons.mpr ⟨hargument, hrest⟩)
      · rw [add?_of_not_isFlags options hargument]
        rfl

/-! ### Lines -/

/-- The line of a name: what is no directory and has no dot in its name gets an extension. -/
def line (files : FileSystem) (host : Host) (directory : Text) (name : Name) : Text :=
  if files.isDirectory host (Path.join directory name) = true ∨ '.' ∈ name then name ++ "
"
  else name ++ ".txt
"

/-- The names that some arguments ask for, out of those of a directory in ascending order. -/
def shownNames (arguments : List Text) (names : List Name) : List Name :=
  let shown := names.filter fun name =>
    arguments.any (·.contains 'a') || name.head? != some '.'
  if arguments.any (·.contains 'r') then shown.reverse else shown

variable {setup : Setup} {world : World} {files : FileSystem} {host : Host} {directory : Text}
variable {names : List Name} {place : Place} {entries : Entries} {arguments : List Text}

theorem isHidden_entryAt (files : FileSystem) (host : Host) (directory : Text) (name : Name) :
    (files.entryAt host directory name).isHidden = (name.head? == some '.') := by
  cases name with
  | nil => rfl
  | cons first rest =>
      simp [FileSystem.entryAt, Entry.isHidden, Text.startsWith, List.isPrefixOf, eq_comm]

theorem displayName_entryAt (hnormal : Path.Normal directory) {name : Name}
    (hname : Path.IsName name) :
    (files.entryAt host directory name).displayName ++ ['\n'] = line files host directory name := by
  have hjoined : Path.normalize (Path.join directory name) = Path.join directory name := by
    rw [Path.normalize_join hnormal.isAbsolute hname, hnormal.normalize]
  rw [FileSystem.entryAt, hjoined, Entry.displayName, Entry.hasExtension, line]
  by_cases hplain : files.isDirectory host (Path.join directory name) = true ∨ '.' ∈ name
  · rw [if_pos hplain, if_pos (by simpa using hplain)]
    rfl
  · rw [if_neg hplain, if_neg (by simpa using hplain)]
    simp

/-- Entries that are told by their names are shown by their lines. -/
theorem flatMap_displayName (hnormal : Path.Normal directory)
    (hnames : ∀ name ∈ names, Path.IsName name) (hidden : Bool) :
    (((names.map (files.entryAt host directory)).filter fun entry =>
        hidden || !entry.isHidden).flatMap fun entry => entry.displayName ++ ['\n']) =
      (names.filter fun name => hidden || name.head? != some '.').flatMap
        (line files host directory) := by
  induction names with
  | nil => rfl
  | cons name rest ih =>
      obtain ⟨hname, hrest⟩ := List.forall_mem_cons.mp hnames
      have hshown : (hidden || !(files.entryAt host directory name).isHidden) =
          (hidden || name.head? != some '.') := by
        rw [isHidden_entryAt]
        rfl
      rw [List.map_cons, List.filter_cons, List.filter_cons, hshown]
      split
      · rw [List.flatMap_cons, List.flatMap_cons, ih hrest, displayName_entryAt hnormal hname]
      · exact ih hrest

/-- A listing has the lines of the names that are asked for. -/
theorem listing_eq (hnormal : Path.Normal directory) (hnames : ∀ name ∈ names, Path.IsName name)
    {listed : List Entry}
    (hlisted : Entry.sortByName listed = names.map (files.entryAt host directory)) :
    listing
        { hidden := arguments.any (·.contains 'a'), reversed := arguments.any (·.contains 'r') }
        listed =
      (shownNames arguments names).flatMap (line files host directory) := by
  unfold listing shownNames
  simp only [hlisted]
  cases arguments.any (·.contains 'r') with
  | false => exact flatMap_displayName hnormal hnames _
  | true =>
      rw [if_pos rfl, if_pos rfl, ← List.map_reverse, ← List.filter_reverse]
      exact flatMap_displayName hnormal (fun name hname => hnames name (List.mem_reverse.mp hname)) _

/-- The entries of a directory in order are told by its names in order. -/
theorem exists_sortByName_eq (files : FileSystem) (host : Host) (directory : Text)
    {arranged : List Name} (hnodup : arranged.Nodup) :
    ∃ names : List Name, names.Pairwise Text.Before ∧ names.Perm arranged ∧
      Entry.sortByName (arranged.map (files.entryAt host directory)) =
        names.map (files.entryAt host directory) := by
  have hplain : (arranged.map (files.entryAt host directory)).map (·.name) = arranged := by
    rw [List.map_map]
    exact List.map_id _
  have hperm := List.mergeSort_perm (arranged.map (files.entryAt host directory))
    fun left right => Text.inOrder left.name right.name
  refine ⟨(Entry.sortByName (arranged.map (files.entryAt host directory))).map (·.name),
    Entry.before_sortByName (hplain.symm ▸ hnodup), ?_, ?_⟩
  · exact (hperm.map _).trans (.of_eq hplain)
  · rw [List.map_map]
    refine (List.map_id _).symm.trans (List.map_congr_left fun entry hentry => ?_)
    obtain ⟨name, -, rfl⟩ := List.mem_map.mp (hperm.mem_iff.mp hentry)
    rfl

/-! ### Runs -/

/-- Arguments that are not all flags are answered with the usage line. -/
theorem run_ls_usage (setup : Setup) (world : World) (piped : Option Text)
    (h : ¬ ∀ argument ∈ arguments, IsFlags argument) :
    run setup { name := "ls", arguments, piped } world =
      .ok (.say "Usage: ls [-a] [-r]\n") world := by
  have hrun : run setup { name := "ls", arguments, piped } = list setup arguments := rfl
  have hoptions : ListOptions.of? arguments = none := foldlM_add?_eq_none {} h
  rw [hrun, list, hoptions]
  rfl

section Listed

variable (setup) (hfiles : world.files.Valid setup.host) (hdistinct : world.files.Distinct)
variable (hnormal : Path.Normal world.session.directory)
variable (htarget : world.files.target? setup.host world.session.directory =
  some (place, .directory entries))
variable (hfits : ∀ name ∈ Entries.names entries,
  Path.Fits setup.host (Path.join world.session.directory name))
include hfiles hdistinct hnormal htarget hfits

/-- Flags are answered with the lines of the names in the current directory. -/
theorem exists_names_of_flags (harguments : ∀ argument ∈ arguments, IsFlags argument)
    (piped : Option Text) :
    ∃ names : List Name, names.Pairwise Text.Before ∧ names.Perm (Entries.names entries) ∧
      run setup { name := "ls", arguments, piped } world =
        .ok (.say ((shownNames arguments names).flatMap
          (line world.files setup.host world.session.directory))) world := by
  have hat := FileSystem.at?_of_lookup (.inl hnormal.isAbsolute)
    (FileSystem.target?_eq_some_iff.mp htarget).2 (.inl hnormal.isAbsolute)
  have hperm := setup.host.arrange_perm world.files place (Entries.names entries)
  obtain ⟨names, hbefore, hnames, hsorted⟩ := exists_sortByName_eq world.files setup.host
    world.session.directory (hperm.nodup_iff.mpr (hdistinct place entries hat))
  have hisName : ∀ name ∈ names, Path.IsName name := by
    intro name hname
    obtain ⟨kind, hkind⟩ :=
      (FileSystem.mem_names_iff hat).mp (hperm.mem_iff.mp (hnames.mem_iff.mp hname))
    exact hfiles.isName hkind
  refine ⟨names, hbefore, hnames.trans hperm, ?_⟩
  have hrun : run setup { name := "ls", arguments, piped } = list setup arguments := rfl
  have hoptions : ListOptions.of? arguments = some
      { hidden := arguments.any (·.contains 'a'), reversed := arguments.any (·.contains 'r') } :=
    (foldlM_add? {} harguments).trans (by simp)
  have hlisted : Shell.onFiles (Disk.listEntries setup.host world.session.directory) world =
      .ok (.ok ((setup.host.arrange world.files place (Entries.names entries)).map
        (world.files.entryAt setup.host world.session.directory))) world := by
    rw [Shell.onFiles, Disk.listEntries_eq hfiles hnormal.isAbsolute htarget hfits]
  have hsession : Shell.session world = .ok world.session world := rfl
  rw [hrun, list, hoptions]
  simp only []
  rw [bind_of_ok hsession, bind_of_ok hlisted]
  rw [← listing_eq hnormal hisName hsorted]
  rfl

/-- `ls` shows the names of the current directory in their order, each once and in a line of its own.
Neither the machine's order of the names nor the way in which the flags are written matters.  With
any other argument only the usage line is shown. -/
theorem run_ls (arguments : List Text) (piped : Option Text) :
    ((∀ argument ∈ arguments, IsFlags argument) →
      ∃ names : List Name, names.Pairwise Text.Before ∧ names.Perm (Entries.names entries) ∧
        run setup { name := "ls", arguments, piped } world =
          .ok (.say ((shownNames arguments names).flatMap
            (line world.files setup.host world.session.directory))) world ∧
        ∀ (other : Setup) (again : List Text) (piped' : Option Text),
          setup.host.Alike other.host → (∀ argument ∈ again, IsFlags argument) →
          (∀ letter, letter = 'a' ∨ letter = 'r' →
            again.any (·.contains letter) = arguments.any (·.contains letter)) →
          run other { name := "ls", arguments := again, piped := piped' } world =
            run setup { name := "ls", arguments, piped } world) ∧
      ((¬ ∀ argument ∈ arguments, IsFlags argument) →
        run setup { name := "ls", arguments, piped } world =
          .ok (.say "Usage: ls [-a] [-r]\n") world) := by
  refine ⟨fun harguments => ?_, run_ls_usage setup world piped⟩
  obtain ⟨names, hbefore, hnames, hrun⟩ := exists_names_of_flags setup hfiles hdistinct hnormal htarget
    hfits harguments piped
  refine ⟨names, hbefore, hnames, hrun, fun other again piped' halike hagain hletters => ?_⟩
  have htarget' : world.files.target? other.host world.session.directory =
      some (place, .directory entries) := by
    rw [halike.target?_eq]
    exact htarget
  obtain ⟨names', hbefore', hnames', hrun'⟩ := exists_names_of_flags other (halike.valid hfiles)
    hdistinct hnormal htarget' (fun name hname => halike.fits (hfits name hname)) hagain piped'
  obtain rfl := Text.eq_of_perm_of_before hbefore hbefore' (hnames.trans hnames'.symm)
  have hline : line world.files other.host world.session.directory =
      line world.files setup.host world.session.directory := by
    funext name
    rw [line, line, halike.isDirectory_eq]
  have hshown : shownNames again names = shownNames arguments names := by
    rw [shownNames, shownNames, hletters 'a' (.inl rfl), hletters 'r' (.inr rfl)]
  rw [hrun, hrun', hline, hshown]

end Listed

section Example

/-- A session in a directory with entries of every kind. -/
def mixedListing : World where
  files := { top := [("d", .directory
    [("c", .link "nowhere"), ("b", .directory []), (".h", .file []), ("B.md", .pipe)])] }
  session := { directory := "/d" }
  output := []
  reader := .nothing

theorem mixedListing_wellFormed : mixedListing.files.root.WellFormed {} := by
  refine Node.wellFormed_directory (by decide) (by decide) (List.forall_mem_singleton.mpr ?_)
  refine Node.wellFormed_directory (by decide) (by decide) ?_
  simp only [List.forall_mem_cons]
  exact ⟨Node.wellFormed_link (by decide),
    Node.wellFormed_directory (by decide) (by decide) (List.forall_mem_nil _),
    Node.wellFormed_file _, Node.wellFormed_pipe, List.forall_mem_nil _⟩

/-- All names are shown the other way round, and the dangling link gets an extension. -/
theorem run_ls_mixedListing :
    mixedListing.files.Valid {} ∧ mixedListing.files.Distinct ∧
      Path.Normal mixedListing.session.directory ∧
      (∀ argument ∈ (["-ra", "-a"] : List Text), IsFlags argument) ∧
      run { host := {} } { name := "ls", arguments := ["-ra", "-a"] } mixedListing =
        .ok (.say "c.txt\nb\nB.md\n.h\n") mixedListing := by
  have hvalid : mixedListing.files.Valid {} :=
    FileSystem.valid_of_wellFormed mixedListing_wellFormed
  have hnormal : Path.Normal mixedListing.session.directory := ⟨by decide, by decide⟩
  have htarget : mixedListing.files.target? {} mixedListing.session.directory = some ([("d" : Text)],
      .directory [("c", .link "nowhere"), ("b", .directory []), (".h", .file []), ("B.md", .pipe)]) :=
    rfl
  have hfits : ∀ name ∈ [("c" : Text), "b", ".h", "B.md"],
      Path.Fits {} (Path.join mixedListing.session.directory name) := by
    simp only [List.forall_mem_cons]
    exact ⟨⟨by decide, by decide⟩, ⟨by decide, by decide⟩, ⟨by decide, by decide⟩,
      ⟨by decide, by decide⟩, List.forall_mem_nil _⟩
  have hflags : ∀ argument ∈ (["-ra", "-a"] : List Text), IsFlags argument := by
    simp only [List.forall_mem_cons]
    exact ⟨⟨['r', 'a'], rfl, by simp, by simp⟩, ⟨['a'], rfl, by simp, by simp⟩,
      List.forall_mem_nil _⟩
  obtain ⟨names, hbefore, hnames, hrun, -⟩ := (run_ls { host := {} } hvalid
    mixedListing_wellFormed.distinct hnormal htarget hfits ["-ra", "-a"] none).1 hflags
  have hsorted : [(".h" : Text), "B.md", "b", "c"].Pairwise Text.Before := by
    simp [Text.before_cons_iff]
  obtain rfl := Text.eq_of_perm_of_before hbefore hsorted (hnames.trans (by decide))
  have hlines : (shownNames ["-ra", "-a"] [(".h" : Text), "B.md", "b", "c"]).flatMap
      (line mixedListing.files {} mixedListing.session.directory) = "c.txt\nb\nB.md\n.h\n" := by
    decide
  refine ⟨hvalid, mixedListing_wellFormed.distinct, hnormal, hflags, ?_⟩
  rw [hrun, hlines]

end Example

end EntryCommands

end LineShell
