import LineShell.Proofs.FileSystem.Copies
import LineShell.Proofs.FileSystem.Parents
import LineShell.Proofs.FileSystem.WellFormed

/-!
# Copies that overlap their source

Where there are no links, a directory can be copied to a place above itself, and its copies can land
in it again.  The copy only reads its source as long as whatever lands there is there already and is
written once more in whole; the directories that the target is spelled with may be made in it as
well, and are copied like all that was there.
-/

namespace LineShell

namespace FileSystem

variable {host : Host} {files now after : FileSystem} {path target : Text} {place inner : Place}
variable {kind : Kind} {named : Place → Prop}

/-! ### Names joined to a path -/

/-- A path that is continued by names goes where it went and then straight down. -/
theorem mem_visited_below (hlinks : files.LinkFree) (h : files.Denotes path place) {names : Place}
    (hnames : ∀ name ∈ names, Path.IsName name) {entry : Place}
    (hentry : entry ∈ files.visited (Path.below path names)) :
    entry ∈ files.visited path ∨ ∃ front, front <+: names ∧ entry = place ++ front := by
  induction names using List.reverseRecOn with
  | nil => exact .inl hentry
  | append_singleton front name ih =>
      have hfront : ∀ name ∈ front, Path.IsName name := fun name hname =>
        hnames name (List.mem_append_left _ hname)
      have hdenotes := denotes_below h hfront fun _ _ _ _ link => hlinks _ link
      have hname := hnames name (by simp)
      rw [Path.below_concat, visited_join hlinks hdenotes hname.not_slash,
        Walk.visited_of_naming hname.naming] at hentry
      rcases List.mem_append.mp hentry with hentry | hentry
      · rcases ih hfront hentry with hvisited | ⟨beginning, hbegins, rfl⟩
        · exact .inl hvisited
        · exact .inr ⟨beginning, hbegins.trans (List.prefix_append front [name]), rfl⟩
      · refine .inr ⟨front ++ [name], List.prefix_rfl, ?_⟩
        rw [List.mem_singleton.mp hentry, List.append_assoc]

/-- What is found to be a directory among the entries below a path stands there. -/
theorem kind?_directory_below (hfiles : files.Valid host) (hlinks : files.LinkFree)
    (h : files.Denotes path place) {names : Place} (hnames : ∀ name ∈ names, Path.IsName name)
    {name : Name} (hname : Path.IsName name)
    (htest : (files.isDirectory host (Path.join (Path.below path names) name) &&
      !files.isLink host (Path.join (Path.below path names) name)) = true) :
    files.kind? (place ++ (names ++ [name])) = some .directory := by
  have hbelow := denotes_below h hnames fun _ _ _ _ link => hlinks _ link
  rw [← List.append_assoc]
  exact (names_join hbelow hname).kind?_eq_directory hfiles htest

/-! ### What may be found in the source -/

/-- Something stands at a place already, or it is a new directory at one that was named. -/
def Furnished (files : FileSystem) (named : Place → Prop) (place : Place) (kind : Kind) : Prop :=
  files.kind? place = some kind ∨ files.kind? place = none ∧ kind = .directory ∧ named place

/-- What was at or below a place is there, and nothing else but new directories at places that were
named. -/
structure OnlyRead (files : FileSystem) (named : Place → Prop) (place : Place) (after : FileSystem) :
    Prop where
  kept : ∀ rest kind, files.kind? (place ++ rest) = some kind →
    after.kind? (place ++ rest) = some kind
  furnished : ∀ rest kind, after.kind? (place ++ rest) = some kind →
    files.Furnished named (place ++ rest) kind

/-- What is copied from a place to another one above it, and so into itself, is there already, and
there is room to write it once more. -/
def Repeats (files : FileSystem) (host : Host) (named : Place → Prop) (place inner : Place) :
    Prop :=
  ∀ front rest kind, inner ++ front = place →
    files.Furnished named (place ++ (front ++ rest)) kind →
      files.Furnished named (place ++ rest) kind ∧ kind.FindsRoom host (place ++ rest)

theorem Repeats.furnished (h : files.Repeats host named place inner) (houtside : ¬ place <+: inner)
    {names rest : Place} (hlanding : inner ++ names = place ++ rest)
    (hnames : files.Furnished named (place ++ names) kind) :
    files.Furnished named (place ++ rest) kind ∧ kind.FindsRoom host (place ++ rest) := by
  rcases List.append_eq_append_iff.mp hlanding with ⟨front, rfl, rfl⟩ | ⟨front, rfl, -⟩
  · exact h front rest kind rfl hnames
  · exact absurd (List.prefix_append place front) houtside

theorem OnlyRead.refl (files : FileSystem) (named : Place → Prop) (place : Place) :
    files.OnlyRead named place files :=
  ⟨fun _ _ h => h, fun _ _ h => .inl h⟩

/-- What is no directory has nothing below it. -/
theorem OnlyRead.of_leaf (hkind : files.kind? place = some kind)
    (hafter : after.kind? place = some kind) (hleaf : kind ≠ .directory) :
    files.OnlyRead named place after := by
  have hbelow : ∀ {now : FileSystem} {rest new}, now.kind? place = some kind →
      now.kind? (place ++ rest) = some new → rest = [] := by
    intro now rest new hnow hnew
    by_contra hne
    rw [kind?_eq_directory_of_below hnew hne] at hnow
    exact hleaf (Option.some.inj hnow).symm
  constructor
  · intro rest old hold
    obtain rfl := hbelow hkind hold
    rw [List.append_nil] at hold ⊢
    exact hafter.trans (hkind.symm.trans hold)
  · intro rest new hnew
    obtain rfl := hbelow hafter hnew
    rw [List.append_nil] at hnew ⊢
    exact .inl (hkind.trans (hafter.symm.trans hnew))

/-- What is read once more is set once more. -/
theorem OnlyRead.of_changed (h : files.OnlyRead named place now) {changed : Place}
    (hchanged : ∀ rest, changed = place ++ rest → files.Furnished named (place ++ rest) kind)
    (hkinds : ∀ other, after.kind? other = if other = changed then some kind else now.kind? other) :
    files.OnlyRead named place after := by
  constructor
  · intro rest old hold
    rw [hkinds]
    split
    · rename_i heq
      rcases hchanged rest heq.symm with hsame | ⟨hnone, -⟩
      · exact hsame.symm.trans hold
      · rw [hnone] at hold
        cases hold
    · exact h.kept rest old hold
  · intro rest new hnew
    rw [hkinds] at hnew
    split at hnew
    · rename_i heq
      obtain rfl := Option.some.inj hnew
      exact hchanged rest heq.symm
    · exact h.furnished rest new hnew

/-- A file system in the course of a copy from one place to another one. -/
structure Reading (host : Host) (files : FileSystem) (named : Place → Prop) (place : Place)
    (now : FileSystem) : Prop where
  valid : now.Valid host
  linkFree : now.LinkFree
  working : now.working = files.working
  onlyRead : files.OnlyRead named place now

theorem Reading.denotes_iff (h : Reading host files named place now) (hlinks : files.LinkFree)
    {entry : Place} : now.Denotes path entry ↔ files.Denotes path entry :=
  denotes_iff_of_linkFree hlinks h.linkFree h.working

/-- Directories are made where the target is spelled with them, or where others are copied to. -/
theorem Reading.of_extended {within : Place → Prop} (h : Reading host files named place now)
    (hafter : now.Extended host within after)
    (hwithin : ∀ rest, within (place ++ rest) →
      named (place ++ rest) ∨ files.Furnished named (place ++ rest) .directory) :
    Reading host files named place after := by
  refine ⟨hafter.valid, hafter.linkFree h.linkFree, hafter.working.trans h.working, ?_, ?_⟩
  · exact fun rest kind hkind => hafter.kept (h.onlyRead.kept rest kind hkind)
  · intro rest kind hkind
    rcases hafter.kinds (place ++ rest) with hsame | ⟨hmade, hnone, hdirectory⟩
    · exact h.onlyRead.furnished rest kind (hsame.symm.trans hkind)
    · obtain rfl := Option.some.inj (hdirectory.symm.trans hkind)
      rcases hwithin rest hmade with hvisited | hfurnished
      · refine .inr ⟨?_, rfl, hvisited⟩
        by_contra hsome
        obtain ⟨old, hold⟩ := Option.ne_none_iff_exists'.mp hsome
        exact absurd (hnone.symm.trans (h.onlyRead.kept rest old hold)) (by simp)
      · exact hfurnished

end FileSystem

namespace Disk

open FileSystem (Reading)

variable {host : Host} {files now : FileSystem} {source target : Text} {place inner : Place}
variable {named : Place → Prop}

section Copying

variable (hlinks : files.LinkFree) (hsource : files.Denotes source place)
  (htarget : files.Denotes target inner) (houtside : ¬ place <+: inner)
  (hnamed : ∀ rest, place ++ rest ∈ files.visited target → named (place ++ rest))
  (hrepeats : files.Repeats host named place inner)
include hlinks hsource htarget houtside hrepeats

theorem keeps_copyFile_reading {names : Place} (hnames : ∀ name ∈ names, Path.IsName name) :
    Keeps (Reading host files named place) (fun _ => True)
      (copyFile host (Path.below source names) (Path.below target names)) := by
  intro now hnow
  have hreading : ∀ {found landing content written after}, FileCopied host now
      (Path.below source names) (Path.below target names) found landing content written after →
      (∀ rest, landing = place ++ rest → host.breaksOff landing [] content = none →
        written = content) →
      Reading host files named place after := by
    intro found landing content written after hcopied hwhole
    have hhere := FileSystem.denotes_below hsource hnames fun _ _ _ _ link => hlinks _ link
    have hthere := FileSystem.denotes_below htarget hnames fun _ _ _ _ link => hlinks _ link
    obtain rfl := ((hnow.denotes_iff hlinks).mp hcopied.reads).unique hhere
    obtain rfl := ((hnow.denotes_iff hlinks).mp hcopied.lands).unique hthere
    refine ⟨hcopied.valid, fun other link hlink => ?_, hcopied.working.trans hnow.working,
      hnow.onlyRead.of_changed (fun rest hlanding => ?_) hcopied.kinds⟩
    · rw [hcopied.kinds] at hlink
      split at hlink
      · cases hlink
      · exact hnow.linkFree other link hlink
    · obtain ⟨hfurnished, hroom⟩ := hrepeats.furnished houtside hlanding
        (hnow.onlyRead.furnished names _ hcopied.stored)
      rw [← hlanding] at hroom
      rw [hwhole rest hlanding hroom]
      exact hfurnished
  apply (ends_copyFile hnow.valid).mono
  · rintro _ after ⟨found, landing, content, -, hcopied⟩
    exact ⟨trivial, hreading hcopied fun _ _ _ => rfl⟩
  -- What is broken off lands outside of the source, since there is room in it.
  · rintro _ _ (- | ⟨hcount, hcopied⟩)
    · exact ⟨trivial, hnow⟩
    · exact ⟨trivial, hreading hcopied fun _ _ hroom => by simp [hroom] at hcount⟩

omit hsource in
include hnamed in
theorem keeps_makeDirectories_reading {names : Place} (hnames : ∀ name ∈ names, Path.IsName name)
    (hfurnished : ∀ front, front <+: names →
      files.Furnished named (place ++ front) .directory) :
    Keeps (Reading host files named place) (fun _ => True)
      (makeDirectories host (Path.below target names)) := by
  intro now hnow
  have hkeeps : ∀ {after}, now.Extended host (· ∈ now.visited (Path.below target names)) after →
      Reading host files named place after := by
    intro after hafter
    apply hnow.of_extended hafter
    intro rest hrest
    rw [FileSystem.visited_congr hnow.working] at hrest
    refine (FileSystem.mem_visited_below hlinks htarget hnames hrest).imp (hnamed rest) ?_
    rintro ⟨front, hbegins, hlanding⟩
    exact (hrepeats.furnished houtside hlanding.symm (hfurnished front hbegins)).1
  apply (ends_makeDirectories_visited hnow.valid hnow.linkFree).mono
  · exact fun _ _ hafter => ⟨trivial, hkeeps hafter⟩
  · exact fun _ _ hafter => ⟨trivial, hkeeps hafter⟩

theorem gives_copyEntries_reading {names : Place} {listed : List Name}
    (hnames : ∀ name ∈ names, Path.IsName name) (hlisted : ∀ name ∈ listed, Path.IsName name) :
    Gives (Reading host files named place) (fun _ => True)
      (fun directories => ∀ name ∈ directories, Path.IsName name ∧
        files.Furnished named (place ++ (names ++ [name])) .directory)
      (copyEntries host (Path.below source names) (Path.below target names) listed) := by
  refine (gives_copyEntries (fun name hname => ?_) fun name hname now hnow htest => ?_).mono
    fun _ h => h.2
  · rw [← Path.below_concat, ← Path.below_concat]
    apply keeps_copyFile_reading hlinks hsource htarget houtside hrepeats
    simpa [or_imp, forall_and] using ⟨hnames, hlisted name hname⟩
  · have hkind := FileSystem.kind?_directory_below hnow.valid hnow.linkFree
      ((hnow.denotes_iff hlinks).mpr hsource) hnames (hlisted name hname) htest
    exact ⟨hlisted name hname, hnow.onlyRead.furnished _ _ hkind⟩

include hnamed in
/-- Copying a tree keeps to reading its source. -/
theorem keeps_copyTree_reading {depth : Nat} {names : Place}
    (hnames : ∀ name ∈ names, Path.IsName name)
    (hfurnished : ∀ front, front <+: names →
      files.Furnished named (place ++ front) .directory) :
    Keeps (Reading host files named place) (fun _ => True)
      (copyTree host depth (Path.below source names) (Path.below target names)) := by
  induction depth generalizing names with
  | zero => exact .throw trivial
  | succ depth ih =>
      have hlists : Gives (Reading host files named place) (fun _ => True)
          (fun listed => ∀ name ∈ listed, Path.IsName name)
          (listNames host (Path.below source names)) := by
        intro now hnow
        apply (ends_listNames_valid hnow.valid).mono
        · rintro listed _ ⟨rfl, hlisted⟩
          exact ⟨fun name hname => (hlisted name hname).1, hnow⟩
        · rintro _ _ ⟨rfl, -⟩
          exact ⟨trivial, hnow⟩
      refine (keeps_makeDirectories_reading hlinks htarget houtside hnamed hrepeats hnames hfurnished).bind
        fun _ _ => hlists.bind fun listed hlisted => (gives_copyEntries_reading hlinks hsource
          htarget houtside hrepeats hnames hlisted).bind fun directories hdirectories => .forM
            fun name hname => ?_
      obtain ⟨hname, hdirectory⟩ := hdirectories name (List.mem_reverse.mp hname)
      rw [← Path.below_concat, ← Path.below_concat]
      apply ih
      · simpa [or_imp, forall_and] using ⟨hnames, hname⟩
      · intro front hfront
        rcases List.prefix_concat_iff.mp hfront with rfl | hfront
        · exact hdirectory
        · exact hfurnished front hfront

end Copying

section Copy

variable (hfiles : files.Valid host) (hlinks : files.LinkFree)
  (hsource : files.Denotes source place) (htarget : files.Denotes target inner)
  (hnamed : ¬ place <+: inner → ∀ rest, place ++ rest ∈ files.visited target →
    named (place ++ rest))
  (hdirectory : files.kind? place = some .directory →
    (place <+: inner → Path.leadingSlashes source ≠ 2) ∧ files.Repeats host named place inner)
include hfiles hlinks hsource htarget hnamed hdirectory

/-- A directory is found not to hold the target, and is only read then. -/
theorem ends_copyTo_directory (hthere : files.isDirectory host source = true)
    (hplace : files.Rooted source → files.kind? place = some .directory) :
    Ends (copyTo host source target) files (fun _ after => files.OnlyRead named place after)
      (fun _ after => files.OnlyRead named place after) := by
  have hrefl := FileSystem.OnlyRead.refl files named place
  simp only [copyTo, ends_bind, ends_get, hthere, if_true]
  apply (ends_isWithin_denotes hfiles hlinks hsource htarget).mono
  · rintro within now ⟨rfl, hrooted, -, hwithin⟩
    have hkind := hplace hrooted
    obtain ⟨hslashes, hrepeats⟩ := hdirectory hkind
    rw [ends_guard]
    refine ⟨fun _ => hrefl, fun hout => ?_⟩
    have houtside : ¬ place <+: inner := fun hinside =>
      hout (hwithin.mpr ⟨hslashes hinside, hinside⟩)
    have hreading : ∀ {middle}, now.Extended host (· <+: inner.dropLast) middle →
        Reading host now named place middle := by
      intro middle hmiddle
      apply FileSystem.Reading.of_extended ⟨hfiles, hlinks, rfl, hrefl⟩ hmiddle
      intro rest hrest
      exact absurd (((List.prefix_append place rest).trans hrest).trans
        (List.dropLast_prefix inner)) houtside
    rw [ends_bind]
    apply (ends_ensureParent hfiles hlinks htarget).mono
    · rintro _ middle ⟨-, -, hmiddle⟩
      have hfurnished : ∀ front, front <+: ([] : Place) →
          now.Furnished named (place ++ front) .directory := by
        intro front hfront
        rw [List.prefix_nil.mp hfront, List.append_nil]
        exact .inl hkind
      exact (keeps_copyTree_reading hlinks hsource htarget houtside (hnamed houtside) hrepeats
        (by simp) hfurnished middle (hreading hmiddle)).mono
        (fun _ _ h => h.2.onlyRead) fun _ _ h => h.2.onlyRead
    · exact fun _ middle hmiddle => (hreading hmiddle).onlyRead
  · rintro _ _ ⟨-, rfl, -⟩
    exact hrefl

omit hnamed hdirectory in
/-- What is no directory has nothing below it and is only read. -/
theorem ends_copyTo_leaf {kind : Kind} (hthere : files.isDirectory host source = false)
    (hkind : files.kind? place = some kind) (hleaf : kind ≠ .directory) :
    Ends (copyTo host source target) files (fun _ after => files.OnlyRead named place after)
      (fun _ after => files.OnlyRead named place after) := by
  simp only [copyTo, ends_bind, ends_get, hthere, Bool.false_eq_true, if_false]
  apply (ends_ensureParent hfiles hlinks htarget).mono
  · rintro _ now ⟨-, -, hnow⟩
    have hread : ∀ {found landing content written after},
        FileCopied host now source target found landing content written after →
        files.OnlyRead named place after := by
      intro found landing content written after hcopied
      obtain rfl := hcopied.reads.unique (hnow.denotes hlinks hsource)
      exact .of_leaf hkind (by rw [hcopied.kinds, if_neg hcopied.apart, hnow.kept hkind]) hleaf
    apply (ends_copyFile hnow.valid).mono
    · rintro _ after ⟨found, landing, content, -, hcopied⟩
      exact hread hcopied
    · rintro _ _ (- | ⟨-, hcopied⟩)
      · exact .of_leaf hkind (hnow.kept hkind) hleaf
      · exact hread hcopied
  · exact fun _ now hnow => .of_leaf hkind (hnow.kept hkind) hleaf

end Copy

/-- A copy only reads its source, whether or not it comes to its end, as long as a directory that is
copied to a place above it finds there already what is copied into it. -/
theorem copy_onlyRead {destination : Text} (hfiles : files.Valid host) (hlinks : files.LinkFree)
    (hsource : files.Denotes source place)
    (htarget : files.Denotes (targetFor files host source destination) inner)
    (hdirectory : files.kind? place = some .directory →
      (place <+: inner → Path.leadingSlashes source ≠ 2) ∧
        files.Repeats host (· ∈ files.visited destination) place inner) :
    Ends (copy host source destination) files
      (fun _ after => files.OnlyRead (· ∈ files.visited destination) place after)
      (fun _ after => files.OnlyRead (· ∈ files.visited destination) place after) := by
  have hnamed : ¬ place <+: inner → ∀ rest,
      place ++ rest ∈ files.visited (targetFor files host source destination) →
      place ++ rest ∈ files.visited destination := by
    intro houtside rest hrest
    refine (mem_visited_targetFor hlinks htarget hrest).resolve_right fun heq => ?_
    exact houtside (heq ▸ List.prefix_append place rest)
  simp only [copy, ends_bind, ends_get, ends_guard, ends_attempt]
  refine ⟨fun _ => .refl _ _ _, fun hentry => ?_⟩
  rw [Bool.not_eq_true, Bool.not_eq_false'] at hentry
  obtain ⟨⟨found, node⟩, hentry⟩ := Option.isSome_iff_exists.mp hentry
  have hcopied : Ends (copyTo host source (targetFor files host source destination)) files
      (fun _ after => files.OnlyRead (· ∈ files.visited destination) place after)
      (fun _ after => files.OnlyRead (· ∈ files.visited destination) place after) := by
    have htest := FileSystem.isDirectory_of_entry? hlinks hentry
    by_cases hnode : node.kind = .directory
    · rw [Node.isDirectory_iff.mpr hnode] at htest
      apply ends_copyTo_directory hfiles hlinks hsource htarget hnamed hdirectory htest
      intro hrooted
      have hat := FileSystem.at?_of_entry? hlinks hsource hfiles hentry fun _ => hrooted.placed
      exact (FileSystem.kind?_of_at? hat).trans (congrArg some hnode)
    · have hat := FileSystem.at?_of_entry? hlinks hsource hfiles hentry fun h => absurd h hnode
      rw [Bool.eq_false_iff.mpr fun h => hnode (Node.isDirectory_iff.mp h)] at htest
      exact ends_copyTo_leaf hfiles hlinks hsource htarget htest (FileSystem.kind?_of_at? hat) hnode
  apply hcopied.mono
  · exact fun _ _ h => h
  · intro fault after h
    split
    · exact h
    · split
      · exact h
      · exact h
      · exact h

section Example

/-- A directory that holds one of its name, which holds another one; these two have a file of one
name. -/
def nestedTree (outer inner : Bytes) : FileSystem :=
  { top := [("a", .directory [("a", .directory
    [("a", .directory [("f", .file inner)]), ("f", .file outer)])])] }

theorem nestedTree_linkFree (outer inner : Bytes) : (nestedTree outer inner).LinkFree :=
  Node.linkFree_directory (List.forall_mem_singleton.mpr (Node.linkFree_directory
    (List.forall_mem_singleton.mpr (Node.linkFree_directory (List.forall_mem_cons.mpr
      ⟨Node.linkFree_directory (List.forall_mem_singleton.mpr (Node.linkFree_file inner)),
        List.forall_mem_singleton.mpr (Node.linkFree_file outer)⟩)))))

theorem nestedTree_wellFormed :
    (Node.directory (nestedTree [1] [1]).top).WellFormed {} := by
  have hinner : (Node.directory [("f", .file [1])]).WellFormed {} :=
    Node.wellFormed_directory (by decide) (by decide)
      (List.forall_mem_singleton.mpr (Node.wellFormed_file [1]))
  have hmiddle : (Node.directory [("a", .directory [("f", .file [1])]), ("f", .file [1])]).WellFormed
      {} :=
    Node.wellFormed_directory (by decide) (by decide) (List.forall_mem_cons.mpr
      ⟨hinner, List.forall_mem_singleton.mpr (Node.wellFormed_file [1])⟩)
  have houter : (Node.directory [("a", .directory
      [("a", .directory [("f", .file [1])]), ("f", .file [1])])]).WellFormed {} :=
    Node.wellFormed_directory (by decide) (by decide) (List.forall_mem_singleton.mpr hmiddle)
  exact Node.wellFormed_directory (by decide) (by decide) (List.forall_mem_singleton.mpr houter)

/-- The directory is copied into the one that holds it, and what it holds into itself. -/
theorem copy_nestedTree (outer inner : Bytes) :
    copy {} "/a/a" "/" (nestedTree outer inner) = .ok "/a" { top := [("a", .directory
      [("a", .directory [("a", .directory [("f", .file inner)]), ("f", .file inner)]),
        ("f", .file outer)])] } := by
  cbv

/-- Where the two files are the same, the inner one is copied over the outer one to no effect. -/
theorem copy_onlyRead_nestedTree :
    (nestedTree [1] [1]).Valid {} ∧ (nestedTree [1] [1]).LinkFree ∧
      (nestedTree [1] [1]).Denotes "/a/a" [("a" : Text), "a"] ∧
      (nestedTree [1] [1]).Denotes (targetFor (nestedTree [1] [1]) {} "/a/a" "/") [("a" : Text)] ∧
      (nestedTree [1] [1]).Repeats {} (· ∈ (nestedTree [1] [1]).visited "/") [("a" : Text), "a"]
        [("a" : Text)] ∧
      copy {} "/a/a" "/" (nestedTree [1] [1]) = .ok "/a" { top := [("a", .directory
        [("a", .directory [("a", .directory [("f", .file [1])]), ("f", .file [1])]),
          ("f", .file [1])])] } ∧
      (nestedTree [1] [1]).OnlyRead (· ∈ (nestedTree [1] [1]).visited "/") [("a" : Text), "a"]
        { top := [("a", .directory
          [("a", .directory [("a", .directory [("f", .file [1])]), ("f", .file [1])]),
            ("f", .file [1])])] } := by
  have hvalid : (nestedTree [1] [1]).Valid {} := FileSystem.valid_of_wellFormed nestedTree_wellFormed
  have hlinks := nestedTree_linkFree [1] [1]
  have htarget : targetFor (nestedTree [1] [1]) {} "/a/a" "/" = "/a" := by cbv
  have hsource : (nestedTree [1] [1]).Denotes "/a/a" [("a" : Text), "a"] :=
    (hlinks.denotes_iff (by decide)).mpr (by decide)
  have hinner : (nestedTree [1] [1]).Denotes (targetFor (nestedTree [1] [1]) {} "/a/a" "/")
      [("a" : Text)] := by
    rw [htarget]
    exact (hlinks.denotes_iff (by decide)).mpr (by decide)
  have hrepeats : (nestedTree [1] [1]).Repeats {} (· ∈ (nestedTree [1] [1]).visited "/")
      [("a" : Text), "a"] [("a" : Text)] := by
    rintro front rest kind hplace (hkind | ⟨-, -, hnamed⟩)
    · obtain rfl : front = [("a" : Text)] := List.cons.inj hplace |>.2
      have hdeep : ∀ rest kind, (Node.directory [("f", .file [1])]).kind? rest = some kind →
          (nestedTree [1] [1]).kind? ([("a" : Text), "a"] ++ rest) = some kind :=
        Node.forall_kind?_directory rfl
          (List.forall_mem_singleton.mpr (Node.forall_kind?_leaf (fun _ => rfl) rfl))
      exact ⟨.inl (hdeep rest kind hkind), Host.roomy_default.findsRoom kind _⟩
    · have hnone : (nestedTree [1] [1]).visited "/" = [] := by cbv
      rw [hnone] at hnamed
      cases hnamed
  have hrun := copy_nestedTree [1] [1]
  have hslashes : [("a" : Text), "a"] <+: [("a" : Text)] → Path.leadingSlashes "/a/a" ≠ 2 :=
    fun _ => by decide
  -- Let the run not be evaluated once more.
  generalize nestedTree [1] [1] = files at *
  have hread := Ends.of_ok
    (copy_onlyRead hvalid hlinks hsource hinner fun _ => ⟨hslashes, hrepeats⟩) hrun
  exact ⟨hvalid, hlinks, hsource, hinner, hrepeats, hrun, hread⟩

/-- Where the two files differ, the outer one is overwritten by the inner one, although it is in
the directory that is copied. -/
theorem not_copy_onlyRead_nestedTree :
    copy {} "/a/a" "/" (nestedTree [1] [2]) = .ok "/a" { top := [("a", .directory
        [("a", .directory [("a", .directory [("f", .file [2])]), ("f", .file [2])]),
          ("f", .file [1])])] } ∧
      ¬ (nestedTree [1] [2]).OnlyRead (· ∈ (nestedTree [1] [2]).visited "/") [("a" : Text), "a"]
        { top := [("a", .directory
          [("a", .directory [("a", .directory [("f", .file [2])]), ("f", .file [2])]),
            ("f", .file [1])])] } := by
  refine ⟨copy_nestedTree [1] [2], fun h => ?_⟩
  have hkept := h.kept [("f" : Text)] (.file [1]) rfl
  exact absurd hkept (by decide)

end Example

end Disk

end LineShell
