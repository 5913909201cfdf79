import LineShell.FileSystem.Listing
import LineShell.Proofs.FileSystem.Overlaps
import LineShell.Proofs.FileSystem.Rounds
import Mathlib.Algebra.BigOperators.Group.Finset.Basic

/-!
# Copies come to an end

A copy can make directories in its own source, and goes into these as well if it has not been there
before.  Still there are only finitely many: where the target lies above the source, what is made in
the source stands higher than what is copied, so the names that lead to it are among those that lead
on from there.  Every directory that is ever found is therefore reached by names that follow each
other in a place that was there, or that the target is spelled with, and no directory is found
twice.  No limit of the machine has a part in this.
-/

namespace LineShell

/-- Whatever stands below a node is among its descendants. -/
theorem Node.mem_descendants {node found : Node} {name : Name} {rest : Place}
    (h : node.at? (name :: rest) = some found) : (name :: rest, found) ∈ node.descendants := by
  obtain ⟨child, hchild, hat⟩ := Option.bind_eq_some_iff.mp h
  cases node with
  | directory entries =>
      rw [descendants]
      refine List.mem_flatMap.mpr ⟨⟨(name, child), Entries.mem_of_get? hchild⟩,
        List.mem_attach _ _, ?_⟩
      cases rest with
      | nil => exact Option.some.inj hat ▸ List.mem_cons_self
      | cons next more =>
          have hbelow := mem_descendants hat
          exact List.mem_cons_of_mem _ (List.mem_map.mpr ⟨_, hbelow, rfl⟩)
  | file content => cases hchild
  | link target => cases hchild
  | pipe => cases hchild

/-- Lists that go on with different items are different, and none of them is where they part. -/
theorem sum_card_concat_lt {A : Type} [DecidableEq A] {runs : Finset (List A)} {front : List A}
    (hfront : front ∈ runs) {names : List A} (hnames : names.Nodup) :
    (names.map fun name => (runs.filter (front ++ [name] <+: ·)).card).sum <
      (runs.filter (front <+: ·)).card := by
  have hunion : (names.toFinset.biUnion fun name => runs.filter (front ++ [name] <+: ·)).card =
      (names.map fun name => (runs.filter (front ++ [name] <+: ·)).card).sum := by
    rw [Finset.card_biUnion, List.sum_toFinset _ hnames]
    intro name _ other _ hne
    refine Finset.disjoint_filter.mpr fun list _ hname hother => hne ?_
    have hsame := List.prefix_of_prefix_length_le hname hother (by simp)
    simpa using hsame
  have hsubset : names.toFinset.biUnion (fun name => runs.filter (front ++ [name] <+: ·)) ⊆
      runs.filter (front <+: ·) := by
    intro list hlist
    obtain ⟨name, -, hlist⟩ := Finset.mem_biUnion.mp hlist
    obtain ⟨hmem, hlonger⟩ := Finset.mem_filter.mp hlist
    exact Finset.mem_filter.mpr ⟨hmem, (List.prefix_append front [name]).trans hlonger⟩
  rw [← hunion]
  apply Finset.card_lt_card
  refine (Finset.ssubset_iff_of_subset hsubset).mpr
    ⟨front, Finset.mem_filter.mpr ⟨hfront, List.prefix_rfl⟩, fun hmem => ?_⟩
  obtain ⟨name, -, hmem⟩ := Finset.mem_biUnion.mp hmem
  have hlength := (Finset.mem_filter.mp hmem).2.length_le
  simp at hlength

namespace FileSystem

variable {host : Host} {files now after : FileSystem} {target : Text} {place inner : Place}

/-- The names that follow each other in a place, of those that are there and those that a path goes
into. -/
def runs (files : FileSystem) (path : Text) : List Place :=
  ([] :: files.root.descendants.map Prod.fst ++ files.visited path).flatMap fun place =>
    place.tails.flatMap List.inits

theorem mem_runs_iff {path : Text} {names : Place} : names ∈ files.runs path ↔
    ∃ place ∈ [] :: files.root.descendants.map Prod.fst ++ files.visited path, names <:+: place := by
  simp only [runs, List.mem_flatMap, List.mem_tails, List.mem_inits, List.infix_iff_prefix_suffix,
    and_comm]

theorem nil_mem_runs (files : FileSystem) (path : Text) : [] ∈ files.runs path :=
  mem_runs_iff.mpr ⟨[], by simp, List.nil_infix⟩

theorem mem_runs_of_infix {path : Text} {names part : Place} (h : names ∈ files.runs path)
    (hpart : part <:+: names) : part ∈ files.runs path := by
  obtain ⟨place, hplace, hnames⟩ := mem_runs_iff.mp h
  exact mem_runs_iff.mpr ⟨place, hplace, hpart.trans hnames⟩

theorem mem_runs_of_kind? {path : Text} {kind : Kind} (h : files.kind? place = some kind) :
    place ∈ files.runs path := by
  cases place with
  | nil => exact nil_mem_runs files path
  | cons name rest =>
      obtain ⟨node, hnode, -⟩ := exists_at?_of_kind? h
      refine mem_runs_iff.mpr ⟨name :: rest, ?_, List.infix_rfl⟩
      simp only [List.cons_append, List.mem_cons, List.mem_append, List.mem_map]
      exact .inr (.inl ⟨(name :: rest, node), Node.mem_descendants hnode, rfl⟩)

theorem mem_runs_of_visited {path : Text} (h : place ∈ files.visited path) :
    place ∈ files.runs path :=
  mem_runs_iff.mpr ⟨place, List.mem_append_right _ h, List.infix_rfl⟩

/-- How many runs of names go on from those that lead to some directories, for all of these together.
-/
def ahead (files : FileSystem) (path : Text) (pending : List Place) : Nat :=
  (pending.map fun names => ((files.runs path).toFinset.filter (names <+: ·)).card).sum

/-- Fewer runs are ahead when a directory is replaced by those in it. -/
theorem ahead_entered_lt {path : Text} {names : Place} (hnames : names ∈ files.runs path)
    {listed : List Name} (hlisted : listed.Nodup) (rest : List Place) :
    files.ahead path (listed.map (names ++ [·]) ++ rest) < files.ahead path (names :: rest) := by
  have hfewer := sum_card_concat_lt (List.mem_toFinset.mpr hnames) hlisted
  rw [ahead, ahead, List.map_append, List.sum_append, List.map_map, Function.comp_def, List.map_cons,
    List.sum_cons]
  omega

theorem ahead_source_le (files : FileSystem) (path : Text) :
    files.ahead path [[]] ≤ (files.runs path).length := by
  rw [ahead, List.map_singleton, List.sum_singleton]
  exact (Finset.card_filter_le _ _).trans (List.toFinset_card_le _)

/-- Names that can be spelled and follow each other in a place that is there or gone into. -/
structure Run (files : FileSystem) (path : Text) (names : Place) : Prop where
  isName : ∀ name ∈ names, Path.IsName name
  mem : names ∈ files.runs path

theorem Run.concat {path : Text} {names : Place} {name : Name} (h : files.Run path names)
    (hname : Path.IsName name) (hmem : names ++ [name] ∈ files.runs path) :
    files.Run path (names ++ [name]) := by
  refine ⟨fun other hother => ?_, hmem⟩
  rcases List.mem_append.mp hother with hother | hother
  · exact h.isName other hother
  · exact List.mem_singleton.mp hother ▸ hname

/-- A file system in the course of a copy from a place: every directory there is reached by names
that follow each other in a place that was there, or that the target is spelled with. -/
structure Bounded (host : Host) (files : FileSystem) (target : Text) (place : Place)
    (now : FileSystem) : Prop where
  valid : now.Valid host
  linkFree : now.LinkFree
  distinct : now.Distinct
  working : now.working = files.working
  directories : ∀ rest, now.kind? (place ++ rest) = some .directory → rest ∈ files.runs target

theorem Bounded.refl (hvalid : files.Valid host) (hlinks : files.LinkFree)
    (hdistinct : files.Distinct) : Bounded host files target place files :=
  ⟨hvalid, hlinks, hdistinct, rfl, fun rest hkind =>
    mem_runs_of_infix (mem_runs_of_kind? hkind) (List.suffix_append place rest).isInfix⟩

theorem Bounded.denotes_iff (h : Bounded host files target place now) (hlinks : files.LinkFree)
    {path : Text} {entry : Place} : now.Denotes path entry ↔ files.Denotes path entry :=
  denotes_iff_of_linkFree hlinks h.linkFree h.working

/-- What is made for a path below the target, and lies in the source, stands higher there. -/
theorem Bounded.of_extended (h : Bounded host files target place now)
    (hlinks : files.LinkFree) (htarget : files.Denotes target inner) (houtside : ¬ place <+: inner)
    {names : Place} (hnames : files.Run target names)
    (hafter : now.Extended host (· ∈ now.visited (Path.below target names)) after) :
    Bounded host files target place after := by
  refine ⟨hafter.valid, hafter.linkFree h.linkFree, hafter.distinct h.distinct,
    hafter.working.trans h.working, fun rest hkind => ?_⟩
  rcases hafter.kinds (place ++ rest) with hsame | ⟨hmade, -, -⟩
  · exact h.directories rest (hsame.symm.trans hkind)
  rw [visited_congr h.working] at hmade
  rcases mem_visited_below hlinks htarget hnames.isName hmade with hvisited | ⟨front, hbegins, hplace⟩
  · exact mem_runs_of_infix (mem_runs_of_visited hvisited) (List.suffix_append place rest).isInfix
  -- The target is not in the source, so it lies above, and what is made in the source is reached by
  -- the last of the names that the copy went down by.
  · rcases List.append_eq_append_iff.mp hplace with ⟨more, hinner, -⟩ | ⟨more, -, hfront⟩
    · exact absurd ⟨more, hinner.symm⟩ houtside
    · have hsuffix : rest <:+ front := ⟨more, hfront.symm⟩
      exact mem_runs_of_infix hnames.mem (hsuffix.isInfix.trans hbegins.isInfix)

end FileSystem

namespace Disk

open FileSystem (Bounded)

variable {host : Host} {files : FileSystem} {source target : Text} {place inner : Place}

/-- The calls that copy a directory leave no directory with two entries of one name. -/
theorem levelCallsKeep_distinct (host : Host) :
    LevelCallsKeep host (fun _ => True) (fun _ => True) FileSystem.Distinct (fun _ => True) where
  join _ _ := trivial
  splitLast _ := trivial
  listNames _ := by
    apply gives_of_refused fun _ => trivial
    intro files hfiles
    apply ends_listNames.mono_done
    rintro names _ ⟨rfl, -⟩
    exact ⟨fun _ _ => trivial, hfiles⟩
  readFile _ := by
    apply gives_of_refused fun _ => trivial
    intro files hfiles
    apply ends_readFile.mono_done
    rintro content _ ⟨rfl, -⟩
    exact ⟨trivial, hfiles⟩
  makeDirectory _ := by
    apply gives_of_refused fun _ => trivial
    intro files hfiles
    apply ends_create.mono_done
    rintro - _ ⟨place, name, slashed, -, -, -, rfl⟩
    exact ⟨trivial, hfiles.put (.of_leaf (fun _ => rfl) (.inr rfl)) place name⟩
  changeFile _ := keeps_changeFile (fun _ => trivial) trivial fun _ hfiles _ =>
    hfiles.put (.of_leaf (fun _ => rfl) (.inl (by simp [Node.kind]))) _ _
  nullByte _ _ := trivial
  sameFile _ _ := trivial
  namedPipe _ := trivial
  copyBrokenOff _ _ := trivial
  noDirectory _ := trivial

/-- A copied file brings no directory. -/
theorem keeps_copyFile_bounded (path landing : Text) :
    Keeps (Bounded host files target place) (fun _ => True) (copyFile host path landing) := by
  intro now hnow
  have hcopies : Keeps FileSystem.Distinct (fun _ => True) (copyFile host path landing) :=
    (levelCallsKeep_distinct host).copyFile trivial trivial
  have hbounded : ∀ {found inner content written after}, after.Distinct →
      FileCopied host now path landing found inner content written after →
      Bounded host files target place after := by
    intro found inner content written after hdistinct hcopied
    have hchanged : now.Changed host inner (some (.file written)) after :=
      ⟨hcopied.valid, fun _ => hdistinct, hcopied.working, hcopied.kinds⟩
    refine ⟨hcopied.valid, hchanged.linkFree hnow.linkFree (by simp), hdistinct,
      hcopied.working.trans hnow.working, fun rest hkind => ?_⟩
    rw [hcopied.kinds] at hkind
    split at hkind
    · cases hkind
    · exact hnow.directories rest hkind
  apply ((hcopies now hnow.distinct).and (ends_copyFile hnow.valid)).mono
  · rintro _ after ⟨⟨-, hdistinct⟩, found, inner, content, -, hcopied⟩
    exact ⟨trivial, hbounded hdistinct hcopied⟩
  · rintro _ after ⟨⟨-, hdistinct⟩, - | ⟨-, hcopied⟩⟩
    · exact ⟨trivial, hnow⟩
    · exact ⟨trivial, hbounded hdistinct hcopied⟩

/-- Each name is listed once. -/
theorem gives_listNames_bounded (path : Text) :
    Gives (Bounded host files target place) (fun _ => True)
      (fun names => names.Nodup ∧ ∀ name ∈ names, Path.IsName name) (listNames host path) := by
  intro now hnow
  apply ((ends_listNames_valid hnow.valid).and ends_listNames).mono
  · rintro names _ ⟨⟨rfl, hnames⟩, -, -, found, entries, hlookup, hperm⟩
    refine ⟨⟨?_, fun name hname => (hnames name hname).1⟩, hnow⟩
    rw [hperm.nodup_iff]
    cases entries with
    | nil => exact List.nodup_nil
    | cons entry rest =>
        have hentries := FileSystem.at?_of_lookup (.inr hnow.valid.lasting) hlookup (.inr (by simp))
        exact hnow.distinct found _ hentries
  · rintro _ _ ⟨⟨rfl, -⟩, -⟩
    exact ⟨trivial, hnow⟩

/-- The pending directories that some names lead to, below the source and below the target. -/
def pendingBelow (source target : Text) (pending : List Place) : Pending :=
  pending.map fun names => (Path.below source names, Path.below target names)

section Copying

variable (hlinks : files.LinkFree) (hsource : files.Denotes source place)
  (htarget : files.Denotes target inner) (houtside : ¬ place <+: inner)
include hlinks

include htarget houtside in
theorem keeps_makeDirectories_bounded {names : Place} (hnames : files.Run target names) :
    Keeps (Bounded host files target place) (fun _ => True)
      (makeDirectories host (Path.below target names)) := by
  intro now hnow
  apply (ends_makeDirectories_visited hnow.valid hnow.linkFree).mono
  · exact fun _ _ h => ⟨trivial, hnow.of_extended hlinks htarget houtside hnames h⟩
  · exact fun _ _ h => ⟨trivial, hnow.of_extended hlinks htarget houtside hnames h⟩

include hsource in
/-- What is found to be a directory is reached by a run of names. -/
theorem gives_copyEntries_bounded {names : Place} {listed : List Name}
    (hnames : files.Run target names) (hlisted : ∀ name ∈ listed, Path.IsName name) :
    Gives (Bounded host files target place) (fun _ => True)
      (fun directories => directories.Sublist listed ∧
        ∀ name ∈ directories, files.Run target (names ++ [name]))
      (copyEntries host (Path.below source names) (Path.below target names) listed) := by
  apply gives_copyEntries
  · exact fun name _ => keeps_copyFile_bounded _ _
  · intro name hname now hnow htest
    have hkind := FileSystem.kind?_directory_below hnow.valid hnow.linkFree
      ((hnow.denotes_iff hlinks).mpr hsource) hnames.isName (hlisted name hname) htest
    exact hnames.concat (hlisted name hname) (hnow.directories _ hkind)

include hsource htarget houtside

/-- The directories in a directory are reached by one more name each, and no two by the same. -/
theorem gives_copyLevel_bounded {names : Place} (hnames : files.Run target names) :
    Gives (Bounded host files target place) (fun _ => True)
      (fun pending => ∃ listed : List Name, listed.Nodup ∧
        (∀ name ∈ listed, files.Run target (names ++ [name])) ∧
        pending = pendingBelow source target (listed.map (names ++ [·])))
      (copyLevel host (Path.below source names) (Path.below target names)) := by
  refine (keeps_makeDirectories_bounded hlinks htarget houtside hnames).bind fun _ _ =>
    (gives_listNames_bounded _).bind fun listed hlisted =>
    (gives_copyEntries_bounded hlinks hsource hnames hlisted.2).bind fun directories hdirectories =>
    .pure ⟨directories.reverse, ?_, ?_, ?_⟩
  · exact List.nodup_reverse.mpr (hlisted.1.sublist hdirectories.1)
  · exact fun name hname => hdirectories.2 name (List.mem_reverse.mp hname)
  · simp only [pendingBelow, List.map_map, Function.comp_def, Path.below_concat]

/-- Each round leaves fewer runs of names ahead. -/
theorem gives_copyRound_bounded {names : Place} {rest : List Place}
    (hpending : ∀ other ∈ names :: rest, files.Run target other) :
    Gives (Bounded host files target place) (fun _ => True)
      (fun next => ∃ others, (∀ names ∈ others, files.Run target names) ∧
        files.ahead target others < files.ahead target (names :: rest) ∧
        next = pendingBelow source target others)
      (copyRound host (pendingBelow source target (names :: rest))) := by
  obtain ⟨hnames, hrest⟩ := List.forall_mem_cons.mp hpending
  refine (gives_copyLevel_bounded hlinks hsource htarget houtside hnames).bind fun found hfound =>
    .pure ?_
  obtain ⟨listed, hnodup, hlisted, rfl⟩ := hfound
  refine ⟨listed.map (names ++ [·]) ++ rest, fun others hothers => ?_,
    FileSystem.ahead_entered_lt hnames.mem hnodup rest, List.map_append.symm⟩
  rcases List.mem_append.mp hothers with hothers | hothers
  · obtain ⟨name, hname, rfl⟩ := List.mem_map.mp hothers
    exact hlisted name hname
  · exact hrest others hothers

/-- So many rounds are enough as there are runs of names ahead. -/
theorem settles_bounded {count : Nat} {pending : List Place}
    (hpending : ∀ names ∈ pending, files.Run target names)
    (hcount : files.ahead target pending ≤ count) {now : FileSystem}
    (hnow : Bounded host files target place now) :
    Settles host count (pendingBelow source target pending) now := by
  induction count generalizing pending now with
  | zero =>
      cases pending with
      | nil => exact rfl
      | cons names rest =>
          -- The names that lead to a pending directory are themselves a run ahead.
          have hmore := FileSystem.ahead_entered_lt (hpending names List.mem_cons_self).mem
            List.nodup_nil rest
          omega
  | succ count ih =>
      cases pending with
      | nil =>
          rw [Settles, pendingBelow, List.map_nil, copyRounds_nil]
          exact rfl
      | cons names rest =>
          rw [Settles, copyRounds, ends_bind]
          apply (gives_copyRound_bounded hlinks hsource htarget houtside hpending now hnow).mono
          · rintro _ middle ⟨⟨others, hothers, hfewer, rfl⟩, hmiddle⟩
            exact ih hothers (by omega) hmiddle
          · exact fun _ _ _ => trivial

/-- A copy to a place outside of its source, be it above the source, comes to its end or to a fault of
the system after no more rounds than there are runs of names, in whatever order directories list
their names.  Only what is no path for the system, because of a null character, ends it otherwise. -/
theorem copyRounds_ends (hfiles : files.Valid host) (hdistinct : files.Distinct) :
    Ends (copyRounds host (files.runs target).length [(source, target)]) files
      (fun left after => left = [] ∧
        copyTree host (depthLimit host) source target files = .ok () after)
      (fun fault after => (fault.OfSystem ∨ fault = .nullByte ∧
          ¬ (files.NullFree ∧ source.hasNull = false ∧ target.hasNull = false)) ∧
        copyTree host (depthLimit host) source target files = .error fault after) := by
  have hpending : ∀ names ∈ ([[]] : List Place), files.Run target names :=
    List.forall_mem_singleton.mpr ⟨by simp, FileSystem.nil_mem_runs files target⟩
  have hsettles := settles_bounded hlinks hsource htarget houtside hpending
    (FileSystem.ahead_source_le files target) (.refl hfiles hlinks hdistinct)
  exact ends_copyRounds_of_settles hfiles hsettles

end Copying

section Example

/-- A directory in one of its name.  It holds an empty directory, and in another one of its name one
that holds a directory. -/
def deepTree : FileSystem :=
  { top := [("a", .directory [("a", .directory [("b", .directory []),
    ("a", .directory [("b", .directory [("c", .directory [])])])])])] }

theorem deepTree_linkFree : deepTree.LinkFree := by
  have hempty : ∀ place target, (Node.directory []).kind? place ≠ some (.link target) :=
    Node.linkFree_directory (List.forall_mem_nil _)
  exact Node.linkFree_directory (List.forall_mem_singleton.mpr (Node.linkFree_directory
    (List.forall_mem_singleton.mpr (Node.linkFree_directory (List.forall_mem_cons.mpr ⟨hempty,
      List.forall_mem_singleton.mpr (Node.linkFree_directory (List.forall_mem_singleton.mpr
        (Node.linkFree_directory (List.forall_mem_singleton.mpr hempty))))⟩)))))

theorem deepTree_wellFormed : (Node.directory deepTree.top).WellFormed {} := by
  have hempty : (Node.directory []).WellFormed {} :=
    Node.wellFormed_directory (by decide) (by decide) (List.forall_mem_nil _)
  have hlast : (Node.directory [("c", .directory [])]).WellFormed {} :=
    Node.wellFormed_directory (by decide) (by decide) (List.forall_mem_singleton.mpr hempty)
  have hinner : (Node.directory [("b", .directory [("c", .directory [])])]).WellFormed {} :=
    Node.wellFormed_directory (by decide) (by decide) (List.forall_mem_singleton.mpr hlast)
  have hsource : (Node.directory [("b", .directory []),
      ("a", .directory [("b", .directory [("c", .directory [])])])]).WellFormed {} :=
    Node.wellFormed_directory (by decide) (by decide)
      (List.forall_mem_cons.mpr ⟨hempty, List.forall_mem_singleton.mpr hinner⟩)
  have houter : (Node.directory [("a", .directory [("b", .directory []),
      ("a", .directory [("b", .directory [("c", .directory [])])])])]).WellFormed {} :=
    Node.wellFormed_directory (by decide) (by decide) (List.forall_mem_singleton.mpr hsource)
  exact Node.wellFormed_directory (by decide) (by decide) (List.forall_mem_singleton.mpr houter)

/-- The inner directory is copied into the empty one, which is gone into after that and found to
hold a copy. -/
theorem copyTree_deepTree : copyTree {} (depthLimit {}) "/a/a" "/a" deepTree = .ok () { top :=
    [("a", .directory [("a", .directory [("b", .directory [("c", .directory [])]),
      ("a", .directory [("b", .directory [("c", .directory [])])])]),
      ("b", .directory [("c", .directory [])])])] } := by
  cbv

theorem copyRounds_deepTree :
    deepTree.Valid {} ∧ deepTree.Distinct ∧ deepTree.LinkFree ∧
      deepTree.Denotes "/a/a" [("a" : Text), "a"] ∧ deepTree.Denotes "/a" [("a" : Text)] ∧
      ¬ [("a" : Text), "a"] <+: [("a" : Text)] ∧
      copyRounds {} (deepTree.runs "/a").length [("/a/a", "/a")] deepTree = .ok [] { top :=
        [("a", .directory [("a", .directory [("b", .directory [("c", .directory [])]),
          ("a", .directory [("b", .directory [("c", .directory [])])])]),
          ("b", .directory [("c", .directory [])])])] } := by
  have hvalid : deepTree.Valid {} := FileSystem.valid_of_wellFormed deepTree_wellFormed
  have hdistinct : deepTree.Distinct := deepTree_wellFormed.distinct
  have hlinks := deepTree_linkFree
  have hsource : deepTree.Denotes "/a/a" [("a" : Text), "a"] :=
    (hlinks.denotes_iff (by decide)).mpr (by decide)
  have htarget : deepTree.Denotes "/a" [("a" : Text)] :=
    (hlinks.denotes_iff (by decide)).mpr (by decide)
  have houtside : ¬ [("a" : Text), "a"] <+: [("a" : Text)] := by decide
  have hrun := copyTree_deepTree
  -- Let the run not be evaluated once more.
  generalize deepTree = files at *
  have hends := copyRounds_ends hlinks hsource htarget houtside hvalid hdistinct
  refine ⟨hvalid, hdistinct, hlinks, hsource, htarget, houtside, ?_⟩
  cases hrounds : copyRounds {} (files.runs "/a").length [("/a/a", "/a")] files with
  | ok left after =>
      obtain ⟨rfl, hsame⟩ := hends.of_ok hrounds
      obtain ⟨-, rfl⟩ := EStateM.Result.ok.inj (hrun.symm.trans hsame)
      rfl
  | error fault after => cases hrun.symm.trans (hends.of_error hrounds).2

end Example

end Disk

end LineShell
