import LineShell.Proofs.FileSystem.Sweeps
import LineShell.Proofs.FileSystem.TreeRemoval
import LineShell.Proofs.FileSystem.WellFormed

/-!
# Which trees can be removed

When a tree was swept, its directories go, the innermost first, each by the path that it was found
under.  None of these paths is in the way of another one, and the removal comes to its end, exactly
if the path of the tree keeps out of the tree on its way there: by the time that the tree itself is
to be removed nothing inside of it is left to go through.
-/

namespace LineShell

/-- Nothing is left of a tree, and nothing else has changed. -/
structure Cleared (place : Place) (now after : FileSystem) : Prop where
  gone : ∀ rest, after.kind? (place ++ rest) = none
  apart : ∀ other, ¬ place <+: other → after.kind? other = now.kind? other

namespace Disk

variable {host : Host} {files now after : FileSystem} {path : Text} {place : Place}

/-- The directories that are left of a tree, none of them before those that hold it. -/
structure Remaining (host : Host) (now : FileSystem) (path : Text) (place : Place)
    (rests : List Place) : Prop where
  removable : rests ≠ [] → Removable host now path place
  ordered : rests.Pairwise fun early late => ¬ late <+: early
  kinds : ∀ rest, now.kind? (place ++ rest) = if rest ∈ rests then some .directory else none

/-- The last of the remaining directories is removed. -/
theorem Remaining.completes_removeDirectory {rests : List Place} {last : Place}
    (h : Remaining host now path place (rests ++ [last])) :
    Completes (removeDirectory host (Path.below path last)) now fun _ after =>
      Remaining host after path place rests ∧
        ∀ other, ¬ place <+: other → after.kind? other = now.kind? other := by
  have hordered := List.pairwise_append.mp h.ordered
  have hlater : ∀ rest ∈ rests, ¬ last <+: rest := fun rest hrest =>
    hordered.2.2 rest hrest last List.mem_cons_self
  have hkind : now.kind? (place ++ last) = some .directory := by
    rw [h.kinds, if_pos (by simp)]
  have hbare : now.Bare (place ++ last) := by
    intro next
    rw [List.append_assoc, h.kinds, if_neg]
    intro hmem
    rcases List.mem_append.mp hmem with hmem | hmem
    · exact hlater _ hmem (List.prefix_append last [next])
    · simp at hmem
  have hremovable := h.removable (by simp)
  obtain ⟨directory, name, slashed, hlast, -, haims⟩ := (hremovable.below hkind).aims
  rw [hlast] at hkind hbare
  apply (Disk.completes_removeDirectory hremovable.valid haims hkind hbare).ends
  rintro _ after ⟨hvalid, hdistinct, hworking, hkinds⟩
  rw [← hlast] at hworking hkinds
  have hgone : after.kind? (place ++ last) = none := by
    rw [hkinds, if_pos rfl]
  refine ⟨⟨fun hne => ?_, hordered.1, fun rest => ?_⟩, fun other hother => ?_⟩
  · -- The tree itself is the first of its directories, so what was removed lies inside of it.
    obtain ⟨first, others, rfl⟩ := List.exists_cons_of_ne_nil hne
    have hinside : last ≠ [] := fun hempty =>
      hlater first List.mem_cons_self (hempty ▸ List.nil_prefix)
    refine hremovable.kept hvalid (hdistinct hremovable.distinct) (fun {other kind} hfound => ?_)
      (fun other hother => ?_) (.inr ⟨_, hworking, hgone⟩)
    · rw [hkinds] at hfound
      split at hfound
      · cases hfound
      · exact hfound
    · rw [hkinds, if_neg]
      rintro rfl
      exact hinside (List.append_right_eq_self.mp (hother (List.prefix_append place last)))
  · rw [hkinds, h.kinds]
    by_cases hrest : rest = last
    · rw [hrest, if_pos rfl, if_neg fun hmem => hlater last hmem List.prefix_rfl]
    · rw [if_neg fun heq => hrest (List.append_cancel_left heq)]
      simp [hrest]
  · rw [hkinds, if_neg]
    rintro rfl
    exact hother (List.prefix_append place last)

/-- All remaining directories are removed, the last one first. -/
theorem Remaining.completes_removeDirectories {rests : List Place}
    (h : Remaining host now path place rests) :
    Completes ((rests.map (Path.below path)).reverse.forM (removeDirectory host)) now
      fun _ after => (∀ rest, after.kind? (place ++ rest) = none) ∧
        ∀ other, ¬ place <+: other → after.kind? other = now.kind? other := by
  induction rests using List.reverseRecOn generalizing now with
  | nil => exact ⟨fun rest => by simp [h.kinds], fun _ _ => rfl⟩
  | append_singleton rests last ih =>
      rw [List.map_append, List.map_singleton, List.reverse_append, List.reverse_singleton,
        List.singleton_append, Completes, ends_forM_cons]
      apply h.completes_removeDirectory.ends
      rintro _ middle ⟨hmiddle, hsame⟩
      apply (ih hmiddle).ends
      rintro _ after ⟨hgone, hkept⟩
      exact ⟨hgone, fun other hother => (hkept other hother).trans (hsame other hother)⟩

/-- A tree that can be removed is. -/
theorem Removable.completes_removeTree (h : Removable host now path place) :
    Completes (removeTree host path) now fun _ after => Cleared place now after := by
  rw [Completes, removeTree, ends_bind]
  apply (h.completes_stripTree (by omega)).ends
  rintro directories middle ⟨hmiddle, rests, rfl, hrests⟩
  have hremaining : Remaining host middle path place rests := by
    have hmem : ∀ rest, rest ∈ rests ↔ now.kind? (place ++ rest) = some .directory := by
      simp [hrests.mem_iff]
    refine ⟨fun hne => ?_, hrests.ordered, fun rest => ?_⟩
    · obtain ⟨rest, hrest⟩ := List.exists_mem_of_ne_nil rests hne
      have hkind : now.kind? place = some .directory := by
        by_cases hrest' : rest = []
        · simpa [hrest'] using (hmem rest).mp hrest
        · exact FileSystem.kind?_eq_directory_of_below ((hmem rest).mp hrest) hrest'
      exact h.kept hmiddle.valid hmiddle.distinct hmiddle.fewer (fun other hother => by
        by_cases hinside : place <+: other
        · rw [hother hinside, hmiddle.inside place List.prefix_rfl, if_pos hkind, hkind]
        · exact hmiddle.outside other hinside) (.inl hmiddle.working)
    · rw [hmiddle.inside _ (List.prefix_append place rest)]
      simp only [hmem]
  apply hremaining.completes_removeDirectories.ends
  rintro _ after ⟨hgone, hkept⟩
  exact ⟨hgone, fun other hother => (hkept other hother).trans (hmiddle.outside other hother)⟩

/-! ### No other tree is removed -/

section Directory

variable {directory : Place} {name : Name} {slashed : Bool}

/-- A path keeps out of what has nothing below it. -/
theorem Aims.keepsOut_of_bare (haims : Aims host files .never path directory name slashed)
    (hfiles : files.Valid host)
    (hslashed : slashed = true → files.kind? (directory ++ [name]) = some .directory)
    (hbare : files.Bare (directory ++ [name])) : files.KeepsOut path (directory ++ [name]) := by
  obtain ⟨front, trailing, rfl, hahead⟩ := haims.exists_ahead hfiles
  have hlink : ∀ target, files.kind? (directory ++ [name]) = some (.link target) →
      trailing = [] := by
    intro target hkind
    by_contra hne
    simp [hslashed (by simpa using hne)] at hkind
  rintro entry hentry ⟨rest, rfl⟩
  rcases hahead.passes_of_goesThrough hlink hentry with hpasses | ⟨-, heq⟩
  · by_contra hne
    have hrest : rest ≠ [] := by
      rintro rfl
      exact hne (List.append_nil _)
    have hnone := hbare.kind?_eq_none hrest
    rcases hahead.way.kind?_of_passes hpasses with hdirectory | ⟨target, hlink⟩
    · exact absurd (hnone.symm.trans hdirectory) (by simp)
    · exact absurd (hnone.symm.trans hlink) (by simp)
  · exact heq

/-- What a path keeps out of in what is left of a tree, it kept out of before. -/
theorem Aims.keepsOut_of_pruned {slashed' : Bool} {pruned : Place}
    (haims : Aims host files .never path directory name slashed) (hfiles : files.Valid host)
    (hkind : files.kind? (directory ++ [name]) = some .directory)
    (hpruned : Pruned host pruned files after)
    (hleft : Aims host after .never path directory name slashed')
    (hkeeps : after.KeepsOut path (directory ++ [name])) :
    files.KeepsOut path (directory ++ [name]) := by
  obtain ⟨front, trailing, -, hahead⟩ := haims.exists_ahead hfiles
  obtain ⟨front', trailing', -, hstill⟩ := hleft.exists_ahead hpruned.valid
  obtain ⟨rfl, -, -⟩ := Text.append_cons_inj (hahead.split.symm.trans hstill.split)
    hahead.naming.1 hstill.naming.1 hahead.empty hstill.empty
  intro entry hentry hbegins
  rcases hahead.passes_of_goesThrough (by simp [hkind]) hentry with hpasses | ⟨-, heq⟩
  · rw [hstill.way.passes_of_fewer (hpruned.startOf path).symm hpruned.fewer] at hpasses
    exact hkeeps entry (hstill.goesThrough hpasses) hbegins
  · exact heq

/-- A directory to go into comes first among the directories that are found. -/
theorem ends_stripTree_first {depth : Nat}
    (htest : (files.isDirectory host path && !files.isLink host path) = true) :
    Ends (stripTree host (depth + 1) path) files
      (fun directories _ => ∃ below, directories = path :: below) (fun _ _ => True) := by
  rw [stripTree, ends_bind, ends_get, if_pos htest, ends_bind]
  apply (Gives.any (listNames host path) files trivial).mono _ fun _ _ _ => trivial
  rintro names middle -
  rw [ends_bind]
  apply (Gives.any _ middle trivial).mono _ fun _ _ _ => trivial
  exact fun below _ _ => ⟨below.flatten, rfl⟩

/-- When a directory was removed with all that is in it, its path kept out of it: the directory comes
last, with nothing left below it. -/
theorem ends_removeTree_keepsOut (hfiles : files.Valid host)
    (haims : Aims host files .never path directory name slashed)
    (hkind : files.kind? (directory ++ [name]) = some .directory) :
    Ends (removeTree host path) files
      (fun _ _ => files.KeepsOut path (directory ++ [name])) (fun _ _ => True) := by
  obtain ⟨entries, hentries⟩ := FileSystem.exists_entries_of_kind? hkind
  have htest : (files.isDirectory host path && !files.isLink host path) = true :=
    haims.isDirectory_and_not_isLink hfiles hentries fun _ => rfl
  have hdenotes : files.Denotes path (directory ++ [name]) :=
    (haims.walks hfiles).leads fun target hlink => by
      simp [Spot.place, hkind] at hlink
  obtain ⟨front, trailing, -, hahead⟩ := haims.exists_ahead hfiles
  have hplaced : files.Placed path := .inr (.inr ⟨name, by simp [hahead.split], hahead.naming⟩)
  have hlookup := FileSystem.entry?_eq_some_iff.mp (haims.entry?_eq hfiles hentries fun _ => rfl)
  have hstands := (FileSystem.stands_of_lookup hfiles hplaced hlookup.2).2
  rw [removeTree, ends_bind]
  apply ((ends_stripTree (.refl hfiles) rfl (hstands.owned hplaced)).and
    (ends_stripTree_first htest)).mono _ fun _ _ _ => trivial
  rintro directories middle ⟨⟨⟨hmiddle, -⟩, -, hinside⟩, below, rfl⟩
  rw [List.reverse_cons, List.forM_eq_forM, List.forM_append, ends_bind]
  apply (ends_removeDirectories hmiddle fun directory hmem =>
    hinside directory (List.mem_cons_of_mem path hmem)).mono _ fun _ _ _ => trivial
  rintro _ bared ⟨hbared, -⟩
  have hpruned := hmiddle.trans hbared
  have hlast : Ends (removeDirectory host path >>= fun _ => pure ()) bared
      (fun _ _ => files.KeepsOut path (directory ++ [name])) (fun _ _ => True) := by
    rw [ends_bind]
    apply ends_removeDirectory.mono _ fun _ _ _ => trivial
    rintro _ after ⟨directory', name', slashed', hleft, hempty, -⟩
    have hkind' := FileSystem.kind?_of_at? hempty
    obtain ⟨rfl, hsame⟩ :=
      List.append_inj' (hdenotes.unique (hpruned.denotes_of_aims hleft hkind')) rfl
    obtain rfl : name = name' := by simpa using hsame
    exact haims.keepsOut_of_pruned hfiles hkind hpruned hleft
      (hleft.keepsOut_of_bare hpruned.valid (fun _ => hkind')
        (FileSystem.bare_of_emptyDirectory hempty))
  exact hlast

/-- A tree is removed exactly if its path keeps out of it. -/
theorem ends_removeTree_iff (hfiles : files.Valid host) (hdistinct : files.Distinct)
    (haims : Aims host files .never path directory name slashed)
    (hslashed : slashed = true → files.kind? (directory ++ [name]) = some .directory)
    (hthere : ∃ kind, files.kind? (directory ++ [name]) = some kind)
    (hfits : ∀ rest kind, files.kind? (directory ++ [name] ++ rest) = some kind →
      Path.Fits host (Path.below path rest)) :
    Ends (removeTree host path) files
      (fun _ after => files.KeepsOut path (directory ++ [name]) ∧
        Cleared (directory ++ [name]) files after)
      (fun _ _ => ¬ files.KeepsOut path (directory ++ [name])) := by
  by_cases hkeeps : files.KeepsOut path (directory ++ [name])
  · have hremovable : Removable host files path (directory ++ [name]) :=
      ⟨hfiles, hdistinct, hthere, ⟨_, _, slashed, rfl, hslashed, haims⟩, hkeeps, hfits⟩
    exact hremovable.completes_removeTree.ends fun _ _ hcleared => ⟨hkeeps, hcleared⟩
  · have hkind : files.kind? (directory ++ [name]) = some .directory := by
      by_contra hleaf
      exact hkeeps (haims.keepsOut_of_bare hfiles hslashed (FileSystem.bare_of_kind?_ne hleaf))
    apply (ends_removeTree_keepsOut hfiles haims hkind).mono
    · exact fun _ _ h => absurd h hkeeps
    · exact fun _ _ _ => hkeeps

end Directory

/-- A path whose tree was removed names something. -/
theorem ends_removeTree_naming (hfiles : files.Valid host) (hnull : files.NullFree)
    (hpath : path.hasNull = false) :
    Ends (removeTree host path) files
      (fun _ _ => ∃ name ∈ Text.splitOn '/' path, Path.Naming name)
      (fun fault _ => fault ≠ .nullByte) := by
  have hcalls := removalCallsKeep_nullFree host
  have hnames : ∀ {files directory name slashed}, files.Valid host →
      Aims host files .never path directory name slashed →
      ∃ name ∈ Text.splitOn '/' path, Path.Naming name := by
    intro files directory name slashed hfiles haims
    obtain ⟨front, trailing, -, hahead⟩ := haims.exists_ahead hfiles
    exact ⟨name, by simp [hahead.split], hahead.naming⟩
  rw [removeTree, ends_bind]
  by_cases htest : (files.isDirectory host path && !files.isLink host path) = true
  · apply ((hcalls.stripTree hpath files ⟨hfiles, hnull⟩).and
      (ends_stripTree_first htest)).mono _ fun _ _ h => h.1.1
    rintro directories middle ⟨⟨hgood, hmiddle⟩, below, rfl⟩
    rw [List.reverse_cons, List.forM_eq_forM, List.forM_append, ends_bind]
    have hbelow : Keeps (fun files => files.Valid host ∧ files.NullFree) (· ≠ .nullByte)
        (below.reverse.forM (removeDirectory host)) :=
      Gives.forM fun directory hmem => hcalls.removeDirectory
        (hgood directory (List.mem_cons_of_mem path (List.mem_reverse.mp hmem)))
    apply (hbelow middle hmiddle).mono _ fun _ _ h => h.1
    rintro _ bared ⟨-, hbared⟩
    have hlast : Ends (removeDirectory host path >>= fun _ => pure ()) bared
        (fun _ _ => ∃ name ∈ Text.splitOn '/' path, Path.Naming name)
        (fun fault _ => fault ≠ .nullByte) := by
      rw [ends_bind]
      apply ((hcalls.removeDirectory hpath bared hbared).and ends_removeDirectory).mono _
        fun _ _ h => h.1.1
      rintro _ after ⟨-, directory, name, slashed, haims, -⟩
      exact hnames hbared.1 haims
    exact hlast
  · rw [stripTree, ends_bind, ends_get, if_neg htest, ends_bind]
    apply ((hcalls.removeEntry hpath files ⟨hfiles, hnull⟩).and ends_removeEntry).mono _
      fun _ _ h => h.1.1
    rintro _ after ⟨-, directory, name, node, haims, -⟩
    exact hnames hfiles haims

/-- Where nothing is left of a tree, its path leads to nothing. -/
theorem hasEntry_of_pruned {node : Node} (hfiles : files.Valid host)
    (hnames : ∃ name ∈ Text.splitOn '/' path, Path.Naming name)
    (hentry : files.entry? host path = some (place, node))
    (hpruned : Pruned host place files after) (hgone : after.kind? place = none) :
    after.hasEntry host path = false := by
  have hstands : ∀ {files found node}, files.Valid host →
      files.entry? host path = some (found, node) →
      ∃ spot, Walks files .whenSlashed (files.startOf path) (Text.splitOn '/' path) spot ∧
        spot.place = found ∧ files.at? found = some node := by
    intro files found node hfiles hentry
    obtain ⟨spot, hlocate, hspot⟩ :=
      FileSystem.exists_spot_of_lookup (FileSystem.entry?_eq_some_iff.mp hentry).2
    have hwalks := FileSystem.walks_of_placed hfiles (.inr (.inr hnames)) hlocate
    exact ⟨spot, hwalks, FileSystem.at?_of_atSpot hwalks.ne_removed hspot⟩
  rw [FileSystem.hasEntry, Bool.eq_false_iff]
  intro hsome
  obtain ⟨⟨found, inner⟩, hfound⟩ := Option.isSome_iff_exists.mp hsome
  obtain ⟨spot, hwalks, rfl, -⟩ := hstands hfiles hentry
  obtain ⟨left, hleft, rfl, hat⟩ := hstands hpruned.valid hfound
  have hkind := FileSystem.kind?_of_at? hat
  rw [(hpruned.walks hleft hkind).place_unique hwalks, hgone] at hkind
  cases hkind

section Spec

variable {node : Node} (hfiles : files.Valid host) (hnull : files.NullFree)
  (hentry : files.entry? host path = some (place, node))
include hfiles hnull hentry

/-- A removal that comes to its end has cleared what its path led to. -/
theorem ends_removeTree_cleared :
    Ends (removeTree host path) files
      (fun _ after => after.hasEntry host path = false ∧ Cleared place files after)
      (fun fault _ => fault ≠ .nullByte) := by
  obtain ⟨hpath, hlookup⟩ := FileSystem.entry?_eq_some_iff.mp hentry
  have hnaming := ends_removeTree_naming hfiles hnull hpath
  by_cases hnames : ∃ name ∈ Text.splitOn '/' path, Path.Naming name
  · have hplaced : files.Placed path := .inr (.inr hnames)
    have hstands := (FileSystem.stands_of_lookup hfiles hplaced hlookup).2
    apply (hnaming.and (ends_removeTree hfiles hstands hplaced)).mono _ fun _ _ h => h.1
    rintro _ after ⟨-, hpruned, hgone⟩
    exact ⟨hasEntry_of_pruned hfiles hnames hentry hpruned hgone,
      fun rest => FileSystem.kind?_append_eq_none hgone rest, fun _ hother => hpruned.apart hother⟩
  · exact hnaming.mono (fun _ _ h => absurd h hnames) fun _ _ h => h

/-- Where a path ends in a name and none below it is too long, its tree is removed exactly if the
path keeps out of it. -/
theorem ends_removeTree_named (hdistinct : files.Distinct)
    (hlast : Path.Naming (Path.lastComponent path))
    (hsizes : ∀ rest kind, node.kind? rest = some kind →
      (Path.below path rest).utf8Size ≤ host.pathLimit) :
    Ends (removeTree host path) files (fun _ _ => files.KeepsOut path place)
      (fun _ _ => ¬ files.KeepsOut path place) := by
  obtain ⟨hpath, hlookup⟩ := FileSystem.entry?_eq_some_iff.mp hentry
  obtain ⟨spot, hlocate, hspot⟩ := FileSystem.exists_spot_of_lookup hlookup
  obtain ⟨front, hsplit⟩ := Path.exists_splitOn_lastComponent path
  obtain ⟨directory, rfl, hahead⟩ :=
    exists_ahead_of_locate hfiles hsplit hlast rfl rfl hlocate
  obtain ⟨rfl, hnode, -⟩ := FileSystem.at?_of_atSpot_entry hspot
  have hkinds := FileSystem.kind?_append hnode
  have hfits : ∀ rest kind, node.kind? rest = some kind → Path.Fits host (Path.below path rest) :=
    fun rest kind hkind => ⟨hsizes rest kind hkind, Path.hasNull_below hpath fun name hmem =>
      (Node.NullFree.of_at? hnull hnode).names hkind name hmem⟩
  have haims : Aims host files .never path directory (Path.lastComponent path) false :=
    aims_of_ahead hahead hfiles (hfits [] _ rfl) fun _ _ => rfl
  apply (ends_removeTree_iff hfiles hdistinct haims (by simp) ⟨_, FileSystem.kind?_of_at? hnode⟩
    fun rest kind hkind => hfits rest kind ((hkinds rest).symm.trans hkind)).mono
  · exact fun _ _ h => h.1
  · exact fun _ _ h => h

end Spec

/-- A removal that says it is done has removed what the path leads to, with all that is below it and
nothing else, whatever links there are.  Where the path ends in a name and no path below it is too
long, the removal is done exactly if the path goes through nothing inside of what it leads to. -/
theorem tryRemoveTree_iff (hfiles : files.Valid host) (hdistinct : files.Distinct)
    (hnull : files.NullFree) :
    Completes (tryRemoveTree host path) files fun removed after =>
      (removed = true → after.hasEntry host path = false ∧
        ∃ place node, files.entry? host path = some (place, node) ∧ Cleared place files after) ∧
      ∀ place node, files.entry? host path = some (place, node) →
        Path.Naming (Path.lastComponent path) →
        (∀ rest kind, node.kind? rest = some kind →
          (Path.below path rest).utf8Size ≤ host.pathLimit) →
        (removed = true ↔ files.KeepsOut path place) := by
  by_cases hthere : files.hasEntry host path = true
  · obtain ⟨⟨place, node⟩, hentry⟩ := Option.isSome_iff_exists.mp hthere
    have hexact : Ends (removeTree host path) files
        (fun _ _ => (Path.Naming (Path.lastComponent path) ∧ ∀ rest kind,
          node.kind? rest = some kind → (Path.below path rest).utf8Size ≤ host.pathLimit) →
          files.KeepsOut path place)
        (fun _ _ => (Path.Naming (Path.lastComponent path) ∧ ∀ rest kind,
          node.kind? rest = some kind → (Path.below path rest).utf8Size ≤ host.pathLimit) →
          ¬ files.KeepsOut path place) := by
      by_cases hnamed : Path.Naming (Path.lastComponent path) ∧ ∀ rest kind,
          node.kind? rest = some kind → (Path.below path rest).utf8Size ≤ host.pathLimit
      · exact (ends_removeTree_named hfiles hnull hentry hdistinct hnamed.1 hnamed.2).mono
          (fun _ _ h _ => h) fun _ _ h _ => h
      · exact (Gives.any (removeTree host path) files trivial).mono
          (fun _ _ _ h => absurd h hnamed) fun _ _ _ h => absurd h hnamed
    simp only [Completes, tryRemoveTree, succeeds, ends_bind, ends_get, hthere, if_true,
      ends_attempt, hentry, Option.some.injEq, Prod.mk.injEq]
    apply ((ends_removeTree_cleared hfiles hnull hentry).and hexact).mono
    · rintro _ after ⟨⟨hgone, hafter⟩, hkeeps⟩
      refine ⟨fun _ => ⟨hgone, place, node, ⟨rfl, rfl⟩, hafter⟩, ?_⟩
      rintro _ _ ⟨rfl, rfl⟩ hlast hsizes
      exact iff_of_true rfl (hkeeps ⟨hlast, hsizes⟩)
    · rintro fault after ⟨hfault, hkeeps⟩
      have hfailed : ¬ Except.isOk (.error fault : Except Fault Unit) = true := Bool.false_ne_true
      rw [if_neg hfault]
      refine ⟨fun h => absurd h hfailed, ?_⟩
      rintro _ _ ⟨rfl, rfl⟩ hlast hsizes
      exact iff_of_false hfailed (hkeeps ⟨hlast, hsizes⟩)
  · have hnone : files.entry? host path = none := by
      simpa [FileSystem.hasEntry] using hthere
    simp [Completes, tryRemoveTree, hthere, hnone]

section Example

/-- A directory with a directory, a link and a pipe in it, beside the directory that the link leads
to. -/
def mixedTree : FileSystem :=
  { top := [
    ("a", .directory [("x", .directory [("f", .file [1, 2])]), ("l", .link "/b"), ("p", .pipe)]),
    ("b", .directory [("g", .file [3])])] }

theorem mixedTree_wellFormed : (Node.directory mixedTree.top).WellFormed {} := by
  have hinner : (Node.directory [("f", .file [1, 2])]).WellFormed {} :=
    Node.wellFormed_directory (by decide) (by decide)
      (List.forall_mem_singleton.mpr (Node.wellFormed_file [1, 2]))
  have hfirst : (Node.directory [("x", .directory [("f", .file [1, 2])]), ("l", .link "/b"),
      ("p", .pipe)]).WellFormed {} :=
    Node.wellFormed_directory (by decide) (by decide) (List.forall_mem_cons.mpr ⟨hinner,
      List.forall_mem_cons.mpr ⟨Node.wellFormed_link (by decide),
        List.forall_mem_singleton.mpr Node.wellFormed_pipe⟩⟩)
  have hsecond : (Node.directory [("g", .file [3])]).WellFormed {} :=
    Node.wellFormed_directory (by decide) (by decide)
      (List.forall_mem_singleton.mpr (Node.wellFormed_file [3]))
  exact Node.wellFormed_directory (by decide) (by decide)
    (List.forall_mem_cons.mpr ⟨hfirst, List.forall_mem_singleton.mpr hsecond⟩)

/-- Every path that a directory is removed by is short if the three longest ones are. -/
theorem mixedTree_sizes {path : Text} (hfile : (Path.below path ["x", "f"]).utf8Size ≤ 4095)
    (hinner : (Path.below path ["x"]).utf8Size ≤ 4095)
    (hlink : (Path.below path ["l"]).utf8Size ≤ 4095)
    (hpipe : (Path.below path ["p"]).utf8Size ≤ 4095) (hself : path.utf8Size ≤ 4095) :
    ∀ rest kind, (Node.directory [("x", .directory [("f", .file [1, 2])]), ("l", .link "/b"),
      ("p", .pipe)]).kind? rest = some kind → (Path.below path rest).utf8Size ≤ 4095 := by
  have hdirectory : ∀ rest kind, (Node.directory [("f", .file [1, 2])]).kind? rest = some kind →
      (Path.below path (("x" : Text) :: rest)).utf8Size ≤ 4095 :=
    Node.forall_kind?_directory hinner
      (List.forall_mem_singleton.mpr (Node.forall_kind?_leaf (fun _ => rfl) hfile))
  exact Node.forall_kind?_directory hself (List.forall_mem_cons.mpr ⟨hdirectory,
    List.forall_mem_cons.mpr ⟨Node.forall_kind?_leaf (fun _ => rfl) hlink,
      List.forall_mem_singleton.mpr (Node.forall_kind?_leaf (fun _ => rfl) hpipe)⟩⟩)

/-- A directory is removed with the link in it, and what the link leads to stays; the path may go up
and down again outside of the directory. -/
theorem tryRemoveTree_mixedTree :
    mixedTree.Valid {} ∧ mixedTree.Distinct ∧ mixedTree.NullFree ∧
      mixedTree.entry? {} "/b/../a" = some ([("a" : Text)], .directory
        [("x", .directory [("f", .file [1, 2])]), ("l", .link "/b"), ("p", .pipe)]) ∧
      mixedTree.KeepsOut "/b/../a" [("a" : Text)] ∧
      tryRemoveTree {} "/b/../a" mixedTree =
        .ok true { top := [("b", .directory [("g", .file [3])])] } ∧
      FileSystem.hasEntry { top := [("b", .directory [("g", .file [3])])] } {} "/b/../a" = false ∧
      Cleared [("a" : Text)] mixedTree { top := [("b", .directory [("g", .file [3])])] } := by
  have hvalid : mixedTree.Valid {} := FileSystem.valid_of_wellFormed mixedTree_wellFormed
  have hdistinct : mixedTree.Distinct := mixedTree_wellFormed.distinct
  have hnull : mixedTree.NullFree := mixedTree_wellFormed.nullFree
  have hentry : mixedTree.entry? {} "/b/../a" = some ([("a" : Text)], .directory
      [("x", .directory [("f", .file [1, 2])]), ("l", .link "/b"), ("p", .pipe)]) := by
    cbv
  have hrun : tryRemoveTree {} "/b/../a" mixedTree =
      .ok true { top := [("b", .directory [("g", .file [3])])] } := by
    cbv
  obtain ⟨hcleared, hexact⟩ := Ends.of_ok (tryRemoveTree_iff hvalid hdistinct hnull) hrun
  have hnamed := hexact _ _ hentry (by decide)
    (mixedTree_sizes (by decide) (by decide) (by decide) (by decide) (by decide))
  obtain ⟨hgone, place, node, hfound, hafter⟩ := hcleared rfl
  rw [hentry, Option.some.injEq, Prod.mk.injEq] at hfound
  rw [← hfound.1] at hafter
  exact ⟨hvalid, hdistinct, hnull, hentry, hnamed.mp rfl, hrun, hgone, hafter⟩

/-- A directory whose path goes through a directory inside of it is emptied, but it stays: by then
its path leads nowhere. -/
theorem not_tryRemoveTree_mixedTree :
    mixedTree.Valid {} ∧ mixedTree.Distinct ∧ mixedTree.NullFree ∧
      mixedTree.entry? {} "/a/x/../../a" = some ([("a" : Text)], .directory
        [("x", .directory [("f", .file [1, 2])]), ("l", .link "/b"), ("p", .pipe)]) ∧
      Path.Naming (Path.lastComponent "/a/x/../../a") ∧
      (∀ rest kind, (Node.directory [("x", .directory [("f", .file [1, 2])]), ("l", .link "/b"),
        ("p", .pipe)]).kind? rest = some kind →
        (Path.below "/a/x/../../a" rest).utf8Size ≤ 4095) ∧
      tryRemoveTree {} "/a/x/../../a" mixedTree = .ok false
        { top := [("a", .directory []), ("b", .directory [("g", .file [3])])] } :=
  ⟨FileSystem.valid_of_wellFormed mixedTree_wellFormed, mixedTree_wellFormed.distinct,
    mixedTree_wellFormed.nullFree, by cbv, by decide,
    mixedTree_sizes (by decide) (by decide) (by decide) (by decide) (by decide), by cbv⟩

end Example

end Disk

end LineShell
