import LineShell.FileSystem.Transfer
import LineShell.Proofs.FileSystem.Names
import LineShell.Proofs.FileSystem.Operations

/-!
# Removing a tree

While a tree is removed, paths through it may stop leading anywhere, but none of them comes to lead
somewhere else: what a path still reaches it reached before.  So every entry that is removed lies at
or below the place of the tree, and links in it are removed without a look at what they lead to.
-/

namespace LineShell

/-- A file system with some of what stands at and below a place removed. -/
structure Pruned (host : Host) (place : Place) (before after : FileSystem) : Prop where
  fewer : ∀ {other kind}, after.kind? other = some kind → before.kind? other = some kind
  apart : ∀ {other}, ¬ place <+: other → after.kind? other = before.kind? other
  start : after.working.place = before.working.place
  valid : after.Valid host

/-- What is left of a walk in a pruned tree is a walk in the tree as it was. -/
theorem Walks.of_fewer {before after : FileSystem} {rule : LinkRule} {start : Place}
    {components : List Text} {spot : Spot} (h : Walks after rule start components spot)
    (hfewer : ∀ {other kind}, after.kind? other = some kind → before.kind? other = some kind)
    (hspot : ∃ kind, after.kind? spot.place = some kind) :
    Walks before rule start components spot := by
  induction h with
  | done hplace => exact .done (hfewer hplace)
  | skip hcomponent _ ih => exact .skip hcomponent (ih hspot)
  | up _ ih => exact .up (ih hspot)
  | enter hname hkind _ ih => exact .enter hname (hfewer hkind) (ih hspot)
  | follow hname hkind hrule _ ih => exact .follow hname (hfewer hkind) hrule (ih hspot)
  | last hname hplace hrest hrule =>
      refine .last hname (hfewer hplace) hrest fun target hlink => hrule target ?_
      obtain ⟨kind, hkind⟩ := hspot
      exact hkind.trans ((hfewer hkind).symm.trans hlink)

namespace Pruned

variable {host : Host} {place : Place} {before now : FileSystem} {path : Text} {rule : LinkRule}

theorem refl (hvalid : before.Valid host) : Pruned host place before before :=
  ⟨fun hkind => hkind, fun _ => rfl, rfl, hvalid⟩

theorem trans {after : FileSystem} (h : Pruned host place before now)
    (h' : Pruned host place now after) : Pruned host place before after :=
  ⟨fun hkind => h.fewer (h'.fewer hkind), fun hother => (h'.apart hother).trans (h.apart hother),
    h'.start.trans h.start, h'.valid⟩

/-- One more entry at or below the place was removed. -/
theorem of_removed {after : FileSystem} {gone : Place} (hgone : place <+: gone)
    (hafter : ∀ other, after.kind? other = if other = gone then none else now.kind? other)
    (hstart : after.working.place = now.working.place) (hvalid : after.Valid host) :
    Pruned host place now after := by
  refine ⟨fun hkind => ?_, fun hother => ?_, hstart, hvalid⟩
  · rw [hafter] at hkind
    split at hkind
    · cases hkind
    · exact hkind
  · rw [hafter, if_neg]
    rintro rfl
    exact hother hgone

variable (h : Pruned host place before now)
include h

theorem kind?_eq_none {other : Place} (hother : before.kind? other = none) :
    now.kind? other = none := by
  by_contra hsome
  obtain ⟨kind, hkind⟩ := Option.ne_none_iff_exists'.mp hsome
  simp [h.fewer hkind] at hother

theorem startOf (path : Text) : now.startOf path = before.startOf path :=
  FileSystem.startOf_congr h.start path

/-- What a walk still comes to it came to before. -/
theorem walks {components : List Text} {spot : Spot} {kind : Kind}
    (hwalks : Walks now rule (now.startOf path) components spot)
    (hspot : now.kind? spot.place = some kind) :
    Walks before rule (before.startOf path) components spot := by
  rw [← h.startOf]
  exact hwalks.of_fewer h.fewer ⟨kind, hspot⟩

/-- A directory that is still found is what the path denoted. -/
theorem denotes_of_lookup (hplaced : now.Placed path) {found : Place} {entries : Entries}
    (hlookup : now.lookup host .always path = .ok (found, .directory entries)) :
    before.Denotes path found ∧ before.kind? found = some .directory := by
  obtain ⟨spot, hlocate, hspot⟩ := FileSystem.exists_spot_of_lookup hlookup
  have hwalks := FileSystem.walks_of_placed h.valid hplaced hlocate
  obtain ⟨rfl, hat⟩ := FileSystem.at?_of_atSpot hwalks.ne_removed hspot
  have hkind := h.fewer (FileSystem.kind?_of_at? hat)
  have hleads := (h.walks hwalks (FileSystem.kind?_of_at? hat)).leads (by simp [hkind, Node.kind])
  exact ⟨hleads, hkind⟩

/-- A link that is removed was named by its path, and so was everything else that is no directory.
-/
theorem names_of_aims {directory : Place} {name : Name} {kind : Kind}
    (haims : Disk.Aims host now .never path directory name false)
    (hkind : now.kind? (directory ++ [name]) = some kind) :
    before.Names path (directory ++ [name]) false :=
  FileSystem.names_of_walks (h.walks (haims.walks h.valid) hkind) rfl rfl

/-- A directory that is removed is what its path denoted. -/
theorem denotes_of_aims {directory : Place} {name : Name} {slashed : Bool}
    (haims : Disk.Aims host now .never path directory name slashed)
    (hkind : now.kind? (directory ++ [name]) = some .directory) :
    before.Denotes path (directory ++ [name]) := by
  have hwalks := h.walks (haims.walks h.valid) hkind
  apply hwalks.leads
  intro target hlink
  exact absurd ((h.fewer hkind).symm.trans hlink) (by simp)

end Pruned

namespace FileSystem

variable {host : Host} {files : FileSystem} {place other : Place} {path : Text}

/-- A path that leads to nothing but what is at or below a place, as far as it is no link. -/
structure Owned (files : FileSystem) (place : Place) (path : Text) : Prop where
  names : ∀ {other}, files.Names path other false → place <+: other
  denotes : ∀ {other}, files.Denotes path other → place <+: other ∨
    ∃ entry target, files.Names path entry false ∧ files.kind? entry = some (.link target)
  placed : files.Placed path

/-- A path denotes a directory at or below a place. -/
def Inside (files : FileSystem) (place : Place) (path : Text) : Prop :=
  ∃ other, files.Denotes path other ∧ place <+: other ∧ files.kind? other = some .directory

theorem Stands.owned (h : files.Stands path place) (hplaced : files.Placed path) :
    files.Owned place path := by
  refine ⟨fun hnames => ?_, fun hdenotes => ?_, hplaced⟩
  · rw [h.names hnames]
  · cases h.denotes hdenotes with
    | inl heq => exact .inl (heq ▸ List.prefix_rfl)
    | inr hlink =>
        obtain ⟨target, hlink⟩ := hlink
        exact .inr ⟨place, target, hlink⟩

/-- The entries of an owned directory are owned. -/
theorem owned_join {name : Name} (hdenotes : files.Denotes path other) (hother : place <+: other)
    (hname : Path.IsName name) : files.Owned place (Path.join path name) := by
  have hnames := names_join hdenotes hname
  have hwithin : place <+: other ++ [name] := hother.trans (List.prefix_append _ _)
  refine ⟨fun hnames' => ?_, fun hdenotes' => ?_, hnames.placed⟩
  · rw [(hnames'.unique hnames).1]
    exact hwithin
  · by_cases hlink : ∃ target, files.kind? (other ++ [name]) = some (.link target)
    · obtain ⟨target, hkind⟩ := hlink
      exact .inr ⟨_, target, hnames, hkind⟩
    · have hhere := hnames.denotes fun target hkind => hlink ⟨target, hkind⟩
      exact .inl (hdenotes'.unique hhere ▸ hwithin)

/-- Inside of a place where the entry of a path stands, the path itself leads to that place. -/
theorem Stands.denotes_of_inside (h : files.Stands path place) (hinside : files.Inside place path) :
    files.Denotes path place := by
  obtain ⟨other, hdenotes, ⟨rest, rfl⟩, hdirectory⟩ := hinside
  cases h.denotes hdenotes with
  | inl heq => exact heq ▸ hdenotes
  | inr hlink =>
      obtain ⟨target, -, hkind⟩ := hlink
      by_cases hrest : rest = []
      · rw [hrest, List.append_nil, hkind] at hdirectory
        cases hdirectory
      · have habove := kind?_eq_directory_of_below hdirectory hrest
        rw [hkind] at habove
        cases habove

end FileSystem

namespace Disk

variable {host : Host} {place : Place} {before now : FileSystem} {path : Text}

/-- An owned path that is found to be a directory and no link leads inside. -/
theorem inside_of_isDirectory (h : Pruned host place before now)
    (hworking : now.working = before.working) (howned : before.Owned place path)
    (hdirectory : now.isDirectory host path = true) (hlink : now.isLink host path = false)
    {found : Place} {entries : Entries}
    (hlookup : now.lookup host .always path = .ok (found, .directory entries)) :
    before.Denotes path found ∧ place <+: found ∧ before.kind? found = some .directory := by
  have hplaced : now.Placed path := by
    rw [FileSystem.Placed, hworking]
    exact howned.placed
  obtain ⟨hdenotes, hkind⟩ := h.denotes_of_lookup hplaced hlookup
  refine ⟨hdenotes, ?_, hkind⟩
  cases howned.denotes hdenotes with
  | inl hwithin => exact hwithin
  | inr hentry =>
      -- The path named a link before, and is no link now: so it leads nowhere.
      obtain ⟨entry, target, hnames, hentry⟩ := hentry
      obtain ⟨front, name, directory, hsplit, hname, hfront, rfl⟩ := hnames.exists_front
      obtain ⟨middle, others, hwalks, htarget⟩ :=
        FileSystem.target?_of_isDirectory h.valid hdirectory hlink hsplit hname
      have hmiddle := (h.walks hwalks hwalks.kind?_itself).leads_itself
      obtain rfl := hfront.unique hmiddle
      have hfound := (FileSystem.target?_eq_some_iff.mp htarget).2
      rw [hlookup] at hfound
      obtain rfl : found = directory ++ [name] := by
        simp only [Except.ok.injEq, Prod.mk.injEq] at hfound
        exact hfound.1
      exact absurd (hkind.symm.trans hentry) (by simp)

/-- An entry that is no directory is removed where its path named it. -/
theorem ends_removeEntry_owned (h : Pruned host place before now)
    (hworking : now.working = before.working) (howned : before.Owned place path) :
    Ends (removeEntry host path) now
      (fun _ after => (Pruned host place before after ∧ after.working = before.working) ∧
        ∃ entry, before.Names path entry false ∧ after.kind? entry = none)
      (fun _ after => after = now) := by
  apply ends_removeEntry.mono
  · rintro _ after ⟨directory, name, node, haims, hnode, hleaf, rfl⟩
    have hkind := FileSystem.kind?_of_at? hnode
    have hne : now.kind? (directory ++ [name]) ≠ some .directory := by
      rw [hkind]
      intro heq
      have hdirectory := Node.isDirectory_iff.mpr (Option.some.inj heq)
      simp [hleaf] at hdirectory
    have hafter := FileSystem.kind?_remove_bare (FileSystem.bare_of_kind?_ne hne)
    have hnames := h.names_of_aims haims hkind
    have hsame := FileSystem.working_remove now directory name
    refine ⟨⟨h.trans ?_, hsame.trans hworking⟩, directory ++ [name], hnames, ?_⟩
    · exact .of_removed (howned.names hnames) hafter (by rw [hsame]) (h.valid.remove hne)
    · rw [hafter, if_pos rfl]
  · exact fun _ _ hrefused => hrefused.1

/-- Stripping an owned path takes away what is no directory, and finds directories inside only. -/
theorem ends_stripTree {depth : Nat} (h : Pruned host place before now)
    (hworking : now.working = before.working) (howned : before.Owned place path) :
    Ends (stripTree host depth path) now
      (fun directories after =>
        (Pruned host place before after ∧ after.working = before.working) ∧
          ((∃ below, directories = path :: below) ∨
            directories = [] ∧ ∃ entry, before.Names path entry false ∧ after.kind? entry = none) ∧
          ∀ directory ∈ directories, before.Inside place directory)
      (fun _ after => Pruned host place before after ∧ after.working = before.working) := by
  induction depth generalizing path now with
  | zero => exact ⟨h, hworking⟩
  | succ depth ih =>
      simp only [stripTree, ends_bind, ends_get]
      split
      · rename_i htest
        rw [Bool.and_eq_true, Bool.not_eq_true'] at htest
        rw [ends_bind]
        apply ends_listNames.mono
        · rintro names after ⟨rfl, -, found, entries, hlookup, hperm⟩
          obtain ⟨hdenotes, hwithin, hkind⟩ :=
            inside_of_isDirectory h hworking howned htest.1 htest.2 hlookup
          have hfound : after.at? found = some (.directory entries) := by
            have hplaced : after.Placed path := by
              rw [FileSystem.Placed, hworking]
              exact howned.placed
            exact (FileSystem.denotes_of_placed h.valid hplaced hlookup (by simp)).1
          have hnames : ∀ name ∈ names.reverse, Path.IsName name := by
            intro name hname
            rw [List.mem_reverse, hperm.mem_iff, FileSystem.mem_names_iff hfound] at hname
            obtain ⟨kind, hname⟩ := hname
            exact h.valid.isName hname
          have hstrip : ∀ name ∈ names.reverse,
              Gives (fun now => Pruned host place before now ∧ now.working = before.working)
                (fun _ => True)
                (fun directories => ∀ directory ∈ directories, before.Inside place directory)
                (stripTree host depth (Path.join path name)) := by
            intro name hname now hnow
            have howned := FileSystem.owned_join hdenotes hwithin (hnames name hname)
            apply (ih hnow.1 hnow.2 howned).mono
            · exact fun _ _ hdone => ⟨hdone.2.2, hdone.1⟩
            · exact fun _ _ hfailed => ⟨trivial, hfailed⟩
          rw [ends_bind]
          apply (Gives.mapM hstrip after ⟨h, hworking⟩).mono
          · rintro listed last ⟨hlisted, hlast⟩
            refine ⟨hlast, .inl ⟨_, rfl⟩, ?_⟩
            intro directory hdirectory
            cases List.mem_cons.mp hdirectory with
            | inl heq => exact heq ▸ ⟨found, hdenotes, hwithin, hkind⟩
            | inr hmem =>
                obtain ⟨directories, hdirectories, hmem⟩ := List.mem_flatten.mp hmem
                exact hlisted directories hdirectories directory hmem
          · exact fun _ _ hfailed => hfailed.2
        · rintro _ _ ⟨rfl, -⟩
          exact ⟨h, hworking⟩
      · rw [ends_bind]
        apply (ends_removeEntry_owned h hworking howned).mono
        · exact fun _ after hdone => ⟨hdone.1, .inr ⟨rfl, hdone.2⟩, by simp⟩
        · rintro _ _ rfl
          exact ⟨h, hworking⟩

/-- A directory inside is removed where its path led. -/
theorem ends_removeDirectory_inside (h : Pruned host place before now)
    (hinside : before.Inside place path) :
    Ends (removeDirectory host path) now
      (fun _ after => Pruned host place now after ∧
        ∀ other, before.Denotes path other → after.kind? other = none)
      (fun _ after => Pruned host place now after) := by
  apply ends_removeDirectory.mono
  · rintro _ after ⟨directory, name, slashed, haims, hempty, rfl⟩
    have hkind := FileSystem.kind?_of_at? hempty
    have hdenotes := h.denotes_of_aims haims hkind
    have hwithin : place <+: directory ++ [name] := by
      obtain ⟨other, hother, hwithin, -⟩ := hinside
      exact hother.unique hdenotes ▸ hwithin
    have hafter : ∀ other, (now.removeDirectory directory name).kind? other =
        if other = directory ++ [name] then none else now.kind? other :=
      FileSystem.kind?_remove_bare (FileSystem.bare_of_emptyDirectory hempty)
    refine ⟨.of_removed hwithin hafter ?_ (h.valid.removeDirectory hempty), ?_⟩
    · simp only [FileSystem.removeDirectory, WorkingDirectory.afterRemoval]
      split <;> rfl
    · intro other hother
      rw [hafter, if_pos (hother.unique hdenotes)]
  · rintro _ _ ⟨rfl, -⟩
    exact .refl h.valid

/-- Directories inside are removed one after the other. -/
theorem ends_removeDirectories {directories : List Text} (h : Pruned host place before now)
    (hinside : ∀ directory ∈ directories, before.Inside place directory) :
    Ends (directories.reverse.forM (removeDirectory host)) now
      (fun _ after => Pruned host place now after ∧ ∀ directory ∈ directories,
        ∀ other, before.Denotes directory other → after.kind? other = none)
      (fun _ after => Pruned host place now after) := by
  have hall : Ends (directories.reverse.forM (removeDirectory host)) now
      (fun _ after => Pruned host place now after ∧
        ∀ directory ∈ directories.reverse,
          ∀ other, before.Denotes directory other → after.kind? other = none)
      (fun _ after => Pruned host place now after) := by
    apply ends_forM
    · exact fun hafter => .refl hafter.valid
    · exact fun hmiddle hafter => hmiddle.trans hafter
    · exact fun hafter hgone other hother => hafter.kind?_eq_none (hgone other hother)
    · intro directory hdirectory middle hmiddle
      have hinside := hinside directory (List.mem_reverse.mp hdirectory)
      apply (ends_removeDirectory_inside (h.trans hmiddle) hinside).mono
      · exact fun _ after hafter => hafter
      · exact fun _ after hafter => hmiddle.trans hafter
    · exact .refl h.valid
  apply hall.mono _ fun _ _ hafter => hafter
  exact fun _ after hafter => ⟨hafter.1, fun directory hdirectory =>
    hafter.2 directory (List.mem_reverse.mpr hdirectory)⟩

/-- A tree is removed where its entry stands, and nothing but the tree is touched. -/
theorem ends_removeTree (hbefore : before.Valid host) (hstands : before.Stands path place)
    (hplaced : before.Placed path) :
    Ends (removeTree host path) before
      (fun _ after => Pruned host place before after ∧ after.kind? place = none)
      (fun _ after => Pruned host place before after) := by
  unfold removeTree
  rw [ends_bind]
  apply (ends_stripTree (.refl hbefore) rfl (hstands.owned hplaced)).mono
  · rintro directories now ⟨⟨hnow, -⟩, hfound, hinside⟩
    apply (ends_removeDirectories hnow hinside).mono
    · rintro _ after ⟨hafter, hgone⟩
      refine ⟨hnow.trans hafter, ?_⟩
      cases hfound with
      | inl hlisted =>
          obtain ⟨below, rfl⟩ := hlisted
          have hroot := hstands.denotes_of_inside (hinside path List.mem_cons_self)
          exact hgone path List.mem_cons_self place hroot
      | inr hentry =>
          obtain ⟨-, entry, hnames, hentry⟩ := hentry
          obtain rfl := hstands.names hnames
          exact hafter.kind?_eq_none hentry
    · exact fun _ _ hafter => hnow.trans hafter
  · exact fun _ _ hfailed => hfailed.1

theorem ends_tryRemoveTree (hbefore : before.Valid host) (hstands : before.Stands path place)
    (hplaced : before.Placed path) :
    Ends (tryRemoveTree host path) before
      (fun removed after => Pruned host place before after ∧
        (removed = true → after.kind? place = none))
      (fun _ after => Pruned host place before after) := by
  simp only [tryRemoveTree, succeeds, ends_bind, ends_get]
  split
  · rw [ends_bind, ends_attempt]
    apply (ends_removeTree hbefore hstands hplaced).mono
    · exact fun _ after hafter => ⟨hafter.1, fun _ => hafter.2⟩
    · intro fault after hafter
      split
      · exact hafter
      · exact ⟨hafter, by simp [Except.isOk, Except.toBool]⟩
  · exact ⟨.refl hbefore, by simp⟩

end Disk

end LineShell
