import LineShell.Proofs.FileSystem.Containment
import LineShell.Proofs.FileSystem.Moving

/-!
# Moves that lose nothing

A move conserves all files if it relinks its source, if the source is a single file, or if the
copies of the source tree land apart.  For a tree without links the last condition is also
necessary: a move by copying that comes to its end has removed the tree, so what landed in the tree
or under another file is gone.
-/

namespace LineShell

namespace Disk

variable {host : Host} {files middle after : FileSystem} {source target : Text} {place : Place}
variable {node : Node}

/-- What is left after a move by copying was no link before. -/
theorem not_link_of_left (hgrown : Grown host (fun _ => False) files middle)
    (hpruned : Pruned host place middle after) {other : Place} {kind : Kind}
    (hkind : after.kind? other = some kind) (hlink : ∀ link, kind ≠ .link link) (link : Text) :
    files.kind? other ≠ some (.link link) := by
  intro hbefore
  have hmiddle := (hgrown.links other link).mpr hbefore
  rw [hpruned.fewer hkind] at hmiddle
  exact hlink link (Option.some.inj hmiddle)

section

variable (hfiles : files.Valid host) (hat : files.at? place = some node)
  (hgrown : Grown host (fun _ => False) files middle)
  (hpruned : Pruned host place middle after) (hgone : after.kind? place = none)
  (hconserves : files.Conserves target place node after)
include hfiles hat hgrown hpruned hgone hconserves

/-- A file that was conserved is where its path below the target led. -/
theorem kind?_landing {names landing : Place} {content : Bytes}
    (hfile : files.kind? (place ++ names) = some (.file content))
    (hlanding : files.Denotes (Path.below target names) landing) :
    after.kind? landing = some (.file content) := by
  have hnode := (FileSystem.at?_file_below_iff hat).mpr hfile
  rcases hconserves names content hnode with hsource | ⟨other, hmeant, hother⟩
  · rw [FileSystem.at?_file_iff, FileSystem.kind?_append_eq_none hgone] at hsource
    cases hsource
  rw [FileSystem.at?_file_iff] at hother
  cases hmeant with
  | inl hdenotes => exact hlanding.unique hdenotes ▸ hother
  | inr hentry =>
      obtain ⟨entry, slashed, hentry, rfl⟩ := hentry
      -- The file is left there, so there was no link on the way from the entry.
      have hunlinked : ∀ front back, names = front ++ back → ∀ link,
          files.kind? (entry ++ front) ≠ some (.link link) := by
        rintro front back rfl link
        by_cases hback : back = []
        · rw [hback, List.append_nil] at hother
          exact not_link_of_left hgrown hpruned hother (by simp) link
        · rw [← List.append_assoc] at hother
          have habove := FileSystem.kind?_eq_directory_of_below hother hback
          exact not_link_of_left hgrown hpruned habove (by simp) link
      have hdenotes : files.Denotes target entry := by
        apply hentry.denotes
        intro link
        have hhere := hunlinked [] names rfl link
        rwa [List.append_nil] at hhere
      have hbelow := FileSystem.denotes_below hdenotes
        (fun name hname => hfiles.isName_of_mem hfile hname)
        (fun front back hnames _ => hunlinked front back hnames)
      exact hlanding.unique hbelow ▸ hother

/-- Nothing but copies that land apart conserves the files of a tree without links. -/
theorem copiesApart_of_conserves
    (hlinks : ∀ names link, node.at? names ≠ some (.link link)) :
    files.CopiesApart source target place := by
  have hentry : ∀ {names landing}, files.CopyLands source target place names landing →
      ∃ content, files.kind? (place ++ names) = some (.file content) ∧
        after.kind? landing = some (.file content) := by
    intro names landing hlands
    cases hlands.entry with
    | inl hfile =>
        obtain ⟨content, hfile⟩ := hfile
        exact ⟨content, hfile,
          kind?_landing hfiles hat hgrown hpruned hgone hconserves hfile hlands.denotes⟩
    | inr hlink =>
        obtain ⟨link, hlink⟩ := hlink
        rw [← FileSystem.at?_link_iff, FileSystem.at?_append hat] at hlink
        exact absurd hlink (hlinks names link)
  constructor
  · rintro names landing hlands ⟨rest, rfl⟩
    obtain ⟨content, -, hlanded⟩ := hentry hlands
    rw [FileSystem.kind?_append_eq_none hgone] at hlanded
    cases hlanded
  · intro names others landing content hfile hlands hother
    obtain ⟨old, hold, hlanded⟩ := hentry hlands
    obtain ⟨new, hnew, hlanded'⟩ := hentry hother
    rw [hfile] at hold
    rw [hlanded'] at hlanded
    obtain rfl : new = content :=
      (Kind.file.inj (Option.some.inj hlanded)).trans (Kind.file.inj (Option.some.inj hold)).symm
    exact hnew

end

/-- The system relinks the source under the target. -/
def Relinks (host : Host) (files : FileSystem) (source target : Text) : Prop :=
  ∃ after, moveByRelinking host source target files = .ok () after

/-- A move keeps its files: it relinks the source, or the source is no directory, or the copies of
the directory land apart. -/
def KeepsFiles (host : Host) (files : FileSystem) (source target : Text) (place : Place)
    (node : Node) : Prop :=
  Relinks host files source target ∨ node.kind ≠ .directory ∨
    files.CopiesApart source target place

theorem ends_absolute {path : Text} :
    Ends (absolute path) files
      (fun _ after => after = files ∧
        (Path.isAbsolute path = true ∨ files.working.removed = false))
      (fun _ after => after = files) := by
  unfold absolute
  rw [ends_bind, ends_get]
  split
  · rename_i normal hnormal
    refine ⟨rfl, ?_⟩
    unfold FileSystem.absolute? at hnormal
    split at hnormal
    · exact .inl ‹_›
    · right
      unfold FileSystem.workingPath? at hnormal
      split at hnormal
      · cases hnormal
      · rename_i hkept
        simpa using hkept
  · exact rfl

/-- A directory is found to be one. -/
theorem isDirectory_of_lookup (hnull : source.hasNull = false)
    (hlookup : files.lookup host .whenSlashed source = .ok (place, node))
    (hnode : node.kind = .directory) : files.isDirectory host source = true := by
  obtain ⟨spot, hlocate, hspot⟩ := FileSystem.exists_spot_of_lookup hlookup
  have hunlinked : ∀ link, files.kind? spot.place ≠ some (.link link) := by
    intro link
    by_cases hremoved : spot = .removed
    · simp [hremoved, Spot.place]
    · obtain ⟨rfl, hat⟩ := FileSystem.at?_of_atSpot hremoved hspot
      simp [FileSystem.kind?_of_at? hat, hnode]
  have halways := FileSystem.locate_of_unlinked .always (fun _ _ => rfl) hunlinked hlocate
  have htarget : files.target? host source = some (place, node) := by
    rw [FileSystem.target?_eq_some_iff, FileSystem.lookup, halways]
    exact ⟨hnull, hspot⟩
  obtain ⟨entries, rfl⟩ := Node.kind_eq_directory_iff.mp hnode
  simp [FileSystem.isDirectory, htarget]

/-- A file system that was left alone has its files where they were. -/
theorem conserves_self (hfiles : files.Valid host)
    (hlookup : files.lookup host .whenSlashed source = .ok (place, node)) :
    files.Conserves target place node files := by
  intro names content hfile
  left
  by_cases hempty : node = .directory []
  · cases names with
    | nil => simp [hempty, Node.at?] at hfile
    | cons name rest => simp [hempty, Node.at?, Node.child?, Entries.get?] at hfile
  · have hat := FileSystem.at?_of_lookup (.inr hfiles.lasting) hlookup (.inr hempty)
    rw [FileSystem.at?_append hat]
    exact hfile

/-- What a move is to end in: where it keeps its files, they are conserved, and transferred if the
target does not name the source; and a tree without links is conserved nowhere else. -/
def Moved (host : Host) (files : FileSystem) (source target : Text) (place : Place) (node : Node)
    (after : FileSystem) : Prop :=
  (KeepsFiles host files source target place node →
    files.Conserves target place node after ∧
      ((∀ slashed, ¬ files.Names target place slashed) →
        files.Transfers target place node after)) ∧
  ((∀ names link, node.at? names ≠ some (.link link)) →
    files.Conserves target place node after → KeepsFiles host files source target place node)

/-- Once the source is found not to hold the target, the move relinks it or copies it. -/
theorem ends_move_placed (target : Text) (hfiles : files.Valid host)
    (hlookup : files.lookup host .whenSlashed source = .ok (place, node))
    (hplaced : files.Placed source) :
    Ends (do
        match ← attempt (moveByRelinking host source target) with
        | .ok _ => return target
        | .error _ =>
            moveByCopying host source target
            return target : Disk Text) files
      (fun result after => result = target ∧ Moved host files source target place node after)
      (fun _ after => KeepsFiles host files source target place node →
        files.Conserves target place node after) := by
  obtain ⟨hat, hstands⟩ := FileSystem.stands_of_lookup hfiles hplaced hlookup
  rw [ends_bind, ends_attempt]
  apply (ends_moveByRelinking hfiles hat hstands).with_run.mono
  · rintro _ after ⟨hafter, hrun⟩
    exact ⟨rfl, fun _ => hafter, fun _ _ => .inl ⟨after, hrun⟩⟩
  · rintro fault now ⟨hnow, hrun⟩
    have hkeeps : KeepsFiles host files source target place node →
        node.kind ≠ .directory ∨ files.CopiesApart source target place := by
      intro hkeeps
      apply hkeeps.resolve_left
      rintro ⟨after, hok⟩
      rw [hrun] at hok
      cases hok
    split
    · exact fun _ => conserves_of_grown hat hnow
    rw [ends_bind]
    have hgone : Ends (moveByCopying host source target) now
        (fun _ after => after.kind? place = none ∧ ∃ middle,
          Grown host (fun _ => False) files middle ∧ Pruned host place middle after)
        (fun _ _ => True) := ends_moveByCopying_gone hstands hplaced hnow
    have hsaved : Ends (moveByCopying host source target) now
        (fun _ after => KeepsFiles host files source target place node →
          files.Transfers target place node after)
        (fun _ after => KeepsFiles host files source target place node →
          files.Conserves target place node after) := by
      by_cases hsafe : KeepsFiles host files source target place node
      · apply (ends_moveByCopying_saved hfiles hlookup hplaced (hkeeps hsafe) hnow).mono
        · exact fun _ _ htransfers _ => htransfers
        · exact fun _ _ hconserves _ => hconserves
      · apply hgone.mono
        · exact fun _ _ _ hkeeps => absurd hkeeps hsafe
        · exact fun _ _ _ hkeeps => absurd hkeeps hsafe
    apply (hgone.and hsaved).mono
    · rintro _ after ⟨⟨hnone, middle, hgrown, hpruned⟩, htransfers⟩
      refine ⟨rfl, fun hkeeps => ⟨(htransfers hkeeps).conserves, fun _ => htransfers hkeeps⟩,
        fun hlinks hconserves => .inr (.inr ?_)⟩
      exact copiesApart_of_conserves hfiles hat hgrown hpruned hnone hconserves hlinks
    · exact fun _ _ h => h.2

/-- A move gives its target, and it conserves every regular file of its source if it relinks the
source, if the source is no directory, or if the copies of the directory land apart; if it comes to
its end and there is no link in the source, then in no other case.  However it ends, a move that
keeps its files loses none. -/
theorem move_conserves {destination : Text} (hfiles : files.Valid host)
    (hsource : files.entry? host source = some (place, node)) :
    Ends (move host source destination) files
      (fun result after => result = targetFor files host source destination ∧
        Moved host files source (targetFor files host source destination) place node after)
      (fun _ after =>
        KeepsFiles host files source (targetFor files host source destination) place node →
        files.Conserves (targetFor files host source destination) place node after) := by
  obtain ⟨hnull, hlookup⟩ := FileSystem.entry?_eq_some_iff.mp hsource
  have hentry : files.hasEntry host source = true := by
    rw [FileSystem.hasEntry, hsource]
    rfl
  simp only [move, ends_bind, ends_get, ends_guard, hentry]
  refine ⟨by simp, fun _ => ?_⟩
  generalize targetFor files host source destination = target
  have hself : files.Conserves target place node files := conserves_self hfiles hlookup
  by_cases hdirectory : files.isDirectory host source = true
  · simp only [hdirectory, if_true, isWithin, ends_bind, ends_pure, ends_guard]
    apply ends_absolute.mono
    · rintro normal now ⟨rfl, -⟩
      apply ends_absolute.mono
      · rintro parent after ⟨rfl, hplaced⟩
        refine ⟨fun _ _ => hself, fun _ => ?_⟩
        have hmoved := ends_move_placed target hfiles hlookup (hplaced.imp_right .inl)
        rw [ends_bind] at hmoved
        exact hmoved
      · rintro _ _ rfl
        exact fun _ => hself
    · rintro _ _ rfl
      exact fun _ => hself
  · rw [if_neg hdirectory]
    have hnode : node.kind ≠ .directory := fun hnode =>
      hdirectory (isDirectory_of_lookup hnull hlookup hnode)
    have hnames := FileSystem.names_of_lookup hfiles hlookup hnode
    exact ends_move_placed target hfiles hlookup hnames.placed

/-- Without links, the copies of a directory land apart exactly if none of its files lands at or
below the directory. -/
theorem copiesApart_iff (hfiles : files.Valid host) (hlinks : files.LinkFree)
    (hsource : files.Denotes source place) (htarget : Path.isAbsolute target = true)
    (hne : Path.components target ≠ place) :
    files.CopiesApart source target place ↔
      ∀ names content, files.kind? (place ++ names) = some (.file content) →
        ¬ place <+: Path.components target ++ names := by
  have hbelow : ∀ {path entry names content}, files.Denotes path entry →
      files.kind? (place ++ names) = some (.file content) →
      files.Denotes (Path.below path names) (entry ++ names) := by
    intro path entry names content hpath hfile
    apply FileSystem.denotes_below hpath fun name hname => hfiles.isName_of_mem hfile hname
    exact fun _ _ _ _ link => hlinks _ link
  have hroot : files.Denotes target (Path.components target) := (hlinks.denotes_iff htarget).mpr rfl
  have hlands : ∀ {names landing}, files.CopyLands source target place names landing →
      landing = Path.components target ++ names ∧
        ∃ content, files.kind? (place ++ names) = some (.file content) := by
    intro names landing hlands
    cases hlands.entry with
    | inl hfile =>
        obtain ⟨content, hfile⟩ := hfile
        exact ⟨hlands.denotes.unique (hbelow hroot hfile), content, hfile⟩
    | inr hlink => exact absurd hlink.choose_spec (hlinks _ _)
  constructor
  · intro hapart names content hfile
    have hlanding : files.CopyLands source target place names
        (Path.components target ++ names) := by
      refine ⟨.inl ⟨content, hfile⟩, hbelow hroot hfile, fun hown => hne ?_⟩
      exact List.append_cancel_right (hown.unique (hbelow hsource hfile))
    exact hapart.outside hlanding
  · intro hfree
    constructor
    · intro names landing hlanding
      obtain ⟨rfl, content, hfile⟩ := hlands hlanding
      exact hfree names content hfile
    · intro names others landing content hfile hlanding hother
      have hsame := (hlands hlanding).1.symm.trans (hlands hother).1
      rw [← List.append_cancel_left hsame]
      exact hfile

section Example

/-- A directory with one file. -/
def treeFiles : FileSystem :=
  { top := [("a", .directory [("f", .file [1, 2])])] }

theorem treeFiles_valid (host : Host) (hlimit : 1 ≤ host.nameLimit) : treeFiles.Valid host := by
  have hdirectory : (FileSystem.empty.put [] "a" (.directory [])).Valid host :=
    (FileSystem.valid_empty host).put_leaf rfl ⟨⟨by decide, by decide, by decide⟩, by decide⟩ hlimit
      (by decide) fun _ => rfl
  have hfile : ((FileSystem.empty.put [] "a" (.directory [])).put ["a"] "f" (.file [1, 2])).Valid
      host :=
    hdirectory.put_leaf rfl ⟨⟨by decide, by decide, by decide⟩, by decide⟩ hlimit (by decide)
      fun _ => rfl
  exact hfile

theorem treeFiles_linkFree : treeFiles.LinkFree :=
  Node.linkFree_directory (List.forall_mem_singleton.mpr
    (Node.linkFree_directory (List.forall_mem_singleton.mpr (Node.linkFree_file [1, 2]))))

/-- A machine that relinks nothing. -/
def copyingHost : Host := { relinks := false }

/-- Copied elsewhere and removed, the directory arrives with its file. -/
theorem move_conserves_elsewhere :
    treeFiles.Valid copyingHost ∧
      treeFiles.entry? copyingHost "/a" =
        some ([("a" : Text)], .directory [("f", .file [1, 2])]) ∧
      treeFiles.CopiesApart "/a" "/b" [("a" : Text)] ∧
      move copyingHost "/a" "/b" treeFiles =
        .ok "/b" { top := [("b", .directory [("f", .file [1, 2])])] } ∧
      treeFiles.Transfers "/b" [("a" : Text)] (.directory [("f", .file [1, 2])])
        { top := [("b", .directory [("f", .file [1, 2])])] } := by
  have hvalid : treeFiles.Valid copyingHost := treeFiles_valid copyingHost (by decide)
  have hentry : treeFiles.entry? copyingHost "/a" =
      some ([("a" : Text)], .directory [("f", .file [1, 2])]) := by
    cbv
  have hrun : move copyingHost "/a" "/b" treeFiles =
      .ok "/b" { top := [("b", .directory [("f", .file [1, 2])])] } := by
    cbv
  have hcomponents : Path.components "/b" = [("b" : Text)] := by decide
  have hapart : treeFiles.CopiesApart "/a" "/b" [("a" : Text)] := by
    have hsource : treeFiles.Denotes "/a" [("a" : Text)] :=
      (treeFiles_linkFree.denotes_iff (by decide)).mpr (by decide)
    rw [copiesApart_iff hvalid treeFiles_linkFree hsource (by decide) (by decide), hcomponents]
    intro names content _ hprefix
    simp at hprefix
  have hother : ∀ slashed, ¬ treeFiles.Names "/b" [("a" : Text)] slashed := by
    intro slashed hnames
    have hdenotes := hnames.denotes fun link => treeFiles_linkFree _ link
    have hplace := treeFiles_linkFree.eq_components (by decide) hdenotes
    rw [hcomponents] at hplace
    simp at hplace
  have htarget : targetFor treeFiles copyingHost "/a" "/b" = "/b" := by cbv
  have hmoved := ((move_conserves hvalid hentry).of_ok hrun).2
  rw [htarget] at hmoved
  exact ⟨hvalid, hentry, hapart, hrun, (hmoved.1 (.inr (.inr hapart))).2 hother⟩

/-- A directory with a directory of its name in it, and so on down to a file. -/
def deepFiles : FileSystem :=
  { top := [("a", .directory
    [("a", .directory [("a", .directory [("f", .file [1, 2])])])])] }

/-- Moved to where its target is the directory above it, a directory is copied over itself and
removed, and its file is nowhere any more. -/
theorem not_move_conserves_above :
    deepFiles.entry? {} "/a/a" =
        some ([("a" : Text), "a"], .directory [("a", .directory [("f", .file [1, 2])])]) ∧
      move {} "/a/a" "/" deepFiles = .ok "/a" { top := [("a", .directory [])] } ∧
      ¬ deepFiles.Conserves "/a" [("a" : Text), "a"]
        (.directory [("a", .directory [("f", .file [1, 2])])])
        { top := [("a", .directory [])] } := by
  refine ⟨by cbv, by cbv, fun hconserves => ?_⟩
  have hnone : ∀ place, FileSystem.at? { top := [("a", .directory [])] } place ≠
      some (.file [1, 2]) := by
    intro place hat
    rw [FileSystem.at?_file_iff] at hat
    cases place with
    | nil => simp at hat
    | cons name rest =>
        obtain ⟨child, hmem, hkind⟩ := Node.exists_mem_of_kind? hat
        obtain ⟨-, rfl⟩ := Prod.mk.inj (List.mem_singleton.mp hmem)
        cases rest with
        | nil => simp [Node.kind] at hkind
        | cons inner more => simp [Node.kind?_cons, Node.child?, Entries.get?] at hkind
  rcases hconserves [("a" : Text), "f"] [1, 2] rfl with hsource | ⟨other, -, hother⟩
  · exact hnone _ hsource
  · exact hnone other hother

end Example

end Disk

end LineShell
