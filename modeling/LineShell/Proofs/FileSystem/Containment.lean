import LineShell.Proofs.FileSystem.Leads
import LineShell.Proofs.FileSystem.Operations
import LineShell.Proofs.FileSystem.Rules
import Mathlib

/-!
# Directories are kept out of themselves

Copying or moving a directory to a place within itself is refused by comparing normal forms.  Where
there are no links a path denotes its normal form, so the comparison finds every target that lies
within the source, in whatever way the two are spelled — with one exception: nothing counts as
within a source that is spelled with exactly two slashes in front.
-/

namespace LineShell

/-- A file system without symbolic links. -/
def FileSystem.LinkFree (files : FileSystem) : Prop :=
  ∀ place target, files.kind? place ≠ some (.link target)

namespace Node

theorem linkFree_directory {entries : Entries}
    (hentries : ∀ entry ∈ entries, ∀ place target, entry.2.kind? place ≠ some (.link target)) :
    ∀ place target, (Node.directory entries).kind? place ≠ some (.link target) := by
  intro place target h
  have hkinds : ∀ rest kind, (Node.directory entries).kind? rest = some kind →
      kind ≠ .link target := by
    refine forall_kind?_directory nofun ?_
    rintro entry hmem rest _ hkind rfl
    exact hentries entry hmem rest target hkind
  exact hkinds place _ h rfl

theorem linkFree_file (content : Bytes) (place : Place) (target : Text) :
    (Node.file content).kind? place ≠ some (.link target) := by
  intro h
  have hkinds : ∀ rest kind, (Node.file content).kind? rest = some kind → kind ≠ .link target :=
    forall_kind?_leaf (fun _ => rfl) (by simp [kind])
  exact hkinds place _ h rfl

end Node

/-- A fault other than the refusals to put a directory into itself. -/
def Fault.Unguarded (fault : Fault) : Prop :=
  ∀ path, fault ≠ .copyIntoItself path ∧ fault ≠ .moveIntoItself path

namespace FileSystem.LinkFree

variable {host : Host} {files : FileSystem} (hlinks : files.LinkFree)
include hlinks

/-- Without links it does not matter which of them are followed. -/
theorem locate_congr (rule other : LinkRule) (path : Text) :
    files.locate host rule path = files.locate host other path := by
  have hcompares : Compares files rule other Eq :=
    ⟨fun _ => rfl, fun _ hkind _ => absurd hkind (hlinks _ _)⟩
  exact hcompares.locate path

theorem entry?_eq (path : Text) : files.entry? host path = files.target? host path := by
  unfold entry? target? lookup
  rw [hlinks.locate_congr .whenSlashed .always]

/-- An absolute path denotes the components of its normal form. -/
theorem eq_components {path : Text} {place : Place} (hpath : Path.isAbsolute path = true)
    (h : files.Denotes path place) : place = Path.components path := by
  have hplace := h.eq_foldl_push hlinks (by simp [startOf, hpath])
  rw [Path.components_of_isAbsolute hpath, hplace]
  simp [startOf, hpath]

theorem exists_leads (start : Place) (components : List Text) :
    ∃ last, Leads files start components last := by
  induction components generalizing start with
  | nil => exact ⟨start, .done⟩
  | cons component rest ih =>
      rcases Path.skipped_or_up_or_naming component with hskip | rfl | hname
      · obtain ⟨last, h⟩ := ih start
        exact ⟨last, .skip hskip h⟩
      · obtain ⟨last, h⟩ := ih start.dropLast
        exact ⟨last, .up h⟩
      · obtain ⟨last, h⟩ := ih (start ++ [component])
        exact ⟨last, .enter hname (hlinks _) h⟩

theorem denotes_iff {path : Text} {place : Place} (hpath : Path.isAbsolute path = true) :
    files.Denotes path place ↔ place = Path.components path := by
  refine ⟨hlinks.eq_components hpath, fun hplace => ?_⟩
  obtain ⟨last, h⟩ := hlinks.exists_leads (files.startOf path) (Text.splitOn '/' path)
  rw [hplace, ← hlinks.eq_components hpath h]
  exact h

end FileSystem.LinkFree

namespace Disk

variable {host : Host}

theorem Refused.unguarded {files after : FileSystem} {path : Text} {fault : Fault}
    (h : Refused files path fault after) : fault.Unguarded := by
  have hfault := h.2
  split at hfault
  · exact fun _ => ⟨by simp [hfault], by simp [hfault]⟩
  · obtain ⟨cause, rfl⟩ := hfault
    exact fun _ => ⟨by simp, by simp⟩

theorem gives_absolute_unguarded {path : Text} :
    Gives (fun _ => True) Fault.Unguarded (fun _ => True) (absolute path) := by
  apply Gives.get.bind
  intro files _
  split
  · exact .pure trivial
  · exact .throw fun _ => ⟨by simp, by simp⟩

/-- No call to the system is refused as one that puts a directory into itself. -/
theorem callsKeep_unguarded (host : Host) :
    CallsKeep host (fun _ => True) (fun _ => True) (fun _ => True) Fault.Unguarded where
  join _ _ := trivial
  splitLast _ := trivial
  absolute _ := gives_absolute_unguarded
  listNames _ _ _ := ends_listNames.mono (fun _ _ _ => by simp) fun _ _ h => ⟨h.unguarded, trivial⟩
  readFile _ _ _ := ends_readFile.mono (fun _ _ _ => by simp) fun _ _ h => ⟨h.unguarded, trivial⟩
  makeDirectory _ _ _ := ends_create.mono (fun _ _ _ => by simp) fun _ _ h =>
    ⟨h.unguarded, trivial⟩
  changeFile _ := keeps_changeFile (fun h => h.unguarded) (fun _ => ⟨by simp, by simp⟩)
    fun _ _ _ => trivial
  removeEntry _ _ _ := ends_removeEntry.mono (fun _ _ _ => by simp) fun _ _ h =>
    ⟨h.unguarded, trivial⟩
  removeDirectory _ _ _ := ends_removeDirectory.mono (fun _ _ _ => by simp) fun _ _ h =>
    ⟨h.unguarded, trivial⟩
  rename _ _ _ _ := by
    apply ends_rename.mono (fun _ _ _ => by simp)
    rintro fault after ⟨-, ⟨-, rfl⟩ | ⟨cause, path, rfl⟩⟩
    · exact ⟨fun _ => ⟨by simp, by simp⟩, trivial⟩
    · exact ⟨fun _ => ⟨by simp, by simp⟩, trivial⟩
  nullByte _ _ _ := ⟨by simp, by simp⟩
  sameFile _ _ _ := ⟨by simp, by simp⟩
  namedPipe _ _ := ⟨by simp, by simp⟩
  copyBrokenOff _ _ _ := ⟨by simp, by simp⟩
  noDirectory _ _ := ⟨by simp, by simp⟩
  tooDeep _ _ := ⟨by simp, by simp⟩
  sourceKept _ _ := ⟨by simp, by simp⟩

section Guard

variable {files : FileSystem} {source destination target : Text}

theorem ends_isWithin (htarget : Path.isAbsolute target = true)
    (hsource : Path.isAbsolute source = true) {done : Bool → FileSystem → Prop}
    {failed : Fault → FileSystem → Prop} :
    Ends (isWithin target source) files done failed ↔
      done (Path.isWithin target source) files := by
  have hwithin := Path.isWithin_normalize htarget hsource
  simp only [isWithin, absolute, ends_bind, ends_get, ends_pure,
    FileSystem.absolute?_of_isAbsolute _ htarget, FileSystem.absolute?_of_isAbsolute _ hsource,
    hwithin]

variable (htarget : Path.isAbsolute target = true) (hsource : Path.isAbsolute source = true)
  (hdirectory : files.isDirectory host source = true)
include htarget hsource hdirectory

theorem ends_copyTo_within (hwithin : Path.isWithin target source = true) :
    Ends (copyTo host source target) files (fun _ _ => False)
      (fun fault after => fault = .copyIntoItself source ∧ after = files) := by
  simp only [copyTo, ends_bind, ends_get, hdirectory, if_true, ends_isWithin htarget hsource,
    ends_guard, hwithin]
  simp

theorem ends_copyTo_not_within (hwithin : Path.isWithin target source = false) :
    Ends (copyTo host source target) files (fun _ _ => True) (fun fault _ => fault.Unguarded) := by
  have hcalls := callsKeep_unguarded host
  have hrest : Keeps (fun _ => True) Fault.Unguarded (do
      ensureParent host target
      copyTree host (depthLimit host) source target : Disk Unit) :=
    (hcalls.ensureParent trivial).bind fun _ _ => hcalls.copyTree trivial trivial
  have hends := (hrest files trivial).mono (fun _ _ _ => trivial) fun _ _ h => h.1
  simp only [copyTo, ends_bind, ends_get, hdirectory, if_true, ends_isWithin htarget hsource,
    ends_guard, hwithin]
  simpa using hends

end Guard

section Operations

variable {files : FileSystem} {source destination : Text}
variable (htarget : Path.isAbsolute (targetFor files host source destination) = true)
  (hsource : Path.isAbsolute source = true) (hentry : files.hasEntry host source = true)
  (hdirectory : files.isDirectory host source = true)
include htarget hsource hentry hdirectory

/-- Copying a directory is refused as putting it into itself exactly where the target lies within it
by the spelling. -/
theorem copy_eq_copyIntoItself_iff :
    copy host source destination files = .error (.copyIntoItself source) files ↔
      Path.isWithin (targetFor files host source destination) source = true := by
  constructor
  · intro hrun
    by_contra hwithin
    rw [Bool.not_eq_true] at hwithin
    have hends : Ends (copy host source destination) files (fun _ _ => True)
        (fun fault _ => fault.Unguarded) := by
      simp only [copy, ends_bind, ends_get, ends_guard, hentry, ends_attempt]
      refine ⟨by simp, fun _ => ?_⟩
      refine (ends_copyTo_not_within htarget hsource hdirectory hwithin).mono
        (fun _ _ _ => trivial) fun fault after hfault => ?_
      split
      · exact fun _ => ⟨by simp, by simp⟩
      · split
        · trivial
        · exact fun _ => ⟨by simp, by simp⟩
        · rename_i h
          cases h
          exact hfault
    exact (hends.of_error hrun source).1 rfl
  · intro hwithin
    apply Ends.eq_error
    simp only [copy, ends_bind, ends_get, ends_guard, hentry, ends_attempt]
    refine ⟨by simp, fun _ => ?_⟩
    refine (ends_copyTo_within htarget hsource hdirectory hwithin).mono
      (fun _ _ h => h.elim) fun fault after h => ?_
    obtain ⟨rfl, rfl⟩ := h
    simp

theorem move_eq_moveIntoItself_iff :
    move host source destination files = .error (.moveIntoItself source) files ↔
      Path.isWithin (targetFor files host source destination) source = true := by
  constructor
  · intro hrun
    by_contra hwithin
    rw [Bool.not_eq_true] at hwithin
    have hcalls := callsKeep_unguarded host
    have hends : Ends (move host source destination) files (fun _ _ => True)
        (fun fault _ => fault.Unguarded) := by
      simp only [move, ends_bind, ends_get, ends_guard, hentry, hdirectory, if_true,
        ends_isWithin htarget hsource, hwithin]
      have hrelinked : Keeps (fun _ => True) Fault.Unguarded
          (moveByRelinking host source (targetFor files host source destination)) :=
        hcalls.moveByRelinking trivial trivial
      refine ⟨by simp, fun _ => ⟨by simp, fun _ => ?_⟩⟩
      apply (gives_attempt hrelinked files trivial).mono _ fun _ _ h => h.1
      intro result after _
      split
      · trivial
      · rw [ends_bind]
        apply (hcalls.moveByCopying trivial trivial after trivial).mono
        · exact fun _ _ _ => trivial
        · exact fun _ _ h => h.1
    exact (hends.of_error hrun source).2 rfl
  · intro hwithin
    apply Ends.eq_error
    simp only [move, ends_bind, ends_get, ends_guard, hentry, hdirectory, if_true,
      ends_isWithin htarget hsource, hwithin]
    simp

end Operations

theorem isAbsolute_targetFor (host : Host) (files : FileSystem) (source : Text) {destination : Text}
    (hdestination : Path.isAbsolute destination = true) :
    Path.isAbsolute (targetFor files host source destination) = true := by
  unfold targetFor
  split
  · exact Path.isAbsolute_join hdestination
  · exact hdestination

/-- In a file system without links, a directory that would be copied or moved to a place at or below
its own is refused with nothing touched, exactly if its path does not begin with two slashes. -/
theorem refuses_itself_iff {files : FileSystem} {source destination : Text} {place inner : Place}
    {entries : Entries} (hlinks : files.LinkFree) (hsource : Path.isAbsolute source = true)
    (hdestination : Path.isAbsolute destination = true)
    (hdirectory : files.target? host source = some (place, .directory entries))
    (htarget : files.Denotes (targetFor files host source destination) inner)
    (hinner : place <+: inner) :
    (copy host source destination files = .error (.copyIntoItself source) files ↔
        Path.leadingSlashes source = 1) ∧
      (move host source destination files = .error (.moveIntoItself source) files ↔
        Path.leadingSlashes source = 1) := by
  have hpath := isAbsolute_targetFor host files source hdestination
  have hentry : files.hasEntry host source = true := by
    rw [FileSystem.hasEntry, hlinks.entry?_eq, hdirectory]
    rfl
  have hisDirectory : files.isDirectory host source = true := by
    rw [FileSystem.isDirectory, hdirectory]
  have hplace : place = Path.components source := by
    have hlookup : files.lookup host .always source = .ok (place, .directory entries) :=
      (FileSystem.target?_eq_some_iff.mp hdirectory).2
    exact hlinks.eq_components hsource
      (FileSystem.denotes_of_lookup (.inl hsource) hlookup (.inl hsource) (by simp))
  have hwithin : Path.isWithin (targetFor files host source destination) source = true ↔
      Path.leadingSlashes source = 1 := by
    rw [hplace, hlinks.eq_components hpath htarget] at hinner
    rw [Path.isWithin, Bool.and_eq_true, beq_iff_eq, List.isPrefixOf_iff_prefix]
    exact and_iff_left hinner
  rw [← hwithin]
  exact ⟨copy_eq_copyIntoItself_iff hpath hsource hentry hisDirectory,
    move_eq_moveIntoItself_iff hpath hsource hentry hisDirectory⟩

section Example

/-- A directory with an empty directory in it. -/
def nestedFiles : FileSystem :=
  { top := [("a", .directory [("d", .directory [])])] }

theorem nestedFiles_linkFree : nestedFiles.LinkFree :=
  Node.linkFree_directory (List.forall_mem_singleton.mpr
    (Node.linkFree_directory (List.forall_mem_singleton.mpr (Node.linkFree_directory (by simp)))))

/-- Behind one slash the directory is kept out of itself, in whatever other way it is spelled. -/
theorem refuses_itself_dotted :
    nestedFiles.LinkFree ∧
      nestedFiles.target? {} "/a/.././/a/" =
        some ([("a" : Text)], .directory [("d", .directory [])]) ∧
      nestedFiles.Denotes (targetFor nestedFiles {} "/a/.././/a/" "/a/../a/d")
        [("a" : Text), ("d" : Text), ("a" : Text)] ∧
      copy {} "/a/.././/a/" "/a/../a/d" nestedFiles =
        .error (.copyIntoItself "/a/.././/a/") nestedFiles ∧
      move {} "/a/.././/a/" "/a/../a/d" nestedFiles =
        .error (.moveIntoItself "/a/.././/a/") nestedFiles := by
  have hdirectory : nestedFiles.target? {} "/a/.././/a/" =
      some ([("a" : Text)], .directory [("d", .directory [])]) := by
    cbv
  have hpath := isAbsolute_targetFor {} nestedFiles "/a/.././/a/"
    (by decide : Path.isAbsolute "/a/../a/d" = true)
  have htarget : nestedFiles.Denotes (targetFor nestedFiles {} "/a/.././/a/" "/a/../a/d")
      [("a" : Text), ("d" : Text), ("a" : Text)] := by
    rw [nestedFiles_linkFree.denotes_iff hpath]
    cbv
  have hslash : Path.leadingSlashes "/a/.././/a/" = 1 := by decide
  have hrefused := refuses_itself_iff nestedFiles_linkFree (by decide) (by decide) hdirectory
    htarget (List.prefix_append [("a" : Text)] _)
  exact ⟨nestedFiles_linkFree, hdirectory, htarget, hrefused.1.mpr hslash, hrefused.2.mpr hslash⟩

/-- Behind two slashes nothing keeps the directory out of itself: it is copied and moved onto
itself. -/
theorem not_refuses_itself_twoSlashes :
    nestedFiles.LinkFree ∧
      nestedFiles.target? {} "//a" = some ([("a" : Text)], .directory [("d", .directory [])]) ∧
      nestedFiles.Denotes (targetFor nestedFiles {} "//a" "//") [("a" : Text)] ∧
      copy {} "//a" "//" nestedFiles = .ok "//a" nestedFiles ∧
      move {} "//a" "//" nestedFiles = .ok "//a" nestedFiles := by
  have hpath := isAbsolute_targetFor {} nestedFiles "//a"
    (by decide : Path.isAbsolute "//" = true)
  refine ⟨nestedFiles_linkFree, by cbv, (nestedFiles_linkFree.denotes_iff hpath).mpr ?_,
    by cbv, by cbv⟩
  cbv

end Example

end Disk

end LineShell
