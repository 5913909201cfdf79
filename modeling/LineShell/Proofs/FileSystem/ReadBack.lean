import LineShell.Proofs.FileSystem.Performed
import LineShell.Proofs.FileSystem.Rules
import LineShell.Proofs.FileSystem.Steady
import LineShell.Proofs.Text.Decoded

/-!
# Reading what was written

A write goes to one file, which may be missing yet.  Nothing on the way to it is changed, so the
path leads to the same file afterwards, and what is read there is the text that was written, behind
what was read before where it was appended.  If the write fails, nothing was changed at all, unless
the machine broke it off after the file was opened: then the file has what opening it left of its
content and the first bytes of the text.
-/

namespace LineShell

/-! ### What is read -/

/-- What a file reads as after a text was written to it. -/
def WriteMode.reading (mode : WriteMode) (addition before : Text) : Text :=
  match mode with
  | .overwrite => addition
  | .append => before ++ addition

/-- Bytes that were added to any others are read as the text that they store. -/
theorem WriteMode.decode_keep_append (mode : WriteMode) (addition : Text) (content : Bytes) :
    Utf8.decode (mode.keep content ++ addition.utf8) =
      mode.reading addition (Utf8.decode content) := by
  cases mode with
  | overwrite => exact Utf8.decode_utf8 addition
  | append => exact Utf8.decode_append_utf8 content addition

namespace Disk

variable {host : Host} {files : FileSystem} {path : Text} {place : Place} {name : Name}

theorem readFile_of_file {content : Bytes}
    (htarget : files.target? host path = some (place, .file content)) :
    readFile host path files = .ok content files := by
  obtain ⟨hnull, hlookup⟩ := FileSystem.target?_eq_some_iff.mp htarget
  have hask : ask path (fun files => files.lookup host .always path) files =
      .ok (place, .file content) files := by
    simp only [ask, hnull, Bool.false_eq_true, if_false, hlookup]
  rw [readFile, bind_of_ok hask]
  rfl

/-- What a path leads to decides what is read. -/
theorem readText_of_file {content : Bytes}
    (htarget : files.target? host path = some (place, .file content)) :
    readText host path files = .ok (Utf8.decode content) files := by
  have hreaches : files.reaches host path = true := by
    rw [FileSystem.reaches, htarget]
    rfl
  have hdirectory : files.isDirectory host path = false := by
    rw [FileSystem.isDirectory, htarget]
  rw [readText, bind_of_ok (rfl : (get : Disk FileSystem) files = .ok files files), hreaches,
    hdirectory]
  exact bind_of_ok (readFile_of_file htarget)

theorem readText_of_none (htarget : files.target? host path = none) :
    readText host path files = .error (.noFile path) files := by
  have hreaches : files.reaches host path = false := by
    rw [FileSystem.reaches, htarget]
    rfl
  rw [readText, bind_of_ok (rfl : (get : Disk FileSystem) files = .ok files files), hreaches]
  rfl

/-! ### What is written -/

/-- Where a write goes to, a path leads as well when links are followed to the end. -/
theorem Aims.always (haims : Aims host files .unlessSlashed path place name false)
    (hlink : ∀ target, files.kind? (place ++ [name]) ≠ some (.link target)) :
    Aims host files .always path place name false :=
  ⟨haims.hasNull, FileSystem.locate_of_unlinked .always (fun _ _ => rfl) hlink haims.locate⟩

/-- A text was written to the file at a place, which a path leads to.  A file that was missing
counts as empty before. -/
structure Wrote (host : Host) (mode : WriteMode) (path text : Text) (files : FileSystem)
    (landing : Place) (after : FileSystem) : Prop where
  lands : ∃ content, after.target? host path = some (landing, .file content)
  reads : ∃ before, readText host path after = .ok (mode.reading text before) after ∧
    (readText host path files = .ok before files ∨
      readText host path files = .error (.noFile path) files ∧ before = [])
  others : ∀ other, other ≠ landing → after.kind? other = files.kind? other
  working : after.working = files.working
  valid : after.Valid host

/-- A text that replaced the content of a file is what is stored there. -/
theorem Wrote.stored {text : Text} {after : FileSystem} {landing : Place}
    (hwrote : Wrote host .overwrite path text files landing after) :
    ∃ content, Utf8.decode content = text ∧
      after.target? host path = some (landing, .file content) := by
  obtain ⟨content, hlanding⟩ := hwrote.lands
  obtain ⟨before, hread, -⟩ := hwrote.reads
  rw [readText_of_file hlanding] at hread
  injection hread with hdecode
  exact ⟨content, hdecode, hlanding⟩

/-- A write to the file at a place, which a path leads to, was broken off by the machine.  The file
has what opening it kept of its content, which was none if it was missing, and the first bytes of
the text. -/
structure BrokeOff (host : Host) (mode : WriteMode) (path text : Text) (files : FileSystem)
    (landing : Place) (after : FileSystem) : Prop where
  lands : ∃ content count, host.breaksOff landing (mode.keep content) text.utf8 = some count ∧
    (files.target? host path = some (landing, .file content) ∨
      files.target? host path = none ∧ content = []) ∧
    after.target? host path = some (landing, .file (mode.keep content ++ text.utf8.take count))
  others : ∀ other, other ≠ landing → after.kind? other = files.kind? other
  working : after.working = files.working
  valid : after.Valid host

/-- What the faults of a write did to the files: that of a broken-off write left the first bytes of
the text, and any other one left the files as they were. -/
inductive Unwritten (host : Host) (mode : WriteMode) (path text : Text) (files : FileSystem) :
    Fault → FileSystem → Prop
  | refused {fault : Fault} (hfault : fault ≠ .brokenOff) :
      Unwritten host mode path text files fault files
  | brokenOff {landing : Place} {after : FileSystem}
      (h : BrokeOff host mode path text files landing after) :
      Unwritten host mode path text files .brokenOff after

section Opened

variable {content : Bytes} (hopens : Opens host files path place name content)
  (hfiles : files.Valid host)
include hopens hfiles

/-- A path leads to the file that was opened, if it was there, and else to nothing. -/
theorem Opens.target?_before : files.target? host path = some (place ++ [name], .file content) ∨
    files.target? host path = none ∧ content = [] := by
  have halways : Aims host files .always path place name false := hopens.aims.always fun link => by
    rcases hopens.old with ⟨hnone, -⟩ | hfile
    · simp [FileSystem.at?_eq_none_iff.mp hnone]
    · simp [FileSystem.kind?_of_at? hfile, Node.kind]
  rcases hopens.old with ⟨hnone, rfl⟩ | hfile
  · exact .inr ⟨halways.not_found (FileSystem.at?_eq_none_iff.mp hnone), rfl⟩
  · exact .inl (FileSystem.target?_eq_some_iff.mpr
      ⟨halways.hasNull, halways.lookup_eq hfiles hfile (by simp)⟩)

/-- An opened file gets its new content, and the path leads to it. -/
theorem Opens.changed (written : Bytes) :
    files.Changed host (place ++ [name]) (some (.file written))
        (files.put place name (.file written)) ∧
      (files.put place name (.file written)).target? host path =
        some (place ++ [name], .file written) := by
  have hkind : files.kind? (place ++ [name]) = none ∨
      files.kind? (place ++ [name]) = some (.file content) :=
    hopens.old.imp (fun hnone => FileSystem.at?_eq_none_iff.mp hnone.1) FileSystem.kind?_of_at?
  obtain ⟨hplace, hname⟩ := hopens.aims.isName hfiles
  have hchanged : files.Changed host (place ++ [name]) (some (Node.file written).kind)
      (files.put place name (.file written)) :=
    changed_put hfiles hplace hname hopens.size
      (by rcases hkind with hkind | hkind <;> simp [hkind]) (.inl (by simp [Node.kind]))
  have halways : Aims host files .always path place name false :=
    hopens.aims.always (by rcases hkind with hkind | hkind <;> simp [hkind])
  have hsteady : files.Steady (files.put place name (.file written)) :=
    .of_leaf hchanged.kinds (by simp [Node.kind])
      (by rcases hkind with hkind | hkind <;> simp [hkind])
      (by rcases hkind with hkind | hkind <;> simp [hkind]) hchanged.working
  refine ⟨hchanged, FileSystem.target?_eq_some_iff.mpr ⟨halways.hasNull, ?_⟩⟩
  have hafter : Aims host (files.put place name (.file written)) .always path place name false :=
    ⟨halways.hasNull, hsteady.locate_ok halways.locate⟩
  refine hafter.lookup_eq hchanged.valid ?_ (by simp)
  rw [FileSystem.at?_file_iff, hchanged.kinds, if_pos rfl]
  rfl

end Opened

/-- A text is written and read back behind what was there.  Else nothing is changed, or the machine
broke the write off. -/
theorem ends_writeText (hfiles : files.Valid host) (mode : WriteMode) (text : Text) :
    Ends (writeText host mode path text) files
      (fun _ after => ∃ landing, Wrote host mode path text files landing after)
      (fun fault after => Unwritten host mode path text files fault after ∧
        fault ≠ .noWorkingDirectory ∧ (fault = .nullByte → path.hasNull = true)) := by
  apply ends_changeFile.mono
  · rintro - after ⟨place, name, content, hopens, -, rfl⟩
    obtain ⟨hchanged, htarget⟩ := hopens.changed hfiles (mode.keep content ++ text.utf8)
    refine ⟨place ++ [name], ⟨_, htarget⟩, ⟨Utf8.decode content, ?_, ?_⟩, fun other hother => ?_,
      hchanged.working, hchanged.valid⟩
    · rw [readText_of_file htarget, mode.decode_keep_append]
    · rcases hopens.target?_before hfiles with hfile | ⟨hnone, rfl⟩
      · exact .inl (readText_of_file hfile)
      · exact .inr ⟨readText_of_none hnone, rfl⟩
    · rw [hchanged.kinds, if_neg hother]
  · rintro fault after (⟨rfl, hfault⟩ | @⟨place, name, content, count, hopens, hcount⟩)
    · split at hfault
      · rename_i hnull
        exact ⟨.refused (by simp [hfault]), by simp [hfault], fun _ => hnull⟩
      · obtain ⟨cause, rfl⟩ := hfault
        exact ⟨.refused (by simp), by simp, by simp⟩
    · obtain ⟨hchanged, htarget⟩ :=
        hopens.changed hfiles (mode.keep content ++ text.utf8.take count)
      refine ⟨.brokenOff ⟨⟨content, count, hcount, hopens.target?_before hfiles, htarget⟩,
        fun other hother => ?_, hchanged.working, hchanged.valid⟩, by simp, by simp⟩
      rw [hchanged.kinds, if_neg hother]

end Disk

end LineShell
