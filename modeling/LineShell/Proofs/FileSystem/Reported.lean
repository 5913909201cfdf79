import LineShell.FileSystem.Entry
import LineShell.Proofs.FileSystem.NullFree

/-!
# Faults of the operations of commands

In a tree without null characters, every operation that a command runs on sound paths ends in
nothing but faults that the command can tell its user, and leaves such a tree.
-/

namespace LineShell.Disk

variable (host : Host) {path source destination : Text}

theorem keeps_tryMakeDirectory (hpath : Path.Sound path) :
    Keeps FileSystem.NullFree Fault.Reported (tryMakeDirectory host path) :=
  keeps_succeeds ((callsKeep_nullFree host).makeDirectory hpath)

theorem keeps_createFile (hpath : Path.Sound path) :
    Keeps FileSystem.NullFree Fault.Reported (createFile host path) := by
  apply keeps_nullFree hpath (fun _ => ends_createFile)
  rintro files - _ hfiles ⟨place, name, haims, -, -, rfl⟩
  exact ⟨trivial, hfiles.put (haims.hasNull_name hfiles hpath) (Node.nullFree_file _)⟩

theorem keeps_tryCreateFile (hpath : Path.Sound path) :
    Keeps FileSystem.NullFree Fault.Reported (tryCreateFile host path) := by
  refine Gives.get.bind fun files _ => .ite (fun _ => .pure trivial) fun _ =>
    (gives_attempt (keeps_createFile host hpath)).bind fun result _ => ?_
  split <;> exact .pure trivial

theorem keeps_tryRemoveFile (hpath : Path.Sound path) :
    Keeps FileSystem.NullFree Fault.Reported (tryRemoveFile host path) :=
  Gives.get.bind fun _ _ =>
    .ite (fun _ => keeps_succeeds ((callsKeep_nullFree host).removeEntry hpath)) fun _ =>
      .pure trivial

theorem keeps_tryRemoveDirectory (hpath : Path.Sound path) :
    Keeps FileSystem.NullFree Fault.Reported (tryRemoveDirectory host path) := by
  refine Gives.get.bind fun files _ => .ite (fun _ => .pure trivial) fun _ =>
    (gives_attempt ((callsKeep_nullFree host).listNames hpath)).bind fun result _ => ?_
  split
  · exact .pure trivial
  · exact .pure trivial
  · exact (keeps_succeeds ((callsKeep_nullFree host).removeDirectory hpath)).bind
      fun _ _ => .pure trivial

theorem keeps_readText (hpath : Path.Sound path) :
    Keeps FileSystem.NullFree Fault.Reported (readText host path) := by
  refine Gives.get.bind fun files _ => .ite (fun _ => .throw ⟨by simp, by simp⟩) fun _ =>
    .ite (fun _ => .throw ⟨by simp, by simp⟩) fun _ => ?_
  exact ((callsKeep_nullFree host).readFile hpath).bind fun _ _ => .pure trivial

theorem keeps_writeText {mode : WriteMode} {text : Text} (hpath : Path.Sound path) :
    Keeps FileSystem.NullFree Fault.Reported (writeText host mode path text) :=
  (callsKeep_nullFree host).changeFile hpath

theorem keeps_listEntries (hpath : Path.Sound path) :
    Keeps FileSystem.NullFree Fault.Reported (listEntries host path) := by
  refine Gives.get.bind fun files _ => .ite (fun _ => .throw ⟨by simp, by simp⟩) fun _ =>
    .ite (fun _ => .throw ⟨by simp, by simp⟩) fun _ =>
    ((callsKeep_nullFree host).listNames hpath).bind fun names _ => ?_
  exact .ite (fun _ => .throw ⟨by simp, by simp⟩) fun _ => .pure trivial

/-! ### Copying and moving -/

theorem sound_targetFor (files : FileSystem) (hsource : Path.Sound source)
    (hdestination : Path.Sound destination) :
    Path.Sound (targetFor files host source destination) := by
  unfold targetFor
  split
  · refine hdestination.join (Path.hasNull_eq_false_iff.mpr fun hmem => ?_)
    have hnormal := hsource.normalize.hasNull
    exact Path.hasNull_eq_false_iff.mp hnormal (Path.mem_of_mem_lastComponent hmem)
  · exact hdestination

theorem keeps_isWithin {parent : Text} (hpath : Path.Sound path) (hparent : Path.Sound parent) :
    Keeps FileSystem.NullFree Fault.Reported (isWithin path parent) :=
  (gives_absolute hpath).bind fun _ _ => (gives_absolute hparent).bind fun _ _ => .pure trivial

theorem keeps_copyTo {target : Text} (hsource : Path.Sound source) (htarget : Path.Sound target) :
    Keeps FileSystem.NullFree Fault.Reported (copyTo host source target) := by
  have hcalls := callsKeep_nullFree host
  refine Gives.get.bind fun files _ => .ite (fun _ => ?_) fun _ => ?_
  · exact (keeps_isWithin htarget hsource).bind fun _ _ =>
      .ite (fun _ => .throw ⟨by simp, by simp⟩) fun _ =>
      (hcalls.ensureParent htarget).bind fun _ _ => hcalls.copyTree hsource htarget
  · exact (hcalls.ensureParent htarget).bind fun _ _ => hcalls.copyFile hsource htarget

theorem keeps_copy (hsource : Path.Sound source) (hdestination : Path.Sound destination) :
    Keeps FileSystem.NullFree Fault.Reported (copy host source destination) := by
  refine Gives.get.bind fun files _ => .ite (fun _ => .throw ⟨by simp, by simp⟩) fun _ =>
    (gives_attempt (keeps_copyTo host hsource
      (sound_targetFor host files hsource hdestination))).bind fun result hresult => ?_
  split
  · exact .pure trivial
  · exact .throw ⟨by simp, by simp⟩
  · exact .throw hresult

theorem keeps_move_placed {target : Text} (hsource : Path.Sound source)
    (htarget : Path.Sound target) :
    Keeps FileSystem.NullFree Fault.Reported (do
      match ← attempt (moveByRelinking host source target) with
      | .ok _ => return target
      | .error _ =>
          moveByCopying host source target
          return target : Disk Text) := by
  have hcalls := callsKeep_nullFree host
  refine (gives_attempt (hcalls.moveByRelinking hsource htarget)).bind fun result _ => ?_
  split
  · exact .pure trivial
  · exact (hcalls.moveByCopying hsource htarget).bind fun _ _ => .pure trivial

theorem keeps_move (hsource : Path.Sound source) (hdestination : Path.Sound destination) :
    Keeps FileSystem.NullFree Fault.Reported (move host source destination) := by
  refine Gives.get.bind fun files _ => .ite (fun _ => .throw ⟨by simp, by simp⟩) fun _ => ?_
  have htarget := sound_targetFor host files hsource hdestination
  have hmoved := keeps_move_placed host hsource htarget
  refine .ite (fun _ => ?_) fun _ => hmoved
  exact (keeps_isWithin htarget hsource).bind fun _ _ =>
    .ite (fun _ => .throw ⟨by simp, by simp⟩) fun _ => hmoved

end LineShell.Disk
