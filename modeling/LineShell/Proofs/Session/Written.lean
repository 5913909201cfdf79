import LineShell.Proofs.FileSystem.ReadBack
import LineShell.Proofs.FileSystem.WellFormed
import LineShell.Proofs.Path.Sound
import LineShell.Proofs.Session.OnFiles
import LineShell.Session.Redirection

/-!
# The status of a write

What a command or a redirection writes to a file is answered with a status line.  The line of
success says that the text can be read back, behind what was in the file before where it was
appended.  The line of failure says that nothing was changed, unless the machine broke the write off
after it had opened the file.
-/

namespace LineShell

/-- Success and failure are told apart by the first letter of the status. -/
theorem WriteMode.failureStatus_ne_successStatus (mode : WriteMode) (fault : Fault) (target : Text) :
    mode.failureStatus fault ≠ mode.successStatus target := by
  cases mode <;> exact nofun

namespace Shell

variable {world : World}

/-- A write is answered with the status of success where the text was written, and with one of
failure where it was not. -/
theorem ends_writeTo (setup : Setup) (mode : WriteMode) (target content : Text)
    (hfiles : world.files.Valid setup.host) :
    Ends (writeTo setup mode target content) world
      (fun status after => after = { world with files := after.files } ∧
        (status = mode.successStatus target ∧ (∃ landing, Disk.Wrote setup.host mode
          (world.session.resolve target) content world.files landing after.files) ∨
        ∃ fault, status = mode.failureStatus fault ∧ Disk.Unwritten setup.host mode
          (world.session.resolve target) content world.files fault after.files))
      (fun escape after => escape = .nullByte ∧
        (world.session.resolve target).hasNull = true ∧ after = world) := by
  simp only [writeTo, ends_bind, ends_session, ends_onFiles, ends_pure]
  apply (Disk.ends_writeText hfiles mode content).mono
  · intro _ after hwrote
    exact ⟨trivial, .inl ⟨trivial, hwrote⟩⟩
  · rintro fault after ⟨hunwritten, hplaced, hnull⟩
    by_cases hfault : fault = .nullByte
    · subst hfault
      cases hunwritten
      rw [if_pos rfl]
      exact ⟨trivial, hnull rfl, rfl⟩
    · rw [if_neg hfault, if_neg hplaced]
      exact ⟨trivial, .inr ⟨fault, rfl, hunwritten⟩⟩

section Example

end Example

end Shell

end LineShell
