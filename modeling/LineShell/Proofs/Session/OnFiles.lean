import LineShell.Proofs.FileSystem.Calls
import LineShell.Session.Shell

/-!
# Commands at the files

What a command does with the files it does by operations on them, which leave the rest of the world
alone.  The rules below take a run of a command into the operation; only a null character and a
removed working directory break the command off there, and any other fault is told to it.
-/

namespace LineShell.Shell

variable {A : Type} {world : World} {failed : Escape → World → Prop}

@[simp]
theorem ends_session {done : Session → World → Prop} :
    Ends session world done failed ↔ done world.session world := by
  simp only [session, ends_bind, ends_get, ends_pure]

@[simp]
theorem ends_inspect {question : FileSystem → A} {done : A → World → Prop} :
    Ends (inspect question) world done failed ↔ done (question world.files) world := by
  simp only [inspect, ends_bind, ends_get, ends_pure]

theorem ends_onFiles {action : Disk A} {done : Except Fault A → World → Prop} :
    Ends (onFiles action) world done failed ↔
      Ends action world.files (fun value files => done (.ok value) { world with files })
        (fun fault files =>
          if fault = .nullByte then failed .nullByte { world with files }
          else if fault = .noWorkingDirectory then failed .noWorkingDirectory { world with files }
          else done (.error fault) { world with files }) := by
  unfold Ends onFiles
  cases action world.files with
  | ok value files => rfl
  | error fault files => cases fault <;> simp

theorem ends_onFilesOr {default : A} {action : Disk A} {done : A → World → Prop} :
    Ends (onFilesOr default action) world done failed ↔
      Ends action world.files (fun value files => done value { world with files })
        (fun fault files =>
          if fault = .nullByte then failed .nullByte { world with files }
          else if fault = .noWorkingDirectory then failed .noWorkingDirectory { world with files }
          else done default { world with files }) := by
  simp only [onFilesOr, ends_bind, ends_onFiles, ends_pure]

end LineShell.Shell
