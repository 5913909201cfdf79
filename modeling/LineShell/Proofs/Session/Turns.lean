import LineShell.Command.Content
import LineShell.Proofs.Session.Transfers

/-!
# How faults are told

A command does its work at the files in turns, one for each of its arguments or a single one.  A
turn says what is done as if every fault broke it off, and beside it what is told of a fault.  The
line that a command gives for an argument is what the turn comes to, or it tells the fault that the
turn ended in; and what the turn did up to there stays done.
-/

namespace LineShell

/-- What is done at the files for one argument, with the line that is given for it in the end, and
the line that tells a fault instead. -/
structure Turn where
  action : Disk Text
  tells : Fault → Text

namespace Turn

/-- A turn was taken: it came to its line, or to a fault, which the line tells. -/
inductive Taken (turn : Turn) : Text → FileSystem → FileSystem → Prop
  | done {line : Text} {before after : FileSystem} (hrun : turn.action before = .ok line after) :
      Taken turn line before after
  | faulted {fault : Fault} {before after : FileSystem}
      (hrun : turn.action before = .error fault after) : Taken turn (turn.tells fault) before after

/-- Turns were taken one after the other, each with its line. -/
inductive AllTaken : List Turn → List Text → FileSystem → FileSystem → Prop
  | nil (files : FileSystem) : AllTaken [] [] files files
  | cons {turn : Turn} {line : Text} {turns : List Turn} {lines : List Text}
      {before middle after : FileSystem} (hturn : turn.Taken line before middle)
      (hrest : AllTaken turns lines middle after) :
      AllTaken (turn :: turns) (line :: lines) before after

section Commands

variable (host : Host) (session : Session)

/-- The current directory is listed. -/
def list (options : EntryCommands.ListOptions) : Turn where
  action := return EntryCommands.listing options (← Disk.listEntries host session.directory)
  tells _ := "Cannot access directory: " ++ session.directory ++ "\n"

/-- A directory is made. -/
def makeDirectory (name : Text) : Turn where
  action := do
    Disk.makeDirectory host (session.resolve name)
    return "Directory created: " ++ name ++ "\n"
  tells _ := "Failed to create directory: " ++ name ++ "\n"

/-- A directory is removed if it is there and has no entries. -/
def removeDirectory (name : Text) : Turn where
  action := do
    let path := session.resolve name
    if !(← get).isDirectory host path then return EntryCommands.removalReport name .notFound
    if !(← Disk.listNames host path).isEmpty then
      return EntryCommands.removalReport name .notEmpty
    Disk.removeDirectory host path
    return EntryCommands.removalReport name .removed
  tells _ := EntryCommands.removalReport name .failed

/-- A regular file or a link is removed. -/
def removeFile (name : Text) : Turn where
  action := do
    let path := session.resolve name
    let files ← get
    if !(files.isFile host path || files.isLink host path) then
      return "Failed to remove file: " ++ name ++ "\n"
    Disk.removeEntry host path
    return "File removed: " ++ name ++ "\n"
  tells _ := "Failed to remove file: " ++ name ++ "\n"

/-- What is there is removed with all that is below it. -/
def removeTree (name : Text) : Turn where
  action := do
    let path := session.resolve name
    if !(← get).hasEntry host path then return "Directory not found: " ++ name ++ "\n"
    Disk.removeTree host path
    return "Removed directory and its contents: " ++ name ++ "\n"
  tells _ := "Failed to remove directory: " ++ name ++ "\n"

/-- A file is created unless something is there already. -/
def createFile (name : Text) : Turn where
  action := do
    let path := session.resolve name
    if (← get).hasEntry host path then return EntryCommands.creationReport name .alreadyExists
    Disk.createFile host path
    return EntryCommands.creationReport name .created
  tells
    | .system .taken _ => EntryCommands.creationReport name .alreadyExists
    | _ => EntryCommands.creationReport name .failed

/-- A source is copied or moved. -/
def transfer (command : TransferCommand) (destination source : Text) : Turn where
  action := do
    let _ ← command.action host (session.resolve source) (session.resolve destination)
    return command.success destination source
  tells := command.failure source

/-- The content of a file is shown. -/
def showFile (name : Text) : Turn where
  action := return (← Disk.readText host (session.resolve name)).asLines
  tells fault :=
    if fault.isNotFound then "File not found: " ++ name ++ "\n"
    else "Error reading file: " ++ fault.message ++ "\n"

/-- Text is written to a file. -/
def write (mode : WriteMode) (target content : Text) : Turn where
  action := do
    Disk.writeText host mode (session.resolve target) content
    return mode.successStatus target
  tells := mode.failureStatus

end Commands

/-! ### What reports come to -/

/-- A report takes a turn, as seen from the session, and does nothing else. -/
def Reports (turn : Session → Turn) (report : Shell Text) : Prop :=
  ∀ world, Ends report world
    (fun line after => (turn world.session).Taken line world.files after.files ∧
      after = { world with files := after.files })
    fun _ _ => True

/-- A report takes a turn if it gives whatever line the turn comes to, and tells each fault. -/
theorem reports_of_action {turn : Session → Turn} {report : Shell Text}
    (hreport : ∀ (world : World) (taken : Text → FileSystem → Prop),
      Ends (turn world.session).action world.files taken
        (fun fault after => taken ((turn world.session).tells fault) after) →
      Ends report world
        (fun line after => taken line after.files ∧ after = { world with files := after.files })
        fun _ _ => True) :
    Reports turn report := by
  intro world
  apply hreport
  unfold Ends
  cases hrun : (turn world.session).action world.files with
  | ok line after => exact .done hrun
  | error fault after => exact .faulted hrun

/-- An attempt gives the fault of an action, but fails with that of a null character. -/
theorem ends_attempt_of {A : Type} {action : Disk A} {files : FileSystem}
    {done : Except Fault A → FileSystem → Prop} {failed : Fault → FileSystem → Prop}
    (haction : Ends action files (fun value after => done (.ok value) after)
      fun fault after => done (.error fault) after ∧ (fault = .nullByte → failed fault after)) :
    Ends (Disk.attempt action) files done failed := by
  rw [Disk.ends_attempt]
  apply haction.mono (fun _ _ h => h)
  rintro fault after ⟨hdone, hfailed⟩
  split <;> rename_i hnull
  · exact hnull ▸ hfailed hnull
  · exact hdone

/-- What follows the failure of an action has to follow the fault of a null character too. -/
theorem ends_succeeds_of {action : Disk Unit} {files : FileSystem}
    {done : Bool → FileSystem → Prop}
    (haction : Ends action files (fun _ after => done true after) fun _ after => done false after) :
    Ends (Disk.succeeds action) files done fun _ after => done false after := by
  rw [Disk.succeeds, ends_bind]
  apply ends_attempt_of
  exact haction.mono (fun _ _ h => h) fun _ _ h => ⟨h, fun _ => h⟩

/-- An operation at the files gives its fault, if the command is not broken off. -/
theorem ends_onFiles_of {A : Type} {action : Disk A} {world : World}
    {done : Except Fault A → World → Prop}
    (haction : Ends action world.files (fun value files => done (.ok value) { world with files })
      fun fault files => done (.error fault) { world with files }) :
    Ends (Shell.onFiles action) world done fun _ _ => True := by
  rw [Shell.ends_onFiles]
  apply haction.mono (fun _ _ h => h)
  intro fault files hdone
  split
  · trivial
  split
  · trivial
  · exact hdone

theorem ends_onFilesOr_of {A : Type} {default : A} {action : Disk A} {world : World}
    {done : A → World → Prop}
    (haction : Ends action world.files (fun value files => done value { world with files })
      fun _ files => done default { world with files }) :
    Ends (Shell.onFilesOr default action) world done fun _ _ => True := by
  simp only [Shell.onFilesOr, ends_bind]
  exact ends_onFiles_of haction

variable (setup : Setup)

theorem reports_makeDirectory (name : Text) :
    Reports (makeDirectory setup.host · name) (EntryCommands.makeDirectory setup name) := by
  refine reports_of_action fun world taken haction => ?_
  simp only [makeDirectory, ends_bind, ends_pure] at haction
  simp only [EntryCommands.makeDirectory, ends_bind, Shell.ends_session]
  apply ends_onFilesOr_of
  exact ends_succeeds_of (haction.mono (fun _ _ h => ⟨h, rfl⟩) fun _ _ h => ⟨h, rfl⟩)

theorem reports_removeDirectory (name : Text) :
    Reports (removeDirectory setup.host · name) (EntryCommands.removeDirectory setup name) := by
  refine reports_of_action fun world taken haction => ?_
  simp only [removeDirectory, ends_bind, ends_get] at haction
  simp only [EntryCommands.removeDirectory, ends_bind, Shell.ends_session, ends_pure]
  apply ends_onFilesOr_of
  simp only [Disk.tryRemoveDirectory, ends_bind, ends_get]
  split <;> rename_i hdirectory
  · rw [if_pos hdirectory] at haction
    exact ⟨haction, trivial⟩
  rw [if_neg hdirectory, ends_bind] at haction
  rw [ends_bind]
  apply ends_attempt_of
  apply haction.mono
  · intro names after h
    cases names with
    | nil =>
        rw [if_neg (by simp), ends_bind] at h
        simp only [ends_bind]
        exact ends_succeeds_of (h.mono (fun _ _ h => ⟨h, trivial⟩) fun _ _ h => ⟨h, trivial⟩)
    | cons => exact ⟨h, trivial⟩
  · exact fun _ _ h => ⟨⟨h, trivial⟩, fun _ => ⟨h, trivial⟩⟩

theorem reports_removeFile (name : Text) :
    Reports (removeFile setup.host · name) (EntryCommands.removeFile setup name) := by
  refine reports_of_action fun world taken haction => ?_
  simp only [removeFile, ends_bind, ends_get] at haction
  simp only [EntryCommands.removeFile, ends_bind, Shell.ends_session]
  apply ends_onFilesOr_of
  simp only [Disk.tryRemoveFile, ends_bind, ends_get]
  split <;> rename_i hfile
  · rw [if_neg (by rw [hfile]; decide), ends_bind] at haction
    exact ends_succeeds_of (haction.mono (fun _ _ h => ⟨h, rfl⟩) fun _ _ h => ⟨h, rfl⟩)
  · rw [if_pos (by rw [Bool.not_eq_true] at hfile; rw [hfile]; decide)] at haction
    exact ⟨haction, rfl⟩

theorem reports_removeTree (name : Text) :
    Reports (removeTree setup.host · name) (EntryCommands.removeTree setup name) := by
  refine reports_of_action fun world taken haction => ?_
  simp only [removeTree, ends_bind, ends_get] at haction
  simp only [EntryCommands.removeTree, ends_bind, Shell.ends_session, Shell.ends_inspect]
  split <;> rename_i hentry
  · rw [if_pos hentry] at haction
    exact ⟨haction, rfl⟩
  rw [if_neg hentry, ends_bind] at haction
  rw [ends_bind]
  apply ends_onFilesOr_of
  simp only [Disk.tryRemoveTree, ends_bind, ends_get]
  rw [if_pos (by simpa using hentry)]
  exact ends_succeeds_of (haction.mono (fun _ _ h => ⟨h, rfl⟩) fun _ _ h => ⟨h, rfl⟩)

theorem reports_createFile (name : Text) :
    Reports (createFile setup.host · name) (EntryCommands.createFile setup name) := by
  refine reports_of_action fun world taken haction => ?_
  simp only [createFile, ends_bind, ends_get] at haction
  simp only [EntryCommands.createFile, ends_bind, Shell.ends_session, ends_pure]
  apply ends_onFilesOr_of
  simp only [Disk.tryCreateFile, ends_bind, ends_get]
  split <;> rename_i hentry
  · rw [if_pos hentry] at haction
    exact ⟨haction, trivial⟩
  rw [if_neg hentry, ends_bind] at haction
  rw [ends_bind]
  apply ends_attempt_of
  apply haction.mono
  · exact fun _ _ h => ⟨h, trivial⟩
  · intro fault after h
    refine ⟨?_, fun hnull => ?_⟩
    · split at h
      · exact ⟨h, trivial⟩
      · rename_i hother
        split <;> rename_i heq
        · cases heq
        · cases heq
          exact absurd rfl (hother _)
        · exact ⟨h, trivial⟩
    · subst hnull
      exact ⟨h, trivial⟩

theorem reports_transfer (command : TransferCommand) (destination source : Text) :
    Reports (transfer setup.host · command destination source)
      (command.report setup destination source) := by
  refine reports_of_action fun world taken haction => ?_
  simp only [transfer, ends_bind, ends_pure] at haction
  rw [TransferCommand.report_eq]
  simp only [ends_bind, Shell.ends_session]
  apply ends_onFiles_of
  apply haction.mono
  · exact fun _ _ h => ⟨h, rfl⟩
  · intro fault after h
    dsimp only
    rw [← apply_ite pure]
    exact ⟨h, rfl⟩

theorem reports_showFile (name : Text) :
    Reports (showFile setup.host · name) (ContentCommands.showFile setup name) := by
  refine reports_of_action fun world taken haction => ?_
  simp only [showFile, ends_bind, ends_pure] at haction
  simp only [ContentCommands.showFile, ends_bind, Shell.ends_session]
  apply ends_onFiles_of
  apply haction.mono
  · exact fun _ _ h => ⟨h, rfl⟩
  · intro fault after h
    dsimp only
    rw [← apply_ite pure]
    exact ⟨h, rfl⟩

theorem reports_writeTo (mode : WriteMode) (target content : Text) :
    Reports (write setup.host · mode target content) (Shell.writeTo setup mode target content) := by
  refine reports_of_action fun world taken haction => ?_
  simp only [write, ends_bind, ends_pure] at haction
  simp only [Shell.writeTo, ends_bind, Shell.ends_session]
  apply ends_onFiles_of
  exact haction.mono (fun _ _ h => ⟨h, rfl⟩) fun _ _ h => ⟨h, rfl⟩

/-- Reports one after the other take one turn after the other. -/
theorem ends_forEach {turn : Session → Text → Turn} {report : Text → Shell Text}
    {arguments : List Text} (hreport : ∀ argument, Reports (turn · argument) (report argument))
    (world : World) :
    Ends (EntryCommands.forEach report arguments) world
      (fun text after => ∃ lines, text = lines.flatten ∧
        AllTaken (arguments.map (turn world.session)) lines world.files after.files ∧
        after = { world with files := after.files })
      fun _ _ => True := by
  induction arguments generalizing world with
  | nil => exact ⟨[], rfl, .nil _, rfl⟩
  | cons argument rest ih =>
      simp only [EntryCommands.forEach, ends_bind, ends_pure]
      apply (hreport argument world).mono_done
      rintro line middle ⟨hturn, hmiddle⟩
      have hsession : middle.session = world.session := by rw [hmiddle]
      apply (ih middle).mono_done
      rintro _ after ⟨lines, rfl, hlines, hafter⟩
      rw [hsession] at hlines
      refine ⟨line :: lines, rfl, .cons hturn hlines, ?_⟩
      rw [hafter, hmiddle]

end Turn

end LineShell
