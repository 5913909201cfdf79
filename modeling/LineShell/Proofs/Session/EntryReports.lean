import LineShell.Command.Entries
import LineShell.Proofs.FileSystem.SingleEntries
import LineShell.Proofs.FileSystem.WellFormed
import LineShell.Proofs.Path.Sound
import LineShell.Proofs.Session.OnFiles

/-!
# Reports on single entries

`mkdir`, `rmdir`, `rm` and `touch` take their arguments one by one and give a line for each.  The
line of success says that the entry was made or removed and nothing else was changed; any other line
says that nothing was changed.
-/

namespace LineShell

namespace EntryCommand

/-- What a command is called. -/
def name : EntryCommand → Text
  | .makeDirectory => "mkdir"
  | .removeDirectory => "rmdir"
  | .removeFile => "rm"
  | .createFile => "touch"

/-- The line of success for an argument. -/
def success (command : EntryCommand) (argument : Text) : Text :=
  match command with
  | .makeDirectory => "Directory created: " ++ argument ++ "\n"
  | .removeDirectory => argument ++ " Directory removed.\n"
  | .removeFile => "File removed: " ++ argument ++ "\n"
  | .createFile => "File created: " ++ argument ++ "\n"

/-- The lines of failure for an argument. -/
def failures (command : EntryCommand) (argument : Text) : List Text :=
  match command with
  | .makeDirectory => ["Failed to create directory: " ++ argument ++ "\n"]
  | .removeDirectory =>
      [argument ++ " directory not found.\n", argument ++ " Directory is not empty.\n",
        "Error removing directory: " ++ argument ++ "\n"]
  | .removeFile => ["Failed to remove file: " ++ argument ++ "\n"]
  | .createFile =>
      ["File already exists: " ++ argument ++ "\n", "Failed to create file: " ++ argument ++ "\n"]

/-- The line of success is the shortest one, which tells it from the lines of failure. -/
theorem length_success_lt (command : EntryCommand) {argument line : Text}
    (hline : line ∈ command.failures argument) :
    (command.success argument).length < line.length := by
  cases command with
  | makeDirectory =>
      unfold failures at hline
      obtain rfl := List.mem_singleton.mp hline
      unfold success
      simp
  | removeDirectory =>
      unfold failures at hline
      unfold success
      simp only [List.mem_cons, List.not_mem_nil, or_false] at hline
      rcases hline with rfl | rfl | rfl
      · simp
      · simp
      · simp
  | removeFile =>
      unfold failures at hline
      obtain rfl := List.mem_singleton.mp hline
      unfold success
      simp
  | createFile =>
      unfold failures at hline
      unfold success
      simp only [List.mem_cons, List.not_mem_nil, or_false] at hline
      rcases hline with rfl | rfl
      · simp
      · simp

theorem ne_success_of_mem_failures (command : EntryCommand) {argument line : Text}
    (hline : line ∈ command.failures argument) : line ≠ command.success argument := by
  rintro rfl
  exact Nat.lt_irrefl _ (command.length_success_lt hline)

/-! ### Steps and their lines -/

/-- One argument was answered with a line.  It is the one of success if and only if the step changed
the file system, which is then by the one entry that the argument names. -/
structure Step (command : EntryCommand) (host : Host) (session : Session) (argument line : Text)
    (before after : FileSystem) : Prop where
  told : line = command.success argument ∨ line ∈ command.failures argument
  changed : line = command.success argument ↔ after ≠ before
  done : after ≠ before → ∃ place, command.Done host (session.resolve argument) place before after

/-- The arguments were answered one after the other, each with one line. -/
inductive Reported (command : EntryCommand) (host : Host) (session : Session) :
    List Text → List Text → FileSystem → FileSystem → Prop where
  | nil (files : FileSystem) : Reported command host session [] [] files files
  | cons {argument line : Text} {rest lines : List Text} {before middle after : FileSystem}
      (hstep : command.Step host session argument line before middle)
      (hrest : Reported command host session rest lines middle after) :
      Reported command host session (argument :: rest) (line :: lines) before after

variable {command : EntryCommand} {host : Host} {session : Session}

theorem Reported.length_eq {arguments lines : List Text} {before after : FileSystem}
    (h : command.Reported host session arguments lines before after) :
    lines.length = arguments.length := by
  induction h with
  | nil => rfl
  | cons _ _ ih => rw [List.length_cons, List.length_cons, ih]

/-- What stands anywhere stays, if a command only makes entries. -/
theorem Reported.kept {arguments lines : List Text} {before after : FileSystem}
    (h : command.Reported host session arguments lines before after)
    (hmakes : command.leaves.isSome = true) {place : Place} {kind : Kind}
    (hkind : before.kind? place = some kind) : after.kind? place = some kind := by
  induction h with
  | nil => exact hkind
  | @cons _ _ _ _ before middle _ hstep _ ih =>
      apply ih
      by_cases hsame : middle = before
      · rwa [hsame]
      · obtain ⟨entry, hdone⟩ := hstep.done hsame
        have hnone : before.kind? entry = none := by
          have happlies := hdone.applies
          cases command with
          | makeDirectory | createFile => exact happlies
          | removeDirectory | removeFile => cases hmakes
        rw [hdone.kinds, if_neg, hkind]
        rintro rfl
        rw [hnone] at hkind
        cases hkind

/-- The report of a command on one argument. -/
def report (command : EntryCommand) (setup : Setup) : Text → Shell Text :=
  match command with
  | .makeDirectory => EntryCommands.makeDirectory setup
  | .removeDirectory => EntryCommands.removeDirectory setup
  | .removeFile => EntryCommands.removeFile setup
  | .createFile => EntryCommands.createFile setup

variable {setup : Setup} {world : World} {argument line : Text} {files : FileSystem}

theorem Step.of_done {place : Place} {after : FileSystem}
    (hdone : command.Done host (session.resolve argument) place files after) :
    command.Step host session argument (command.success argument) files after where
  told := .inl rfl
  changed := iff_of_true rfl hdone.ne
  done := fun _ => ⟨place, hdone⟩

theorem Step.of_failed (hline : line ∈ command.failures argument) :
    command.Step host session argument line files files where
  told := .inr hline
  changed := iff_of_false (command.ne_success_of_mem_failures hline) fun h => h rfl
  done := fun h => absurd rfl h

/-- A command answers each argument with a line that tells what it did. -/
theorem completes_report (command : EntryCommand) (setup : Setup)
    (hfiles : world.files.Valid setup.host) (hdirectory : world.session.directory.hasNull = false)
    (hargument : argument.hasNull = false) :
    Completes (command.report setup argument) world fun line after =>
      after = { world with files := after.files } ∧ after.files.Valid setup.host ∧
        command.Step setup.host world.session argument line world.files after.files := by
  have hnull : (world.session.resolve argument).hasNull = false :=
    Path.hasNull_join hdirectory hargument
  cases command with
  | makeDirectory =>
      unfold report EntryCommands.makeDirectory
      simp only [Completes, ends_bind, Shell.ends_session, Shell.ends_onFilesOr]
      apply (Disk.completes_tryMakeDirectory hfiles hnull).ends
      rintro success after (⟨rfl, place, hdone⟩ | ⟨rfl, rfl⟩)
      · exact ⟨rfl, hdone.valid, .of_done hdone⟩
      · exact ⟨rfl, hfiles, .of_failed (List.mem_singleton.mpr rfl)⟩
  | removeDirectory =>
      unfold report EntryCommands.removeDirectory
      simp only [Completes, ends_bind, Shell.ends_session, Shell.ends_onFilesOr, ends_pure]
      apply (Disk.completes_tryRemoveDirectory hfiles hnull).ends
      rintro removal after (⟨rfl, place, hdone⟩ | ⟨hremoval, rfl⟩)
      · exact ⟨trivial, hdone.valid, .of_done hdone⟩
      · refine ⟨trivial, hfiles, .of_failed ?_⟩
        cases removal with
        | removed => exact absurd rfl hremoval
        | notFound => exact List.mem_cons_self
        | notEmpty => exact List.mem_cons_of_mem _ List.mem_cons_self
        | failed => exact List.mem_cons_of_mem _ (List.mem_cons_of_mem _ List.mem_cons_self)
  | removeFile =>
      unfold report EntryCommands.removeFile
      simp only [Completes, ends_bind, Shell.ends_session, Shell.ends_onFilesOr]
      apply (Disk.completes_tryRemoveFile hfiles hnull).ends
      rintro success after (⟨rfl, place, hdone⟩ | ⟨rfl, rfl⟩)
      · exact ⟨rfl, hdone.valid, .of_done hdone⟩
      · exact ⟨rfl, hfiles, .of_failed (List.mem_singleton.mpr rfl)⟩
  | createFile =>
      unfold report EntryCommands.createFile
      simp only [Completes, ends_bind, Shell.ends_session, Shell.ends_onFilesOr, ends_pure]
      apply (Disk.completes_tryCreateFile hfiles hnull).ends
      rintro creation after (⟨rfl, place, hdone⟩ | ⟨hcreation, rfl⟩)
      · exact ⟨trivial, hdone.valid, .of_done hdone⟩
      · refine ⟨trivial, hfiles, .of_failed ?_⟩
        cases creation with
        | created => exact absurd rfl hcreation
        | alreadyExists => exact List.mem_cons_self
        | failed => exact List.mem_cons_of_mem _ List.mem_cons_self

/-- The arguments are answered one after the other, each from where the one before left off. -/
theorem completes_forEach (command : EntryCommand) (setup : Setup) {arguments : List Text}
    (hfiles : world.files.Valid setup.host) (hdirectory : world.session.directory.hasNull = false)
    (harguments : ∀ argument ∈ arguments, argument.hasNull = false) :
    Completes (EntryCommands.forEach (command.report setup) arguments) world fun text after =>
      after = { world with files := after.files } ∧ ∃ lines, text = lines.flatten ∧
        command.Reported setup.host world.session arguments lines world.files after.files := by
  induction arguments generalizing world with
  | nil => exact ⟨rfl, [], rfl, .nil _⟩
  | cons argument rest ih =>
      obtain ⟨hargument, hrest⟩ := List.forall_mem_cons.mp harguments
      simp only [Completes, EntryCommands.forEach, ends_bind, ends_pure]
      apply (command.completes_report setup hfiles hdirectory hargument).ends
      rintro line middle ⟨hmiddle, hvalid, hstep⟩
      have hsession : middle.session = world.session := by rw [hmiddle]
      apply (ih hvalid (hsession ▸ hdirectory) hrest).ends
      rintro _ after ⟨hafter, lines, rfl, hreported⟩
      rw [hsession] at hreported
      refine ⟨?_, line :: lines, rfl, .cons hstep hreported⟩
      rw [hafter, hmiddle]

end EntryCommand

namespace EntryCommands

theorem remove_of_not_recursive (setup : Setup) {arguments : List Text}
    (hrecursive : arguments.head? ≠ some ("-r" : Text)) :
    ∃ usage, remove setup arguments = forEachOrUsage usage (removeFile setup) arguments := by
  unfold remove
  split
  · exact absurd rfl hrecursive
  · exact ⟨_, rfl⟩

/-- A command that makes or removes single entries is run as a report on each of its arguments,
unless its first argument asks `rm` for whole trees. -/
theorem run_entryCommand (setup : Setup) (command : EntryCommand) {arguments : List Text}
    (hrecursive : command = .removeFile → arguments.head? ≠ some ("-r" : Text)) (hne : arguments ≠ [])
    (piped : Option Text) :
    run setup { name := command.name, arguments, piped } =
      do return .say (← forEach (command.report setup) arguments) := by
  have hreport : ∃ usage, run setup { name := command.name, arguments, piped } =
      forEachOrUsage usage (command.report setup) arguments := by
    cases command with
    | makeDirectory => exact ⟨_, rfl⟩
    | removeDirectory => exact ⟨_, rfl⟩
    | removeFile => exact remove_of_not_recursive setup (hrecursive rfl)
    | createFile => exact ⟨_, rfl⟩
  obtain ⟨usage, hreport⟩ := hreport
  rw [hreport, forEachOrUsage, if_neg (by simpa using hne)]

/-- Such a command answers its arguments one by one.  Each is answered with one line: the one of
success if and only if the step changed the file system, by the entry that the argument names and by
nothing else.  What stands anywhere stays if the command only makes entries. -/
theorem run_reports (setup : Setup) (command : EntryCommand) {arguments : List Text} {world : World}
    (hfiles : world.files.Valid setup.host) (hdirectory : world.session.directory.hasNull = false)
    (hne : arguments ≠ []) (harguments : ∀ argument ∈ arguments, argument.hasNull = false)
    (hrecursive : command = .removeFile → arguments.head? ≠ some ("-r" : Text)) (piped : Option Text) :
    ∃ lines last, lines.length = arguments.length ∧
      run setup { name := command.name, arguments, piped } world =
        .ok (.say lines.flatten) { world with files := last } ∧
      command.Reported setup.host world.session arguments lines world.files last ∧
      (command.leaves.isSome = true → ∀ place kind, world.files.kind? place = some kind →
        last.kind? place = some kind) := by
  obtain ⟨text, after, hrun, hafter, lines, rfl, hreported⟩ :=
    (command.completes_forEach setup hfiles hdirectory harguments).exists_ok
  refine ⟨lines, after.files, hreported.length_eq, ?_, hreported, fun hmakes place kind hkind =>
    hreported.kept hmakes hkind⟩
  rw [run_entryCommand setup command hrecursive hne, bind_of_ok hrun, ← hafter]
  rfl

section Example

/-- A session next to a named pipe, and maybe a link to it. -/
def pipedWorld (entries : Entries) : World where
  files := { top := ("p", .pipe) :: entries }
  session := { directory := "/" }
  output := []
  reader := .nothing

/-- The link is removed and the pipe that it leads to is not. -/
theorem run_reports_piped :
    (pipedWorld [("l", .link "p")]).files.Valid {} ∧
      (pipedWorld [("l", .link "p")]).session.directory.hasNull = false ∧
      (∀ argument ∈ (["l", "p"] : List Text), argument.hasNull = false) ∧
      run { host := {} } { name := "rm", arguments := ["l", "p"] } (pipedWorld [("l", .link "p")]) =
        .ok (.say "File removed: l\nFailed to remove file: p\n") (pipedWorld []) ∧
      ∃ lines, lines.flatten = ("File removed: l\nFailed to remove file: p\n" : Text) ∧
        EntryCommand.removeFile.Reported {} { directory := "/" } ["l", "p"] lines
          (pipedWorld [("l", .link "p")]).files (pipedWorld []).files := by
  have hvalid : (pipedWorld [("l", .link "p")]).files.Valid {} :=
    FileSystem.valid_of_wellFormed (Node.wellFormed_directory (by decide) (by decide)
      (List.forall_mem_cons.mpr ⟨Node.wellFormed_pipe, List.forall_mem_singleton.mpr
        (Node.wellFormed_link (by decide))⟩))
  have hdirectory : (pipedWorld [("l", .link "p")]).session.directory.hasNull = false := by decide
  have harguments : ∀ argument ∈ (["l", "p"] : List Text), argument.hasNull = false := by decide
  have hrun : run { host := {} } { name := "rm", arguments := ["l", "p"] }
      (pipedWorld [("l", .link "p")]) =
        .ok (.say "File removed: l\nFailed to remove file: p\n") (pipedWorld []) := rfl
  refine ⟨hvalid, hdirectory, harguments, hrun, ?_⟩
  obtain ⟨lines, last, -, hreply, hreported, -⟩ := run_reports { host := {} } .removeFile hvalid
    hdirectory (by decide) harguments (by decide) none
  injection hrun.symm.trans hreply with hlines hlast
  have hfiles : last = (pipedWorld []).files := by rw [hlast]
  refine ⟨lines, by simpa [Reply.say] using hlines.symm, ?_⟩
  rw [hfiles] at hreported
  exact hreported

end Example

end EntryCommands

end LineShell
