import LineShell.Command.Standard

/-!
# Commands away from the console

Most commands look at the directory of the session, do something with the files and reply.  They
write nothing by themselves, read no line, leave the session alone and have nothing to do with its
name.  What such an action keeps is shown once for all of them, from what they are made of.
-/

namespace LineShell

/-- An action that is made of steps on the files and of looks at the session but for its name. -/
inductive Quiet : {A : Type} → Shell A → Prop
  | pure {A : Type} (value : A) : Quiet (pure value)
  | throw {A : Type} (escape : Escape) : Quiet (throw escape : Shell A)
  | inspect {A : Type} (question : FileSystem → A) : Quiet (Shell.inspect question)
  | onFiles {A : Type} (action : Disk A) : Quiet (Shell.onFiles action)
  | session {A : Type} {next : Session → Shell A}
      (hname : ∀ session id, next { session with id } = next session)
      (hnext : ∀ session, Quiet (next session)) : Quiet (Shell.session >>= next)
  | bind {A B : Type} {action : Shell A} {next : A → Shell B} (haction : Quiet action)
      (hnext : ∀ value, Quiet (next value)) : Quiet (action >>= next)

theorem Quiet.ite {A : Type} {condition : Prop} [Decidable condition] {action other : Shell A}
    (haction : Quiet action) (hother : Quiet other) :
    Quiet (if condition then action else other) := by
  split
  · exact haction
  · exact hother

namespace Shell

theorem quiet_onFilesOr {A : Type} (default : A) (action : Disk A) :
    Quiet (onFilesOr default action) := by
  refine (Quiet.onFiles action).bind fun result => ?_
  split <;> exact .pure _

theorem quiet_writeTo (setup : Setup) (mode : WriteMode) (target content : Text) :
    Quiet (writeTo setup mode target content) := by
  refine Quiet.session (fun _ _ => rfl) fun _ => (Quiet.onFiles _).bind fun result => ?_
  split <;> exact .pure _

end Shell

namespace EntryCommands

theorem quiet_forEach {report : Text → Shell Text}
    (hreport : ∀ argument, Quiet (report argument)) (arguments : List Text) :
    Quiet (forEach report arguments) := by
  induction arguments with
  | nil => exact .pure _
  | cons argument rest ih => exact (hreport argument).bind fun _ => ih.bind fun _ => .pure _

theorem quiet_forEachOrUsage (usage : Text) {report : Text → Shell Text}
    (hreport : ∀ argument, Quiet (report argument)) (arguments : List Text) :
    Quiet (forEachOrUsage usage report arguments) :=
  .ite (.pure _) ((quiet_forEach hreport arguments).bind fun _ => .pure _)

theorem quiet_list (setup : Setup) (arguments : List Text) :
    Quiet (list setup arguments) := by
  unfold list
  split
  · exact .pure _
  · refine Quiet.session (fun _ _ => rfl) fun _ => (Quiet.onFiles _).bind
      fun result => ?_
    split <;> exact .pure _

theorem quiet_makeDirectory (setup : Setup) (name : Text) :
    Quiet (makeDirectory setup name) :=
  Quiet.session (fun _ _ => rfl) fun _ => (Shell.quiet_onFilesOr _ _).bind fun _ =>
    .ite (.pure _) (.pure _)

theorem quiet_removeDirectory (setup : Setup) (name : Text) :
    Quiet (removeDirectory setup name) :=
  Quiet.session (fun _ _ => rfl) fun _ => (Shell.quiet_onFilesOr _ _).bind fun _ =>
    .pure _

theorem quiet_removeFile (setup : Setup) (name : Text) :
    Quiet (removeFile setup name) :=
  Quiet.session (fun _ _ => rfl) fun _ => (Shell.quiet_onFilesOr _ _).bind fun _ =>
    .ite (.pure _) (.pure _)

theorem quiet_removeTree (setup : Setup) (name : Text) :
    Quiet (removeTree setup name) :=
  Quiet.session (fun _ _ => rfl) fun _ => (Quiet.inspect _).bind fun _ =>
    .ite (.pure _) <| (Shell.quiet_onFilesOr _ _).bind fun _ => .ite (.pure _) (.pure _)

theorem quiet_remove (setup : Setup) (arguments : List Text) :
    Quiet (remove setup arguments) := by
  unfold remove
  split
  · exact quiet_forEachOrUsage _ (quiet_removeTree setup) _
  · exact quiet_forEachOrUsage _ (quiet_removeFile setup) _

theorem quiet_createFile (setup : Setup) (name : Text) :
    Quiet (createFile setup name) :=
  Quiet.session (fun _ _ => rfl) fun _ => (Shell.quiet_onFilesOr _ _).bind fun _ =>
    .pure _

theorem quiet_copyOne (setup : Setup) (destination source : Text) :
    Quiet (copyOne setup destination source) := by
  refine Quiet.session (fun _ _ => rfl) fun _ => (Quiet.onFiles _).bind
    fun result => ?_
  split
  · exact .pure _
  · exact .ite (.pure _) (.pure _)

theorem quiet_moveOne (setup : Setup) (destination source : Text) :
    Quiet (moveOne setup destination source) := by
  refine Quiet.session (fun _ _ => rfl) fun _ => (Quiet.onFiles _).bind
    fun result => ?_
  split
  · exact .pure _
  · exact .ite (.pure _) (.pure _)

theorem quiet_copy (setup : Setup) (arguments : List Text) :
    Quiet (copy setup arguments) := by
  unfold copy
  split
  · exact .pure _
  · exact .pure _
  · exact (quiet_copyOne setup _ _).bind fun _ => .pure _
  · exact Quiet.session (fun _ _ => rfl) fun _ => (Quiet.inspect _).bind fun _ =>
      .ite (.pure _) <| (Quiet.inspect _).bind fun _ =>
      .ite (.pure _) <| (quiet_forEach (quiet_copyOne setup _) _).bind fun _ => .pure _

theorem quiet_move (setup : Setup) (arguments : List Text) :
    Quiet (move setup arguments) := by
  unfold move
  split
  · exact .pure _
  · exact .pure _
  · exact (quiet_moveOne setup _ _).bind fun _ => .pure _
  · exact Quiet.session (fun _ _ => rfl) fun _ => (Quiet.inspect _).bind fun _ =>
      .ite (.pure _) <| (quiet_forEach (quiet_moveOne setup _) _).bind fun _ => .pure _

theorem quiet_run (setup : Setup) (invocation : Invocation) :
    Quiet (run setup invocation) :=
  .ite (quiet_list setup _) <|
  .ite (quiet_forEachOrUsage _ (quiet_makeDirectory setup) _) <|
  .ite (quiet_forEachOrUsage _ (quiet_removeDirectory setup) _) <|
  .ite (quiet_remove setup _) <|
  .ite (quiet_forEachOrUsage _ (quiet_createFile setup) _) <|
  .ite (quiet_copy setup _) <|
  .ite (quiet_move setup _) (.throw _)

end EntryCommands

namespace ContentCommands

theorem quiet_showFile (setup : Setup) (name : Text) :
    Quiet (showFile setup name) := by
  refine Quiet.session (fun _ _ => rfl) fun _ => (Quiet.onFiles _).bind
    fun result => ?_
  split
  · exact .pure _
  · exact .ite (.pure _) (.pure _)

theorem quiet_showFiles (setup : Setup) (names : List Text) :
    Quiet (showFiles setup names) := by
  induction names with
  | nil => exact .pure _
  | cons name rest ih => exact (quiet_showFile setup name).bind fun _ => ih.bind fun _ => .pure _

/-- A `cat` captures text only where it is bare and gets none. -/
theorem quiet_cat (setup : Setup) {arguments : List Text} {piped : Option Text}
    (hcall : ¬ (arguments = [] ∧ piped = none)) : Quiet (cat setup arguments piped) := by
  cases arguments with
  | cons name names => exact (quiet_showFiles setup (name :: names)).bind fun _ => .pure _
  | nil =>
      cases piped with
      | some text => exact .pure _
      | none => exact absurd ⟨rfl, rfl⟩ hcall

theorem quiet_overwrite (setup : Setup) (arguments : List Text) :
    Quiet (overwrite setup arguments) := by
  unfold overwrite
  split
  · exact (Shell.quiet_writeTo setup _ _ _).bind fun _ => .pure _
  · exact .pure _

theorem quiet_append (setup : Setup) (arguments : List Text) (piped : Option Text) :
    Quiet (append setup arguments piped) := by
  unfold append
  split
  · exact (Shell.quiet_writeTo setup _ _ _).bind fun _ => .pure _
  · exact .pure _

end ContentCommands

theorem Navigation.quiet_tellDirectory : Quiet tellDirectory :=
  .session (fun _ _ => rfl) fun _ => .pure _

end LineShell
