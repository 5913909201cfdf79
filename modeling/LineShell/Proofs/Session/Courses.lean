import LineShell.Proofs.Session.CommandAnswers
import LineShell.Proofs.Session.Turns

/-!
# What calls come to

A call of a command is refused with a text, or it takes turns at the files, or it has nothing to do
that could go wrong.  Which of these it is, and which turns it takes, is told by its name and its
arguments; where several sources are copied or moved, the destination is looked up before.
-/

namespace LineShell

/-- What a call comes to. -/
inductive Course where
  /-- It is refused with a text, which is the reply. -/
  | refused (text : Text)
  /-- It is refused with a text that is written at once. -/
  | complained (text : Text)
  /-- It takes turns at the files. -/
  | turns (turns : List Turn)
  /-- It does nothing at the files. -/
  | free

namespace Course

/-- A call took its course from one world to another, with a reply.  The reply to turns is their
lines, one after the other. -/
inductive Taken : Course → World → Reply → World → Prop
  | refused (text : Text) (world : World) : Taken (.refused text) world (.say text) world
  | complained (text : Text) (world : World) :
      Taken (.complained text) world (.say []) { world with output := world.output ++ [text] }
  | turns {turns : List Turn} {lines : List Text} {world : World} {files : FileSystem}
      (hturns : Turn.AllTaken turns lines world.files files) :
      Taken (.turns turns) world (.say lines.flatten) { world with files }
  | free {world : World} (reply : Reply) {after : World} (hfiles : after.files = world.files) :
      Taken .free world reply after

theorem Taken.turn {turn : Turn} {line : Text} {world : World} {files : FileSystem}
    (hturn : turn.Taken line world.files files) :
    Taken (.turns [turn]) world (.say line) { world with files } := by
  have htaken := Taken.turns (.cons hturn (.nil _))
  rwa [List.flatten_singleton] at htaken

/-- A turn for each argument, or the usage where there is none. -/
def each (usage : Text) (turn : Text → Turn) (arguments : List Text) : Course :=
  if arguments.isEmpty then .refused usage else .turns (arguments.map turn)

section Commands

variable (host : Host) (session : Session) (files : FileSystem)

/-- A call of `cd`. -/
def ofChangeDirectory (arguments : List Text) : Course :=
  if arguments.length = 1 then .free else .complained "Usage: cd <directory>\n"

/-- A call of `ls`. -/
def ofList (arguments : List Text) : Course :=
  match EntryCommands.ListOptions.of? arguments with
  | none => .refused "Usage: ls [-a] [-r]\n"
  | some options => .turns [.list host session options]

/-- A call of `rm`. -/
def ofRemove (arguments : List Text) : Course :=
  let usage : Text := "Usage: rm [-r] <file/directory>\n"
  match arguments with
  | ['-', 'r'] :: names => each usage (.removeTree host session) names
  | names => each usage (.removeFile host session) names

/-- A call of `cp`. -/
def ofCopy (arguments : List Text) : Course :=
  match arguments with
  | [] | [_] => .refused "Usage: cp <source_file(s)> <destination>\n"
  | [source, destination] => .turns [.transfer host session .copy destination source]
  | _ =>
      let destination := arguments.getLastD []
      if !files.hasEntry host (session.resolve destination) then
        .refused ("Destination directory does not exist: " ++ destination ++ "\n")
      else if !files.isDirectory host (session.resolve destination) then
        .refused "Destination must be a directory when copying multiple files\n"
      else .turns (arguments.dropLast.map (.transfer host session .copy destination))

/-- A call of `mv`. -/
def ofMove (arguments : List Text) : Course :=
  match arguments with
  | [] | [_] => .refused "Usage: mv <source(s)> <destination>\n"
  | [source, destination] => .turns [.transfer host session .move destination source]
  | _ =>
      let destination := arguments.getLastD []
      if !files.isDirectory host (session.resolve destination) then
        .refused "Destination must be a directory when moving multiple files\n"
      else .turns (arguments.dropLast.map (.transfer host session .move destination))

/-- A call of `cat`. -/
def ofCat (arguments : List Text) : Course :=
  if arguments.isEmpty then .free else .turns (arguments.map (.showFile host session))

/-- A call of `>`. -/
def ofOverwrite (arguments : List Text) : Course :=
  match arguments with
  | target :: word :: words =>
      .turns [.write host session .overwrite target (Text.joinWith " " (word :: words))]
  | _ => .refused "Usage: > <file_name> <text_to_write>\n"

/-- A call of `>>`. -/
def ofAppend (arguments : List Text) (piped : Option Text) : Course :=
  match arguments with
  | target :: words =>
      .turns [.write host session .append target (piped.getD (Text.joinWith " " words))]
  | [] => .refused "Usage: >> <file_name> [<text_to_append>]\n"

/-- The courses of the standard commands with these arguments, by name. -/
def table (arguments : List Text) (piped : Option Text) : List (Text × Course) :=
  [ ("pwd", .free),
    ("cd", ofChangeDirectory arguments),
    ("ls", ofList host session arguments),
    ("mkdir", each "Usage: mkdir <directory_name1> [<directory_name2> ...]\n"
      (.makeDirectory host session) arguments),
    ("rmdir", each "Usage: rmdir <directory_name1> [<directory_name2> ...]\n"
      (.removeDirectory host session) arguments),
    ("rm", ofRemove host session arguments),
    ("touch", each "Usage: touch <filename> [<filename2> ...]\n"
      (.createFile host session) arguments),
    ("cp", ofCopy host session files arguments),
    ("mv", ofMove host session files arguments),
    ("cat", ofCat host session arguments),
    (">", ofOverwrite host session arguments),
    (">>", ofAppend host session arguments piped),
    ("help", .free),
    ("exit", .free) ]

/-- The course of a call.  Letter case does not matter; a name that is not in the table is not
known.
-/
def ofCall (invocation : Invocation) : Course :=
  ((table host session files invocation.arguments invocation.piped).lookup
      invocation.name.lower).getD
    (.refused ("Unknown command: " ++ invocation.name ++
      ". Type 'help' for a list of commands.\n"))

end Commands

/-! ### Commands take their course -/

/-- An action takes a course, as seen from the world that it starts in. -/
def Follows (course : World → Course) (action : Shell Reply) : Prop :=
  ∀ world, Ends action world (fun reply after => (course world).Taken world reply after)
    fun _ _ => True

variable (setup : Setup)

theorem follows_pure (text : Text) : Follows (fun _ => .refused text) (pure (.say text)) :=
  fun world => .refused text world

theorem follows_report {turn : Session → Turn} {report : Shell Text}
    (hreport : Turn.Reports turn report) :
    Follows (fun world => .turns [turn world.session]) (do return .say (← report)) := by
  intro world
  simp only [ends_bind, ends_pure]
  apply (hreport world).mono_done
  rintro line after ⟨hturn, hafter⟩
  rw [hafter]
  exact .turn hturn

theorem follows_forEach {turn : Session → Text → Turn} {report : Text → Shell Text}
    (hreport : ∀ argument, Turn.Reports (turn · argument) (report argument))
    (arguments : List Text) :
    Follows (fun world => .turns (arguments.map (turn world.session)))
      (do return .say (← EntryCommands.forEach report arguments)) := by
  intro world
  simp only [ends_bind, ends_pure]
  apply (Turn.ends_forEach hreport world).mono_done
  rintro _ after ⟨lines, rfl, hturns, hafter⟩
  rw [hafter]
  exact .turns hturns

theorem follows_forEachOrUsage (usage : Text) {turn : Session → Text → Turn}
    {report : Text → Shell Text}
    (hreport : ∀ argument, Turn.Reports (turn · argument) (report argument))
    (arguments : List Text) :
    Follows (fun world => each usage (turn world.session) arguments)
      (EntryCommands.forEachOrUsage usage report arguments) := by
  intro world
  unfold EntryCommands.forEachOrUsage each
  split
  · exact .refused usage world
  · exact follows_forEach hreport arguments world

/-- Going to a directory leaves the files alone. -/
theorem ends_goTo (path : Text) (world : World) :
    Ends (Navigation.goTo setup path) world (fun _ after => after.files = world.files)
      fun _ _ => True := by
  unfold Navigation.goTo
  simp only [ends_bind, Shell.ends_session]
  split
  · exact rfl
  split
  · exact rfl
  simp only [ends_bind, Shell.ends_inspect]
  split
  · simp only [Shell.absolute, ends_bind, ends_get]
    split
    · exact rfl
    · trivial
  · exact rfl

theorem follows_changeDirectory (arguments : List Text) :
    Follows (fun _ => ofChangeDirectory arguments)
      (Navigation.changeDirectory setup arguments) := by
  intro world
  unfold Navigation.changeDirectory ofChangeDirectory
  split
  · rename_i path
    simp only [List.length_singleton, if_true, ends_bind]
    apply (ends_goTo setup path world).mono_done
    intro _ after hfiles
    exact .free _ hfiles
  · rename_i harguments
    have hlength : arguments.length ≠ 1 := fun hlength => by
      obtain ⟨path, rfl⟩ := List.length_eq_one_iff.mp hlength
      exact harguments path rfl
    simp only [if_neg hlength]
    exact .complained _ world

theorem follows_list (arguments : List Text) :
    Follows (fun world => ofList setup.host world.session arguments)
      (EntryCommands.list setup arguments) := by
  intro world
  cases hoptions : EntryCommands.ListOptions.of? arguments with
  | none =>
      simp only [EntryCommands.list, ofList, hoptions]
      exact .refused _ world
  | some options =>
      simp only [EntryCommands.list, ofList, hoptions, ends_bind, Shell.ends_session]
      apply Turn.ends_onFiles_of
      unfold Ends
      cases hrun : Disk.listEntries setup.host world.session.directory world.files with
      | ok entries after => exact .turn (.done (bind_of_ok hrun))
      | error fault after => exact .turn (.faulted (bind_of_error hrun))

/-- Without the option the arguments of `rm` name files. -/
theorem remove_of_ne {arguments : List Text} (h : ∀ names, arguments ≠ ['-', 'r'] :: names) :
    EntryCommands.remove setup arguments =
      EntryCommands.forEachOrUsage "Usage: rm [-r] <file/directory>\n"
        (EntryCommands.removeFile setup) arguments := by
  unfold EntryCommands.remove
  dsimp only
  split
  · exact absurd rfl (h _)
  · rfl

theorem ofRemove_of_ne {host : Host} {session : Session} {arguments : List Text}
    (h : ∀ names, arguments ≠ ['-', 'r'] :: names) :
    ofRemove host session arguments =
      each "Usage: rm [-r] <file/directory>\n" (.removeFile host session) arguments := by
  unfold ofRemove
  dsimp only
  split
  · exact absurd rfl (h _)
  · rfl

theorem follows_remove (arguments : List Text) :
    Follows (fun world => ofRemove setup.host world.session arguments)
      (EntryCommands.remove setup arguments) := by
  by_cases htrees : ∃ names, arguments = ['-', 'r'] :: names
  · obtain ⟨names, rfl⟩ := htrees
    exact follows_forEachOrUsage _ (Turn.reports_removeTree setup) names
  · have hfiles : ∀ names, arguments ≠ ['-', 'r'] :: names := by simpa using htrees
    simp only [remove_of_ne setup hfiles, ofRemove_of_ne hfiles]
    exact follows_forEachOrUsage _ (Turn.reports_removeFile setup) arguments

theorem follows_copy (arguments : List Text) :
    Follows (fun world => ofCopy setup.host world.session world.files arguments)
      (EntryCommands.copy setup arguments) := by
  unfold EntryCommands.copy ofCopy
  split
  · exact follows_pure _
  · exact follows_pure _
  · exact follows_report (Turn.reports_transfer setup .copy _ _)
  · intro world
    simp only [ends_bind, Shell.ends_session, Shell.ends_inspect]
    split
    · exact .refused _ world
    simp only [ends_bind, Shell.ends_inspect]
    split
    · exact .refused _ world
    · exact follows_forEach (Turn.reports_transfer setup .copy _) _ world

theorem follows_move (arguments : List Text) :
    Follows (fun world => ofMove setup.host world.session world.files arguments)
      (EntryCommands.move setup arguments) := by
  unfold EntryCommands.move ofMove
  split
  · exact follows_pure _
  · exact follows_pure _
  · exact follows_report (Turn.reports_transfer setup .move _ _)
  · intro world
    simp only [ends_bind, Shell.ends_session, Shell.ends_inspect]
    split
    · exact .refused _ world
    · exact follows_forEach (Turn.reports_transfer setup .move _) _ world

theorem follows_showFiles (arguments : List Text) :
    Follows (fun world => .turns (arguments.map (.showFile setup.host world.session)))
      (do return .say (← ContentCommands.showFiles setup arguments)) := by
  have hsame : ContentCommands.showFiles setup arguments =
      EntryCommands.forEach (ContentCommands.showFile setup) arguments := by
    induction arguments with
    | nil => rfl
    | cons argument rest ih => rw [ContentCommands.showFiles, EntryCommands.forEach, ih]
  rw [hsame]
  exact follows_forEach (Turn.reports_showFile setup) arguments

theorem follows_cat (arguments : List Text) (piped : Option Text) :
    Follows (fun world => ofCat setup.host world.session arguments)
      (ContentCommands.cat setup arguments piped) := by
  intro world
  unfold ContentCommands.cat ofCat
  cases arguments with
  | cons argument rest => exact follows_showFiles setup (argument :: rest) world
  | nil =>
      cases piped with
      | some text => exact .free _ rfl
      | none => exact .free _ rfl

theorem follows_overwrite (arguments : List Text) :
    Follows (fun world => ofOverwrite setup.host world.session arguments)
      (ContentCommands.overwrite setup arguments) := by
  rcases arguments with - | ⟨target, - | ⟨word, words⟩⟩
  · exact follows_pure _
  · exact follows_pure _
  · exact follows_report (Turn.reports_writeTo setup .overwrite target _)

theorem follows_append (arguments : List Text) (piped : Option Text) :
    Follows (fun world => ofAppend setup.host world.session arguments piped)
      (ContentCommands.append setup arguments piped) := by
  cases arguments with
  | nil => exact follows_pure _
  | cons target words => exact follows_report (Turn.reports_writeTo setup .append target _)

/-! ### The registry -/

theorem keys_table (host : Host) (session : Session) (files : FileSystem) (arguments : List Text)
    (piped : Option Text) :
    (table host session files arguments piped).map Prod.fst = standardCommands.map (·.name) :=
  rfl

/-- The course of a call whose name is not known. -/
theorem ofCall_of_unknown {host : Host} {session : Session} {files : FileSystem}
    {invocation : Invocation}
    (hname : invocation.name.lower ∉ standardCommands.map (·.name)) :
    ofCall host session files invocation =
      .refused ("Unknown command: " ++ invocation.name ++
        ". Type 'help' for a list of commands.\n") := by
  have hlookup : (table host session files invocation.arguments invocation.piped).lookup
      invocation.name.lower = none := by
    rw [List.lookup_eq_none_iff]
    intro entry hentry
    have hne : invocation.name.lower ≠ entry.1 := fun heq =>
      hname (heq ▸ keys_table host session files _ _ ▸ List.mem_map_of_mem hentry)
    simpa using hne
  rw [ofCall, hlookup, Option.getD_none]

end Course

/-- A registry in which every call takes its course. -/
structure Registry.Steered (registry : Registry) (setup : Setup) : Prop where
  follows : ∀ invocation, Course.Follows
    (fun world => .ofCall setup.host world.session world.files invocation)
    (registry.dispatch invocation)

open Course in
theorem steered_standardRegistry (setup : Setup) : (standardRegistry setup).Steered setup := by
  refine ⟨fun invocation => ?_⟩
  obtain ⟨name, arguments, piped⟩ := invocation
  have hdispatched := dispatched setup { name, arguments, piped }
  generalize (standardRegistry setup).dispatch { name, arguments, piped } = action at hdispatched
  cases hdispatched with
  | unknown hname =>
      simp only [ofCall_of_unknown hname]
      exact follows_pure _
  | navigation hspec hname =>
      simp only [ofCall, ← hname]
      simp only [Navigation.commands, List.mem_cons, List.not_mem_nil, or_false] at hspec
      rcases hspec with rfl | rfl
      · exact fun world => .free _ rfl
      · exact follows_changeDirectory setup arguments
  | entries hspec hname =>
      simp only [ofCall, ← hname]
      simp only [EntryCommands.commands, List.mem_cons, List.not_mem_nil, or_false] at hspec
      rcases hspec with rfl | rfl | rfl | rfl | rfl | rfl | rfl
      · exact follows_list setup arguments
      · exact follows_forEachOrUsage _ (Turn.reports_makeDirectory setup) arguments
      · exact follows_forEachOrUsage _ (Turn.reports_removeDirectory setup) arguments
      · exact follows_remove setup arguments
      · exact follows_forEachOrUsage _ (Turn.reports_createFile setup) arguments
      · exact follows_copy setup arguments
      · exact follows_move setup arguments
  | content hspec hname =>
      simp only [ofCall, ← hname]
      simp only [ContentCommands.commands, List.mem_cons, List.not_mem_nil, or_false] at hspec
      rcases hspec with rfl | rfl | rfl
      · exact follows_cat setup arguments piped
      · exact follows_overwrite setup arguments
      · exact follows_append setup arguments piped
  | session hspec hname =>
      simp only [ofCall, ← hname]
      simp only [SessionCommands.commands, List.mem_cons, List.not_mem_nil, or_false] at hspec
      rcases hspec with rfl | rfl
      · exact fun world => .free _ rfl
      · exact fun world => .free _ rfl

end LineShell
