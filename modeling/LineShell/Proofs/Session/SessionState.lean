import LineShell.Proofs.Path.Normal
import LineShell.Proofs.Pipeline.Redirected
import LineShell.Proofs.Session.CommandAnswers
import LineShell.Proofs.Session.Quiet
import LineShell.Session.Interpreter
import LineShell.Settings.Basic
import Mathlib

/-!
# What a line does to its session

Of all commands only `cd` and `exit` touch the session.  So what a line does to it can be told from
the names of the stages that were executed, and this holds however the line ends.  Over a whole run
the current directory stays an absolute path in normal form, the one in which it was started being
of that form.
-/

namespace LineShell

/-! ### The stages that are executed -/

/-- The stages of a pipeline that are executed, from a reply and a world: each up to the first that
ends the session or is broken off. -/
def Pipeline.executed (registry : Registry) : List Stage → Reply → World → List Stage
  | [], _, _ => []
  | stage :: rest, reply, world =>
      stage ::
        match runStage registry stage reply.text world with
        | .ok next after => if next.terminate then [] else executed registry rest next after
        | .error _ _ => []

/-- The stages of a line that are executed in a world. -/
def Interpreter.executed (registry : Registry) (line : Text) (world : World) : List Stage :=
  match Request.parse line with
  | .ok (.pipeline pipeline) => Pipeline.executed registry pipeline.stages {} world
  | _ => []

/-- Whether a line executes a command, which may be written in any case. -/
def Interpreter.Executes (registry : Registry) (line : Text) (world : World) (name : Text) : Prop :=
  ∃ stage ∈ executed registry line world, stage.name.lower = name

/-! ### Changes of a session -/

/-- What commands of these names make of a session: only `cd` goes elsewhere, and only to normal
paths, and exactly `exit` ends the session. -/
structure Session.ChangedBy (names : List Text) (before after : Session) : Prop where
  id : after.id = before.id
  normal : Path.Normal before.directory → Path.Normal after.directory
  directory : after.directory ≠ before.directory → ("cd" : Text) ∈ names
  running : after.running = true ↔ before.running = true ∧ ("exit" : Text) ∉ names

namespace Session.ChangedBy

variable {names others : List Text} {before middle after : Session}

theorem refl (hexit : ("exit" : Text) ∉ names) (session : Session) : ChangedBy names session session :=
  ⟨rfl, fun hnormal => hnormal, fun hmoved => absurd rfl hmoved, by rw [and_iff_left hexit]⟩

theorem trans (hfirst : ChangedBy names before middle) (hnext : ChangedBy others middle after) :
    ChangedBy (names ++ others) before after := by
  refine ⟨hnext.id.trans hfirst.id, hnext.normal ∘ hfirst.normal, fun hmoved => ?_, ?_⟩
  · rw [List.mem_append]
    by_cases hsame : middle.directory = before.directory
    · exact .inr (hnext.directory (hsame ▸ hmoved))
    · exact .inl (hfirst.directory hsame)
  · rw [hnext.running, hfirst.running, List.mem_append, not_or, and_assoc]

end Session.ChangedBy

/-- An action that commands of these names stand for in a session, however it ends. -/
def Changes {A : Type} (names : List Text) (action : Shell A) : Prop :=
  ∀ world, Ends action world (fun _ after => world.session.ChangedBy names after.session)
    (fun _ after => world.session.ChangedBy names after.session)

/-- An action that leaves the session alone, however it ends. -/
abbrev Leaves {A : Type} (session : Session) (action : Shell A) : Prop :=
  Keeps (fun world : World => world.session = session) (fun _ => True) action

theorem changes_of_leaves {A : Type} {names : List Text} {action : Shell A}
    (hexit : ("exit" : Text) ∉ names) (haction : ∀ session, Leaves session action) :
    Changes names action := by
  intro world
  apply (haction world.session world rfl).mono
  · rintro _ after ⟨-, hafter⟩
    exact hafter ▸ .refl hexit _
  · rintro _ after ⟨-, hafter⟩
    exact hafter ▸ .refl hexit _

/-! ### Commands that leave the session alone -/

/-- What is quiet leaves the session alone. -/
theorem Quiet.leaves {A : Type} {action : Shell A} (haction : Quiet action) {session : Session} :
    Leaves session action := by
  induction haction with
  | pure value => exact .pure trivial
  | throw escape => exact .throw trivial
  | inspect question => exact fun _ hworld => ⟨trivial, hworld⟩
  | onFiles action =>
      intro world hworld
      unfold Ends Shell.onFiles
      cases action world.files with
      | ok value after => exact ⟨trivial, hworld⟩
      | error fault after => cases fault <;> exact ⟨trivial, hworld⟩
  | session _ _ ih => exact fun world hworld => ih world.session world hworld
  | bind _ _ ih ihnext => exact ih.bind fun value _ => ihnext value

section Leaving

variable {session : Session}

namespace Shell

theorem leaves_write (text : Text) : Leaves session (write text) :=
  fun _ hworld => ⟨trivial, hworld⟩

theorem leaves_setReader (reader : Reader) :
    Leaves session (modify fun world : World => { world with reader } : Shell Unit) :=
  fun _ hworld => ⟨trivial, hworld⟩

theorem leaves_capture (setup : Setup) (banner : Text) : Leaves session (capture setup banner) :=
  (leaves_write _).bind fun _ _ => Gives.get.bind fun _ _ =>
    (leaves_setReader _).bind fun _ _ => .pure trivial

end Shell

namespace ContentCommands

theorem leaves_cat (setup : Setup) (arguments : List Text) (piped : Option Text) :
    Leaves session (cat setup arguments piped) := by
  by_cases hbare : arguments = [] ∧ piped = none
  · obtain ⟨rfl, rfl⟩ := hbare
    exact (Shell.leaves_capture setup captureBanner).bind fun _ _ => .pure trivial
  · exact (quiet_cat setup hbare).leaves

theorem leaves_run (setup : Setup) (invocation : Invocation) :
    Leaves session (run setup invocation) :=
  .ite (fun _ => leaves_cat setup _ _) fun _ => .ite (fun _ => (quiet_overwrite setup _).leaves)
    fun _ => .ite (fun _ => (quiet_append setup _ _).leaves) fun _ => .throw trivial

end ContentCommands

end Leaving

/-! ### The two commands that do not -/

/-- Going up follows the spelling, and going anywhere else leads to a normal form. -/
theorem Navigation.changes_goTo (setup : Setup) (path : Text) :
    Changes [("cd" : Text)] (goTo setup path) := by
  intro world
  have hstays : world.session.ChangedBy [("cd" : Text)] world.session := .refl (by decide) _
  have hgoes : ∀ {directory}, (Path.Normal world.session.directory → Path.Normal directory) →
      world.session.ChangedBy [("cd" : Text)] { world.session with directory } := fun hnormal =>
    ⟨rfl, hnormal, fun _ => List.mem_singleton_self _, hstays.running⟩
  unfold goTo
  by_cases hself : path = Path.self
  · subst hself
    exact hstays
  by_cases hup : path = Path.up
  · subst hup
    exact hgoes Path.Normal.directory
  simp only [beq_eq_false_iff_ne.mpr hself, beq_eq_false_iff_ne.mpr hup, Bool.false_eq_true,
    if_false, Shell.session, Shell.inspect, Shell.absolute, ends_bind, ends_get, ends_pure]
  split
  · have hends : ∀ normal, world.files.absolute? (world.session.resolve path) = some normal →
        world.session.ChangedBy [("cd" : Text)] { world.session with directory := normal } := by
      intro normal hnormal
      refine hgoes fun hdirectory => ?_
      have hjoined : Path.isAbsolute (world.session.resolve path) = true :=
        Path.isAbsolute_join hdirectory.isAbsolute
      rw [FileSystem.absolute?_of_isAbsolute _ hjoined] at hnormal
      cases hnormal
      exact Path.normal_normalize hjoined
    simp only [ends_bind, ends_get]
    split <;> rename_i hnormal
    · exact hends _ hnormal
    · exact hstays
  · exact hstays

theorem Navigation.changes_changeDirectory (setup : Setup) (arguments : List Text) :
    Changes [("cd" : Text)] (changeDirectory setup arguments) := by
  intro world
  unfold changeDirectory
  split
  · rw [ends_bind]
    exact changes_goTo setup _ world
  · exact .refl (by decide) _

theorem SessionCommands.changes_exit : Changes [("exit" : Text)] exit := by
  intro world
  refine ⟨rfl, fun hnormal => hnormal, fun hmoved => absurd rfl hmoved, ?_⟩
  simp [Session.terminate]

/-! ### The standard commands -/

/-- A registry whose commands change the session as their names say. -/
structure Registry.Named (registry : Registry) : Prop where
  dispatch : ∀ invocation, Changes [invocation.name.lower] (registry.dispatch invocation)

/-- The name `exit` leads to the group of the commands that describe or end the session. -/
theorem find?_exit (setup : Setup) {name : Text} (hname : name.lower = "exit") :
    (standardRegistry setup).find? name = some (SessionCommands.group standardCommands) := by
  rw [Registry.find?, hname]
  cbv

theorem named_standardRegistry (setup : Setup) : (standardRegistry setup).Named := by
  refine ⟨fun invocation => ?_⟩
  have hdispatched := dispatched setup invocation
  generalize (standardRegistry setup).dispatch invocation = action at hdispatched
  cases hdispatched with
  | unknown hname =>
      apply changes_of_leaves _ fun session => .pure trivial
      intro hmem
      rw [← List.mem_singleton.mp hmem] at hname
      exact hname (by decide)
  | navigation hspec hname =>
      rw [← hname]
      simp only [Navigation.commands, List.mem_cons, List.not_mem_nil, or_false] at hspec
      rcases hspec with rfl | rfl
      · exact changes_of_leaves (by decide) fun _ => Navigation.quiet_tellDirectory.leaves
      · exact Navigation.changes_changeDirectory setup invocation.arguments
  | entries hspec hname =>
      have hothers : ∀ spec ∈ EntryCommands.commands, ("exit" : Text) ∉ [spec.name] := by decide
      rw [← hname]
      exact changes_of_leaves (hothers _ hspec) fun _ => (EntryCommands.quiet_run setup _).leaves
  | content hspec hname =>
      have hothers : ∀ spec ∈ ContentCommands.commands, ("exit" : Text) ∉ [spec.name] := by decide
      rw [← hname]
      exact changes_of_leaves (hothers _ hspec) fun _ => ContentCommands.leaves_run setup _
  | session hspec hname =>
      rw [← hname]
      simp only [SessionCommands.commands, List.mem_cons, List.not_mem_nil, or_false] at hspec
      rcases hspec with rfl | rfl
      · exact changes_of_leaves (by decide) fun _ => .pure trivial
      · exact SessionCommands.changes_exit

/-! ### Running a line -/

/-- The names of stages, as they are looked up. -/
def Stage.lowerNames (stages : List Stage) : List Text :=
  stages.map fun stage => stage.name.lower

section Running

variable {registry : Registry} (hregistry : registry.Named)
include hregistry

namespace Pipeline

theorem changes_runStage (stage : Stage) (piped : Option Text) :
    Changes [stage.name.lower] (runStage registry stage piped) := by
  unfold runStage
  split <;> rename_i hblank
  · have hname : stage.name = [] := List.isEmpty_iff.mp hblank
    rw [hname]
    exact changes_of_leaves (by decide) fun _ => .pure trivial
  · exact hregistry.dispatch { name := stage.name, arguments := stage.arguments, piped }

/-- Stages change the session as the names of those that are executed say. -/
theorem ends_runStages (stages : List Stage) (reply : Reply) (world : World) :
    let names := Stage.lowerNames (executed registry stages reply world)
    Ends (runStages registry stages reply) world
      (fun _ after => world.session.ChangedBy names after.session)
      (fun _ after => world.session.ChangedBy names after.session) := by
  induction stages generalizing reply world with
  | nil => exact .refl (by simp [Stage.lowerNames, executed]) _
  | cons stage rest ih =>
      rw [runStages, executed, ends_bind]
      apply (changes_runStage hregistry stage reply.text world).with_run.mono
      · rintro next after ⟨hstage, hrun⟩
        simp only [hrun]
        split
        · exact hstage
        · exact (ih next after).mono (fun _ _ hrest => hstage.trans hrest)
            fun _ _ hrest => hstage.trans hrest
      · rintro escape after ⟨hstage, hrun⟩
        simp only [hrun]
        exact hstage

omit hregistry in
theorem leaves_deliver (setup : Setup) {session : Session} (redirection : Option Redirection)
    (reply : Reply) : Leaves session (deliver setup redirection reply) := by
  unfold deliver
  split
  · exact (Shell.quiet_writeTo setup _ _ _).leaves.bind fun _ _ => .pure trivial
  · split
    · exact (Shell.leaves_write _).bind fun _ _ => .pure trivial
    · exact .pure trivial

end Pipeline

namespace Interpreter

omit hregistry in
theorem leaves_runHeredoc (setup : Setup) {session : Session} (target : Text) (mode : WriteMode) :
    Leaves session (runHeredoc setup target mode) :=
  (Shell.leaves_capture setup _).bind fun _ _ => (Shell.quiet_writeTo setup _ _ _).leaves.bind
    fun _ _ => (Shell.leaves_write _).bind fun _ _ => .pure trivial

/-- What follows the stages of a pipeline leaves the session to what they made of it. -/
theorem ends_perform_pipeline (setup : Setup) (pipeline : Pipeline) (world : World) :
    let names := Stage.lowerNames (Pipeline.executed registry pipeline.stages {} world)
    Ends (perform setup registry (.pipeline pipeline)) world
      (fun _ after => world.session.ChangedBy names after.session)
      (fun _ after => world.session.ChangedBy names after.session) := by
  have hstages := Pipeline.ends_runStages hregistry pipeline.stages {} world
  unfold Ends
  rw [perform_pipeline]
  cases hrun : Pipeline.runStages registry pipeline.stages {} world with
  | error escape after => exact hstages.of_error hrun
  | ok reply after =>
      have hafter := hstages.of_ok hrun
      cases hterminate : reply.terminate with
      | true => simpa only [hterminate, if_true] using hafter
      | false =>
          have hdeliver := Pipeline.leaves_deliver setup pipeline.redirection reply after rfl
          simp only [hterminate, Bool.false_eq_true, if_false]
          cases hlast : Pipeline.deliver setup pipeline.redirection reply after with
          | error escape last =>
              rw [← (hdeliver.of_error hlast).2] at hafter
              exact hafter
          | ok delivered last =>
              rw [← (hdeliver.of_ok hlast).2] at hafter
              exact hafter

/-- A line changes the session as the names of the stages that are executed say. -/
theorem ends_processLine (setup : Setup) (line : Text) (world : World) :
    let names := Stage.lowerNames (executed registry line world)
    Ends (processLine setup registry line) world
      (fun _ after => world.session.ChangedBy names after.session)
      (fun _ after => world.session.ChangedBy names after.session) := by
  have hnothing : world.session.ChangedBy (Stage.lowerNames []) world.session :=
    .refl (by simp [Stage.lowerNames]) _
  unfold processLine executed
  by_cases hblank : line.trim = []
  · simpa [Request.parse, hblank] using hnothing
  have hempty : line.trim.isEmpty = false := by simpa using hblank
  simp only [hempty, Bool.false_eq_true, if_false]
  cases hparse : Request.parse line with
  | error fault => exact hnothing
  | ok request =>
      rw [ends_bind]
      cases request with
      | heredoc target mode =>
          exact changes_of_leaves (by simp [Stage.lowerNames])
            (fun _ => leaves_runHeredoc setup target mode) world
      | pipeline pipeline => exact ends_perform_pipeline hregistry setup pipeline world

end Interpreter

end Running

/-! ### Whole runs -/

/-- One line takes a session to another state, in whatever world it is run and however it ends. -/
def Session.Steps (setup : Setup) (before after : Session) : Prop :=
  ∃ line world, world.session = before ∧
    Ends (Interpreter.processLine setup (standardRegistry setup) line) world
      (fun _ last => last.session = after) (fun _ last => last.session = after)

/-- The state of a session after any number of lines. -/
abbrev Session.Reaches (setup : Setup) : Session → Session → Prop :=
  Relation.ReflTransGen (Session.Steps setup)

/-- A line takes a session to a state that the names of some stages account for. -/
theorem Session.Steps.changedBy {setup : Setup} {before after : Session}
    (hstep : Session.Steps setup before after) : ∃ names, before.ChangedBy names after := by
  obtain ⟨line, world, rfl, hends⟩ := hstep
  have hchanged := Interpreter.ends_processLine (named_standardRegistry setup) setup line world
  cases hrun : Interpreter.processLine setup (standardRegistry setup) line world with
  | ok reply last => exact ⟨_, hends.of_ok hrun ▸ hchanged.of_ok hrun⟩
  | error escape last => exact ⟨_, hends.of_error hrun ▸ hchanged.of_error hrun⟩

theorem Session.Reaches.changedBy {setup : Setup} {start session : Session}
    (hreaches : Session.Reaches setup start session) :
    ∃ names, start.ChangedBy names session := by
  induction hreaches with
  | refl => exact ⟨[], .refl (by simp) start⟩
  | tail _ hstep ih =>
      obtain ⟨names, hbefore⟩ := ih
      obtain ⟨others, hafter⟩ := hstep.changedBy
      exact ⟨names ++ others, hbefore.trans hafter⟩

theorem FileSystem.hasNull_of_isDirectory {files : FileSystem} {host : Host} {path : Text}
    (h : files.isDirectory host path = true) : path.hasNull = false := by
  cases hnull : path.hasNull with
  | false => rfl
  | true => simp [isDirectory, target?, hnull] at h

/-- A session starts in a normal path that leads to a directory. -/
theorem Settings.of_startIn {settings : Settings} {host : Host} {files : FileSystem}
    {given : Option Text} {directory : Text}
    (hstart : settings.startIn host files given = .ok directory) :
    Path.Normal directory ∧ files.isDirectory host directory = true := by
  unfold startIn at hstart
  cases hexpanded : expandHome settings.home (orElse given settings.startDirectory) with
  | error fault => simp [hexpanded, bind, Except.bind] at hstart
  | ok expanded =>
      simp only [hexpanded, bind, Except.bind] at hstart
      split at hstart <;> rename_i habsolute
      · cases hstart
      · split at hstart <;> rename_i hdirectory
        · cases hstart
          exact ⟨FileSystem.normal_of_absolute? habsolute, hdirectory⟩
        · cases hstart

theorem Settings.sound_of_startIn {settings : Settings} {host : Host} {files : FileSystem}
    {given : Option Text} {directory : Text}
    (hstart : settings.startIn host files given = .ok directory) : Path.Sound directory :=
  ⟨(of_startIn hstart).1.isAbsolute, FileSystem.hasNull_of_isDirectory (of_startIn hstart).2⟩

/-- In every state of a session that was started in a directory of the settings, a line that
returns leaves it in an absolute path that is its own normal form; only `cd` changes the directory,
nothing makes an ended session run again, only `exit` ends it, and its id stays. -/
theorem Interpreter.processLine_session (setup : Setup) (settings : Settings) (host : Host)
    (started : FileSystem) (given : Option Text) (directory id : Text)
    (hstart : settings.startIn host started given = .ok directory) (session : Session)
    (hreaches : Session.Reaches setup { id, directory } session) (line : Text) (world : World)
    (hworld : world.session = session) :
    Ends (processLine setup (standardRegistry setup) line) world
      (fun _ after =>
        (Path.isAbsolute after.session.directory = true ∧
          ∀ files : FileSystem,
            files.absolute? after.session.directory = some after.session.directory) ∧
        (after.session.directory ≠ session.directory →
          Executes (standardRegistry setup) line world "cd") ∧
        (after.session.running = true → session.running = true) ∧
        (session.running = true → after.session.running = false →
          Executes (standardRegistry setup) line world "exit") ∧
        after.session.id = id)
      (fun _ _ => True) := by
  subst hworld
  obtain ⟨names, hbefore⟩ := hreaches.changedBy
  have hnormal := hbefore.normal (Settings.of_startIn hstart).1
  have hexecutes : ∀ {name}, name ∈ Stage.lowerNames (executed (standardRegistry setup) line world) →
      Executes (standardRegistry setup) line world name := fun hmem => List.mem_map.mp hmem
  apply (ends_processLine (named_standardRegistry setup) setup line world).mono _
    fun _ _ _ => trivial
  intro reply after hchanged
  have hafter := hchanged.normal hnormal
  refine ⟨⟨hafter.isAbsolute, fun files => ?_⟩, fun hmoved => hexecutes (hchanged.directory hmoved),
    fun hrunning => (hchanged.running.mp hrunning).1, fun hrunning hended => ?_,
    hchanged.id.trans hbefore.id⟩
  · rw [files.absolute?_of_isAbsolute hafter.isAbsolute, hafter.normalize]
  · by_contra hnone
    have hstill : after.session.running = true :=
      hchanged.running.mpr ⟨hrunning, fun hmem => hnone (hexecutes hmem)⟩
    rw [hended] at hstill
    cases hstill

section Example

/-- Settings of sessions that start at the root, spelled with two slashes. -/
def rootSettings : Settings where
  startDirectory := "//"
  sentinel := "exit"
  logLevel := "INFO"
  apiHost := "127.0.0.1"
  apiPort := 8000
  home := "/"

/-- A session that goes up from the root and ends stays at the root. -/
theorem Interpreter.processLine_session_root :
    let world := { freshWorld with session := { directory := "//" } }
    rootSettings.startIn {} .empty none = .ok "//" ∧
      Session.Reaches plainSetup { directory := "//" } world.session ∧
      Ends (processLine plainSetup (standardRegistry plainSetup) "CD .. | exit") world
        (fun _ after => after.session = { directory := "//", running := false } ∧
          (∀ files : FileSystem, files.absolute? "//" = some "//") ∧
          Executes (standardRegistry plainSetup) "CD .. | exit" world "exit")
        (fun _ _ => False) := by
  intro world
  have hstart : rootSettings.startIn {} .empty none = .ok "//" := by cbv
  have hrun : processLine plainSetup (standardRegistry plainSetup) "CD .. | exit" world =
      .ok (some .exit)
        { world with
          session := { directory := "//", running := false }
          output := [("Exiting...\n" : Text)] } := by
    cbv
  have hreaches : Session.Reaches plainSetup { directory := "//" } world.session := .refl
  obtain ⟨⟨-, hfixed⟩, -, -, hexit, -⟩ := (processLine_session plainSetup rootSettings {} .empty none
    "//" [] hstart world.session hreaches "CD .. | exit" world rfl).of_ok hrun
  refine ⟨hstart, hreaches, ?_⟩
  unfold Ends
  rw [hrun]
  exact ⟨rfl, hfixed, hexit rfl rfl⟩

end Example

end LineShell
