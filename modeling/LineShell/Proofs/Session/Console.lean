import LineShell.Proofs.Core.Change
import LineShell.Proofs.Session.CommandAnswers
import LineShell.Proofs.Session.Quiet
import Mathlib

/-!
# Commands and the console

What a command does depends on the files and on the directory of the session.  It never looks at the
name of the session or at what was written before, and it looks at the lines to be read only where
it captures them: in a bare `cat` that gets no text from a stage before it.  So a command that is
seen with another console does the same there.
-/

namespace LineShell

/-- A way to see a world with another name for its session and another console. -/
structure Recasting where
  name : Text → Text := id
  texts : List Text → List Text := id
  lines : Reader → Reader := id

/-- The world with its session renamed and its console replaced. -/
def World.recast (recasting : Recasting) (world : World) : World where
  files := world.files
  session := { world.session with id := recasting.name world.session.id }
  output := recasting.texts world.output
  reader := recasting.lines world.reader

namespace Recasting

/-- What is written comes behind the texts that were there. -/
def Appends (recasting : Recasting) : Prop :=
  ∀ texts text, recasting.texts (texts ++ [text]) = recasting.texts texts ++ [text]

/-- A capture takes the same lines from a reader as from the one in its place. -/
def KeepsCapture (recasting : Recasting) (sentinel : Text) (reader : Reader) : Prop :=
  Capture.takeLines sentinel (recasting.lines reader) =
    ((Capture.takeLines sentinel reader).1, recasting.lines (Capture.takeLines sentinel reader).2)

end Recasting

/-- An action that does the same in a recast world. -/
abbrev Recasts {A : Type} (recasting : Recasting) (action : Shell A) : Prop :=
  Commutes (World.recast recasting) action

/-- What is quiet has nothing to do with the console. -/
theorem Quiet.recasts {A : Type} {action : Shell A} (haction : Quiet action)
    {recasting : Recasting} : Recasts recasting action := by
  induction haction with
  | pure value => exact .pure value
  | throw escape => exact .throw escape
  | inspect question => exact fun _ => rfl
  | onFiles action =>
      intro world
      unfold CommutesAt Shell.onFiles World.recast
      cases action world.files with
      | ok value after => rfl
      | error fault after => cases fault <;> rfl
  | @session A next hname _ ih =>
      intro world
      change next (world.recast recasting).session (world.recast recasting) = _
      rw [World.recast, hname]
      exact ih world.session world
  | bind _ _ ih ihnext => exact ih.bind ihnext

/-! ### Commands that write -/

section Onstage

variable {recasting : Recasting} (hrecasting : recasting.Appends)
include hrecasting

theorem Shell.recasts_write (text : Text) : Recasts recasting (write text) := by
  intro world
  have hrun : ∀ before : World,
      write text before = .ok () { before with output := before.output ++ [text] } := fun _ => rfl
  unfold CommutesAt
  rw [hrun, hrun, changeState, World.recast, World.recast, hrecasting]

omit hrecasting in
theorem Shell.absolute_eq (path : Text) (world : World) :
    absolute path world =
      match world.files.absolute? path with
      | some normal => .ok normal world
      | none => .error .noWorkingDirectory world := by
  unfold absolute
  rw [bind_of_ok (rfl : (get : Shell World) world = .ok world world)]
  cases world.files.absolute? path <;> rfl

namespace Navigation

omit hrecasting in
/-- A path that stands neither for the current directory nor for the one above it is looked up as
seen from the session. -/
theorem goTo_elsewhere (setup : Setup) {path : Text} (hself : path ≠ Path.self)
    (hup : path ≠ Path.up) (world : World) :
    goTo setup path world =
      let candidate := world.session.resolve path
      if world.files.isDirectory setup.host candidate then
        match world.files.absolute? candidate with
        | some directory => .ok () { world with session := { world.session with directory } }
        | none => .error .noWorkingDirectory world
      else Shell.write ("Directory not found: " ++ path ++ "\n") world := by
  unfold goTo
  simp only [beq_eq_false_iff_ne.mpr hself, beq_eq_false_iff_ne.mpr hup, Bool.false_eq_true,
    if_false]
  rw [bind_of_ok (rfl : Shell.session world = .ok world.session world),
    bind_of_ok (rfl : Shell.inspect _ world = .ok _ world)]
  split
  · have habsolute := Shell.absolute_eq (world.session.resolve path) world
    cases hnormal : world.files.absolute? (world.session.resolve path) with
    | some directory =>
        rw [hnormal] at habsolute
        exact bind_of_ok habsolute
    | none =>
        rw [hnormal] at habsolute
        exact bind_of_error habsolute
  · rfl

theorem recasts_goTo (setup : Setup) (path : Text) : Recasts recasting (goTo setup path) := by
  intro world
  by_cases hself : path = Path.self
  · subst hself
    rfl
  by_cases hup : path = Path.up
  · subst hup
    rfl
  have hrun := goTo_elsewhere setup hself hup world
  have hrecast := goTo_elsewhere setup hself hup (world.recast recasting)
  unfold CommutesAt
  by_cases hfound : world.files.isDirectory setup.host (world.session.resolve path) = true
  · have hrecastFound : (world.recast recasting).files.isDirectory setup.host
        ((world.recast recasting).session.resolve path) = true := hfound
    rw [hrun, hrecast, if_pos hfound, if_pos hrecastFound]
    change (match world.files.absolute? (world.session.resolve path) with
      | some directory => _
      | none => _) = _
    cases world.files.absolute? (world.session.resolve path) <;> rfl
  · have hrecastMissing : ¬ (world.recast recasting).files.isDirectory setup.host
        ((world.recast recasting).session.resolve path) = true := hfound
    rw [hrun, hrecast, if_neg hfound, if_neg hrecastMissing]
    exact Shell.recasts_write hrecasting _ world

theorem recasts_changeDirectory (setup : Setup) (arguments : List Text) :
    Recasts recasting (changeDirectory setup arguments) := by
  unfold changeDirectory
  split
  · exact (recasts_goTo hrecasting setup _).bind fun _ => .pure _
  · exact (Shell.recasts_write hrecasting _).bind fun _ => .pure _

theorem recasts_run (setup : Setup) (invocation : Invocation) :
    Recasts recasting (run setup invocation) :=
  .ite quiet_tellDirectory.recasts <| .ite (recasts_changeDirectory hrecasting setup _) (.throw _)

end Navigation

omit hrecasting in
theorem SessionCommands.recasts_exit : Recasts recasting exit :=
  fun _ => rfl

omit hrecasting in
theorem SessionCommands.recasts_run (listed : List CommandSpec) (invocation : Invocation) :
    Recasts recasting (run listed invocation) :=
  .ite (.pure _) <| .ite recasts_exit (.throw _)

end Onstage

/-! ### Captures -/

namespace Shell

theorem capture_eq (setup : Setup) (banner : Text) (world : World) :
    capture setup banner world =
      .ok (Capture.asText (Capture.takeLines setup.sentinel world.reader).1)
        { world with
          output := world.output ++ [banner ++ "\n"]
          reader := (Capture.takeLines setup.sentinel world.reader).2 } :=
  rfl

theorem commutesAt_capture {recasting : Recasting} (hrecasting : recasting.Appends) {setup : Setup}
    {world : World} (hcapture : recasting.KeepsCapture setup.sentinel world.reader)
    (banner : Text) : CommutesAt (World.recast recasting) (capture setup banner) world := by
  have hlines : Capture.takeLines setup.sentinel (world.recast recasting).reader = _ := hcapture
  unfold CommutesAt
  rw [capture_eq, capture_eq, hlines, changeState]
  simp only [World.recast]
  rw [hrecasting]

end Shell

/-- A call captures typed text: it is one of a bare `cat`, without the text of a stage before it. -/
def CapturesText (name : Text) (arguments : List Text) (piped : Option Text) : Prop :=
  name.lower = "cat" ∧ arguments = [] ∧ piped = none

instance (name : Text) (arguments : List Text) (piped : Option Text) :
    Decidable (CapturesText name arguments piped) :=
  inferInstanceAs (Decidable (_ ∧ _ ∧ _))

/-! ### What is written at once -/

/-- What a command writes by itself, whatever becomes of its reply: the banner of a capture and what
`cd` has to complain of. -/
inductive WrittenAtOnce : Text → Prop
  | banner : WrittenAtOnce (ContentCommands.captureBanner ++ "\n")
  | usage : WrittenAtOnce "Usage: cd <directory>\n"
  | notFound (path : Text) : WrittenAtOnce ("Directory not found: " ++ path ++ "\n")

/-- Behind the texts of a start, a world has only texts that commands write by themselves. -/
def World.Adds (start : List Text) (world : World) : Prop :=
  ∃ written, world.output = start ++ written ∧ ∀ text ∈ written, WrittenAtOnce text

/-- An action that writes nothing but what commands write by themselves. -/
abbrev Adds {A : Type} (action : Shell A) : Prop :=
  ∀ start, Keeps (World.Adds start) (fun _ => True) action

theorem World.Adds.write {start : List Text} {world : World} (hworld : world.Adds start)
    {text : Text} (htext : WrittenAtOnce text) :
    World.Adds start { world with output := world.output ++ [text] } := by
  obtain ⟨written, houtput, hwritten⟩ := hworld
  refine ⟨written ++ [text], by simp [houtput], fun other hother => ?_⟩
  rcases List.mem_append.mp hother with hother | hother
  · exact hwritten other hother
  · exact List.mem_singleton.mp hother ▸ htext

/-- What has nothing to do with the console writes nothing. -/
theorem adds_of_recasts {A : Type} {action : Shell A}
    (haction : ∀ recasting, Recasts recasting action) : Adds action := by
  intro start world hworld
  apply ((haction { texts := fun _ => world.output } world).ends_fixed rfl).mono
  all_goals
    intro _ after hafter
    refine ⟨trivial, ?_⟩
    unfold World.Adds
    rw [← hafter]
    exact hworld

theorem Quiet.adds {A : Type} {action : Shell A} (haction : Quiet action) : Adds action :=
  adds_of_recasts fun _ => haction.recasts

theorem Shell.adds_write {text : Text} (htext : WrittenAtOnce text) : Adds (write text) :=
  fun _ _ hworld => ⟨trivial, hworld.write htext⟩

theorem Navigation.adds_goTo (setup : Setup) (path : Text) : Adds (goTo setup path) := by
  intro start world hworld
  by_cases hself : path = Path.self
  · subst hself
    exact ⟨trivial, hworld⟩
  by_cases hup : path = Path.up
  · subst hup
    exact ⟨trivial, hworld⟩
  unfold Ends
  rw [goTo_elsewhere setup hself hup world]
  by_cases hfound : world.files.isDirectory setup.host (world.session.resolve path) = true
  · simp only [hfound, if_true]
    cases world.files.absolute? (world.session.resolve path) <;> exact ⟨trivial, hworld⟩
  · simp only [hfound, Bool.false_eq_true, if_false]
    exact ⟨trivial, hworld.write (.notFound path)⟩

theorem Navigation.adds_changeDirectory (setup : Setup) (arguments : List Text) :
    Adds (changeDirectory setup arguments) := by
  intro start
  unfold changeDirectory
  split
  · exact (adds_goTo setup _ start).bind fun _ _ => .pure trivial
  · exact (Shell.adds_write .usage start).bind fun _ _ => .pure trivial

theorem Navigation.adds_run (setup : Setup) (invocation : Invocation) :
    Adds (run setup invocation) := fun start =>
  .ite (fun _ => quiet_tellDirectory.adds start) fun _ =>
  .ite (fun _ => adds_changeDirectory setup _ start) fun _ => .throw trivial

theorem ContentCommands.adds_capture (setup : Setup) :
    Adds (Shell.capture setup captureBanner) := by
  intro start world hworld
  unfold Ends
  rw [Shell.capture_eq]
  exact ⟨trivial, hworld.write .banner⟩

theorem ContentCommands.adds_cat (setup : Setup) (arguments : List Text) (piped : Option Text) :
    Adds (cat setup arguments piped) := by
  by_cases hbare : arguments = [] ∧ piped = none
  · obtain ⟨rfl, rfl⟩ := hbare
    exact fun start => (adds_capture setup start).bind fun _ _ => .pure trivial
  · exact (quiet_cat setup hbare).adds

theorem ContentCommands.adds_run (setup : Setup) (invocation : Invocation) :
    Adds (run setup invocation) := fun start =>
  .ite (fun _ => adds_cat setup _ _ start) fun _ =>
  .ite (fun _ => (quiet_overwrite setup _).adds start) fun _ =>
  .ite (fun _ => (quiet_append setup _ _).adds start) fun _ => .throw trivial

/-! ### The standard commands -/

/-- A registry whose commands look at the lines to be read in a bare `cat` only, which captures
them, and write nothing beside their replies but the banner of a capture and what `cd` complains
of. -/
structure Registry.Staged (setup : Setup) (registry : Registry) : Prop where
  recasts : ∀ {name : Text} {arguments piped}, ¬ CapturesText name arguments piped →
    ∀ {recasting : Recasting}, recasting.Appends →
      Recasts recasting (registry.dispatch { name, arguments, piped })
  captures : ∀ {name : Text}, name.lower = "cat" →
    registry.dispatch { name } =
      (do return .say (← Shell.capture setup ContentCommands.captureBanner))
  adds : ∀ invocation, Adds (registry.dispatch invocation)

/-- The name `cat` leads to the group of the commands that show and write content. -/
theorem find?_cat (setup : Setup) {name : Text} (hname : name.lower = "cat") :
    (standardRegistry setup).find? name = some (ContentCommands.group setup) := by
  rw [Registry.find?, hname]
  cbv

theorem staged_standardRegistry (setup : Setup) : (standardRegistry setup).Staged setup where
  recasts {name arguments piped} hcall recasting hrecasting := by
    have hdispatched := dispatched setup { name, arguments, piped }
    generalize (standardRegistry setup).dispatch { name, arguments, piped } = action at hdispatched
    cases hdispatched with
    | unknown => exact .pure _
    | navigation => exact Navigation.recasts_run hrecasting setup _
    | entries => exact (EntryCommands.quiet_run setup _).recasts
    | content hspec hname =>
        rw [ContentCommands.run, hname]
        split <;> rename_i hcat
        · exact (ContentCommands.quiet_cat setup fun hbare => hcall ⟨hcat, hbare⟩).recasts
        · exact .ite (ContentCommands.quiet_overwrite setup _).recasts <|
            .ite (ContentCommands.quiet_append setup _ _).recasts (.throw _)
    | session => exact SessionCommands.recasts_run standardCommands _
  captures {name} hname := by
    unfold Registry.dispatch
    rw [find?_cat setup hname]
    simp only [ContentCommands.group, ContentCommands.run, hname, if_true]
    rfl
  adds invocation := by
    have hdispatched := dispatched setup invocation
    generalize (standardRegistry setup).dispatch invocation = action at hdispatched
    cases hdispatched with
    | unknown => exact fun _ => .pure trivial
    | navigation => exact Navigation.adds_run setup _
    | entries => exact (EntryCommands.quiet_run setup _).adds
    | content => exact ContentCommands.adds_run setup _
    | session => exact adds_of_recasts fun _ => SessionCommands.recasts_run standardCommands _

end LineShell
