import LineShell.Proofs.Pipeline.Redirected
import LineShell.Proofs.Session.Captures
import LineShell.Proofs.Session.LineAnswers
import Mathlib

/-!
# The read loop

The loop asks for a line and runs it until the session is over or no line is left.  Between them the
loop and the captures take every line of a script once and from its front.  So a script may be
handed over in two parts, as long as no capture has to go beyond the first of them for its end.
-/

namespace LineShell

/-! ### Asking for a line -/

/-- What a reader shows when it is asked for a line with a prompt. -/
def Reader.shows (reader : Reader) (prompt : Text) : List Text :=
  if reader.prompts then [prompt] else []

/-- The world after the loop asked for a line. -/
def World.asked (world : World) : World :=
  { world with
    output := world.output ++ world.reader.shows world.session.prompt
    reader := world.reader.readLine.2 }

theorem Shell.readLine_prompt (world : World) :
    readLine world.session.prompt world = .ok world.reader.readLine.1 world.asked := by
  have hprompt : world.session.prompt.isEmpty = false := by simp [Session.prompt]
  unfold readLine
  rw [bind_of_ok (rfl : (get : Shell World) world = .ok world world)]
  cases hprompts : world.reader.prompts with
  | true =>
      simp only [hprompt, Bool.not_false, Bool.and_true, if_true, World.asked, Reader.shows,
        hprompts]
      rfl
  | false =>
      simp only [hprompt, Bool.not_false, Bool.and_true, Bool.false_eq_true, if_false, World.asked,
        Reader.shows, hprompts, List.append_nil]
      rfl

theorem World.Sound.asked {world : World} (hworld : world.Sound) : world.asked.Sound :=
  ⟨hworld.files, hworld.directory⟩

namespace Interpreter

/-! ### One turn of the loop -/

/-- The loop reads a line and runs it, and goes on with the world that this leaves. -/
structure Turns (setup : Setup) (registry : Registry) (world after : World) : Prop where
  running : world.session.running = true
  ran : ∃ line reply, world.reader.readLine.1 = some line ∧
    processLine setup registry line world.asked = .ok reply after

/-- The loop comes to a world in any number of turns. -/
abbrev Reaches (setup : Setup) (registry : Registry) : World → World → Prop :=
  Relation.ReflTransGen (Turns setup registry)

section Loop

variable {setup : Setup} {registry : Registry}

theorem runLines_of_ended {world : World} (hended : world.session.running = false) (count : Nat) :
    runLines setup registry count world = .ok () world := by
  cases count with
  | zero => rfl
  | succ count =>
      unfold runLines
      rw [bind_of_ok (rfl : Shell.session world = .ok world.session world), hended]
      rfl

theorem runLines_of_end {world : World} (hrunning : world.session.running = true)
    (hread : world.reader.readLine.1 = none) (count : Nat) :
    runLines setup registry (count + 1) world = .ok () world.asked := by
  have hasked := Shell.readLine_prompt world
  rw [hread] at hasked
  rw [runLines, bind_of_ok (rfl : Shell.session world = .ok world.session world),
    if_pos hrunning, bind_of_ok hasked]
  rfl

theorem runLines_of_line {world : World} {line : Text} (hrunning : world.session.running = true)
    (hread : world.reader.readLine.1 = some line) (count : Nat) :
    runLines setup registry (count + 1) world =
      (processLine setup registry line >>= fun _ => runLines setup registry count) world.asked := by
  have hasked := Shell.readLine_prompt world
  rw [hread] at hasked
  rw [runLines, bind_of_ok (rfl : Shell.session world = .ok world.session world),
    if_pos hrunning, bind_of_ok hasked]

theorem run_eq (world : World) :
    run setup registry world =
      (runLines setup registry (world.reader.size + 1) >>= fun _ => pure 0) world := by
  rw [run, bind_of_ok (rfl : (get : Shell World) world = .ok world world)]

/-- A session that is over takes no line. -/
theorem run_of_ended {world : World} (hended : world.session.running = false) :
    run setup registry world = .ok 0 world := by
  rw [run_eq, bind_of_ok (runLines_of_ended hended _)]
  rfl

/-- The loop stops where no line is left. -/
theorem run_of_end {world : World} (hrunning : world.session.running = true)
    (hread : world.reader.readLine.1 = none) :
    run setup registry world = .ok 0 world.asked := by
  rw [run_eq, bind_of_ok (runLines_of_end hrunning hread _)]
  rfl

variable (hregistry : registry.Staged setup)
include hregistry

/-- A line that is read and run leaves less to read. -/
theorem size_of_turn {world after : World} {line : Text} {reply : Option Reply}
    (hread : world.reader.readLine.1 = some line)
    (hline : processLine setup registry line world.asked = .ok reply after) :
    after.reader.size < world.reader.size := by
  have hread' : world.reader.readLine = (some line, world.asked.reader) := Prod.ext hread rfl
  have hreads := ((reads_processLine hregistry line world.asked.reader world.asked .refl).of_ok
    hline).2
  exact hreads.size_le.trans_lt (Reader.size_readLine_lt hread')

/-- The bound on the lines makes no difference as long as it is not reached. -/
theorem runLines_of_lt {count other : Nat} {world : World} (hcount : world.reader.size < count)
    (hother : world.reader.size < other) :
    runLines setup registry count world = runLines setup registry other world := by
  induction count generalizing other world with
  | zero => exact absurd hcount (Nat.not_lt_zero _)
  | succ count ih =>
      obtain ⟨other, rfl⟩ := Nat.exists_eq_succ_of_ne_zero (Nat.ne_zero_of_lt hother)
      cases hrunning : world.session.running with
      | false => rw [runLines_of_ended hrunning, runLines_of_ended hrunning]
      | true =>
          cases hread : world.reader.readLine.1 with
          | none => rw [runLines_of_end hrunning hread, runLines_of_end hrunning hread]
          | some line =>
              rw [runLines_of_line hrunning hread, runLines_of_line hrunning hread]
              cases hline : processLine setup registry line world.asked with
              | error escape after => rw [bind_of_error hline, bind_of_error hline]
              | ok reply after =>
                  have hless := size_of_turn hregistry hread hline
                  rw [bind_of_ok hline, bind_of_ok hline]
                  exact ih (by omega) (by omega)

/-- The loop goes on from where a turn left it. -/
theorem run_of_turn {world after : World} (hturn : Turns setup registry world after) :
    run setup registry world = run setup registry after := by
  obtain ⟨hrunning, line, reply, hread, hline⟩ := hturn
  have hless := size_of_turn hregistry hread hline
  have hsame : runLines setup registry (world.reader.size + 1) world =
      runLines setup registry (after.reader.size + 1) after := by
    rw [runLines_of_line hrunning hread, bind_of_ok hline]
    exact runLines_of_lt hregistry hless (Nat.lt_succ_self _)
  rw [run_eq, run_eq]
  simp only [bind, EStateM.bind, hsame]

theorem run_of_reaches {world after : World} (hreaches : Reaches setup registry world after) :
    run setup registry world = run setup registry after := by
  induction hreaches with
  | refl => rfl
  | tail _ hturn ih => exact ih.trans (run_of_turn hregistry hturn)

end Loop

/-! ### Scripts -/

/-- A session that runs takes the first line of a script. -/
theorem exists_turn (setup : Setup) {world : World} {line : Text} {rest : List Text}
    (hworld : world.Sound) (hrunning : world.session.running = true)
    (hreader : world.reader = .scripted (line :: rest)) (hline : line.hasNull = false) :
    ∃ after left, Turns setup (standardRegistry setup) world after ∧ after.Sound ∧
      after.reader = .scripted left ∧ left <:+ rest := by
  have hread : world.reader.readLine = (some line.trimLineEnd, .scripted rest) := by
    rw [hreader, Reader.readLine]
  have hgiven : line.trimLineEnd.hasNull = false :=
    Request.hasNull_of_subset hline fun _ => Text.mem_of_mem_trimEndWhere
  obtain ⟨reply, after, hrun, hafter⟩ :=
    exists_processLine_eq (answers_standardRegistry setup) setup hworld.asked hgiven
  have hreads := ((reads_processLine (staged_standardRegistry setup) line.trimLineEnd
    world.asked.reader world.asked .refl).of_ok hrun).2
  have hasked : world.asked.reader = .scripted rest := congrArg Prod.snd hread
  rw [hasked] at hreads
  obtain ⟨left, hleft, hsuffix⟩ := hreads.suffix
  exact ⟨after, left, ⟨hrunning, _, reply, congrArg Prod.fst hread, hrun⟩, hafter, hleft, hsuffix⟩

/-- The loop comes to the end of a script or of the session, and what it leaves of the script is the
end of it. -/
theorem exists_reaches (setup : Setup) {lines : List Text} {world : World} (hworld : world.Sound)
    (hreader : world.reader = .scripted lines) (hlines : ∀ line ∈ lines, line.hasNull = false) :
    ∃ last left, Reaches setup (standardRegistry setup) world last ∧ last.Sound ∧
      last.reader = .scripted left ∧ left <:+ lines ∧
      (last.session.running = false ∨ left = []) := by
  -- A turn may take many lines, since captures read too, so the induction is on the length.
  induction hlength : lines.length using Nat.strong_induction_on generalizing lines world with
  | _ length ih =>
      subst hlength
      cases hrunning : world.session.running with
      | false => exact ⟨world, lines, .refl, hworld, hreader, List.suffix_rfl, .inl hrunning⟩
      | true =>
          cases lines with
          | nil => exact ⟨world, [], .refl, hworld, hreader, List.suffix_rfl, .inr rfl⟩
          | cons line rest =>
              obtain ⟨after, left, hturn, hafter, hleft, hsuffix⟩ := exists_turn setup hworld
                hrunning hreader (hlines line List.mem_cons_self)
              have hshorter : left.length < (line :: rest).length :=
                Nat.lt_succ_of_le hsuffix.length_le
              obtain ⟨last, unread, hreaches, hlast, hunread, hend, hstopped⟩ :=
                ih left.length hshorter hafter hleft (fun other hother =>
                  hlines other (List.mem_cons_of_mem _ (hsuffix.subset hother))) rfl
              exact ⟨last, unread, .head hturn hreaches, hlast, hunread,
                hend.trans (hsuffix.trans (List.suffix_cons line rest)), hstopped⟩

end Interpreter

/-! ### Scripts in two parts -/

/-- The reader with more lines behind those of its script. -/
def Reader.followedBy (more : List Text) : Reader → Reader
  | .scripted lines => .scripted (lines ++ more)
  | .stream rest => .stream rest
  | .terminal rest => .terminal rest

/-- A capture from the reader comes to the sentinel line before the end of the input. -/
inductive Capture.Closes (sentinel : Text) : Reader → Prop
  | sentinel {reader after : Reader} {line : Text} (hread : reader.readLine = (some line, after))
      (hline : line.lower = sentinel.lower) : Closes sentinel reader
  | text {reader after : Reader} {line : Text} (hread : reader.readLine = (some line, after))
      (hrest : Closes sentinel after) : Closes sentinel reader

/-- The loop comes to a line that begins a capture from the reader. -/
def Interpreter.CapturesFrom (setup : Setup) (registry : Registry) (world : World)
    (reader : Reader) : Prop :=
  ∃ middle line, Reaches setup registry world middle ∧ middle.session.running = true ∧
    middle.reader.readLine.1 = some line ∧ reader ∈ captures registry line middle.asked

/-- A world seen with more lines behind its script. -/
def Recasting.followedBy (more : List Text) : Recasting :=
  { lines := Reader.followedBy more }

theorem Recasting.appends_followedBy (more : List Text) : (followedBy more).Appends :=
  fun _ _ => rfl

section Parts

variable {more : List Text}

namespace Reader

theorem readLine_followedBy {reader after : Reader} {line : Text}
    (hread : reader.readLine = (some line, after)) :
    (reader.followedBy more).readLine = (some line, after.followedBy more) := by
  cases reader with
  | scripted lines =>
      cases lines with
      | nil => simp [readLine] at hread
      | cons first rest =>
          cases hread
          rfl
  | stream rest | terminal rest =>
      by_cases hrest : rest = []
      · simp [readLine, hrest] at hread
      · have hempty : rest.isEmpty = false := by simpa using hrest
        simp only [readLine, hempty, Bool.false_eq_true, if_false] at hread
        cases hread
        simp [followedBy, readLine, hempty]

theorem shows_followedBy (reader : Reader) (prompt : Text) :
    (reader.followedBy more).shows prompt = reader.shows prompt := by
  cases reader <;> rfl

end Reader

/-- A capture that comes to its sentinel line leaves alone what is behind it. -/
theorem Capture.Closes.keepsCapture {sentinel : Text} {reader : Reader}
    (hcloses : Closes sentinel reader) :
    (Recasting.followedBy more).KeepsCapture sentinel reader := by
  unfold Recasting.KeepsCapture Recasting.followedBy
  induction hcloses with
  | sentinel hread hline =>
      rw [takeLines_of_sentinel hread hline,
        takeLines_of_sentinel (Reader.readLine_followedBy hread) hline]
  | @text reader after line hread _ ih =>
      by_cases hline : line.lower = sentinel.lower
      · rw [takeLines_of_sentinel hread hline,
          takeLines_of_sentinel (Reader.readLine_followedBy hread) hline]
      · rw [takeLines_of_text hread hline,
          takeLines_of_text (Reader.readLine_followedBy hread) hline, ih]

namespace Interpreter

variable {setup : Setup} {registry : Registry} (hregistry : registry.Staged setup)

theorem CapturesFrom.of_reaches {world after : World} {reader : Reader}
    (hreaches : Reaches setup registry world after)
    (hcaptures : CapturesFrom setup registry after reader) :
    CapturesFrom setup registry world reader := by
  obtain ⟨middle, line, hmiddle, hbegins⟩ := hcaptures
  exact ⟨middle, line, hreaches.trans hmiddle, hbegins⟩

include hregistry

theorem Turns.followedBy {world after : World} (hturn : Turns setup registry world after)
    (hcaptures : ∀ reader, CapturesFrom setup registry world reader →
      Capture.Closes setup.sentinel reader) :
    Turns setup registry (world.recast (.followedBy more)) (after.recast (.followedBy more)) := by
  obtain ⟨hrunning, line, reply, hread, hline⟩ := hturn
  have hread' : (world.recast (.followedBy more)).reader.readLine =
      (some line, world.asked.reader.followedBy more) :=
    Reader.readLine_followedBy (Prod.ext hread rfl)
  have hasked : (world.recast (.followedBy more)).asked =
      world.asked.recast (.followedBy more) := by
    simp only [World.asked, hread']
    simp only [World.recast, Recasting.followedBy, Reader.shows_followedBy]
    rfl
  have hcommutes : CommutesAt (World.recast (.followedBy more)) (processLine setup registry line)
      world.asked :=
    commutesAt_processLine hregistry (Recasting.appends_followedBy more) fun reader hreader =>
      (hcaptures reader ⟨world, line, .refl, hrunning, hread, hreader⟩).keepsCapture
  exact ⟨hrunning, line, reply, congrArg Prod.fst hread', by rw [hasked, hcommutes.of_ok hline]⟩

theorem Reaches.followedBy {world after : World} (hreaches : Reaches setup registry world after)
    (hcaptures : ∀ reader, CapturesFrom setup registry world reader →
      Capture.Closes setup.sentinel reader) :
    Reaches setup registry (world.recast (.followedBy more))
      (after.recast (.followedBy more)) := by
  induction hreaches with
  | refl => exact .refl
  | tail hbefore hturn ih =>
      exact ih.tail (hturn.followedBy hregistry fun reader hreader =>
        hcaptures reader (.of_reaches hbefore hreader))

end Interpreter

end Parts

namespace Interpreter

/-- A run over a script ends with status 0 where the loop came to, and what it leaves of the script
is the end of it. -/
theorem exists_run (setup : Setup) {lines : List Text} {world : World} (hworld : world.Sound)
    (hreader : world.reader = .scripted lines) (hlines : ∀ line ∈ lines, line.hasNull = false) :
    ∃ last left, run setup (standardRegistry setup) world = .ok 0 last ∧
      Reaches setup (standardRegistry setup) world last ∧ last.Sound ∧
      last.reader = .scripted left ∧ left <:+ lines ∧
      (left ≠ [] → last.session.running = false) := by
  have hregistry := staged_standardRegistry setup
  obtain ⟨last, left, hreaches, hlast, hleft, hsuffix, hstopped⟩ :=
    exists_reaches setup hworld hreader hlines
  refine ⟨last, left, ?_, hreaches, hlast, hleft, hsuffix, hstopped.resolve_right⟩
  rw [run_of_reaches hregistry hreaches]
  cases hrunning : last.session.running with
  | false => exact run_of_ended hrunning
  | true =>
      have hempty : left = [] := hstopped.resolve_left (by simp [hrunning])
      rw [hempty] at hleft
      have hread : last.reader.readLine.1 = none := by rw [hleft, Reader.readLine]
      rw [run_of_end hrunning hread]
      obtain ⟨files, session, output, reader⟩ := last
      cases hleft
      simp [World.asked, Reader.shows, Reader.prompts, Reader.readLine]

/-- A run over a script comes to its end with status 0.  What it leaves of the script is the end of
it, and this is nothing unless the session is over.  If no capture that it begins is ended by the
end of the script, the run over the script with more lines behind it does the same as the run over
the script and then the one over the lines, and leaves what these leave. -/
theorem run_append (setup : Setup) (files : FileSystem) (session : Session) (output : List Text)
    (lines more : List Text) (hfiles : files.NullFree) (hdirectory : Path.Sound session.directory)
    (hlines : ∀ line ∈ lines, line.hasNull = false) (hmore : ∀ line ∈ more, line.hasNull = false) :
    let registry := standardRegistry setup
    let world (given : List Text) : World := { files, session, output, reader := .scripted given }
    Completes (run setup registry) (world lines) fun status after =>
      status = 0 ∧ ∃ left, after.reader = .scripted left ∧ left <:+ lines ∧
        (left ≠ [] → after.session.running = false) ∧
        ((∀ reader, CapturesFrom setup registry (world lines) reader →
            Capture.Closes setup.sentinel reader) →
          Completes (run setup registry) { after with reader := .scripted more } fun status last =>
            status = 0 ∧ ∃ rest, last.reader = .scripted rest ∧
              run setup registry (world (lines ++ more)) =
                .ok 0 { last with reader := .scripted (left ++ rest) }) := by
  intro registry world
  have hregistry := staged_standardRegistry setup
  have hworld : (world lines).Sound := ⟨hfiles, hdirectory⟩
  obtain ⟨after, left, hrun, hreaches, hafter, hleft, hsuffix, hended⟩ :=
    exists_run setup hworld rfl hlines
  rw [Completes, Ends.iff_of_ok hrun]
  refine ⟨rfl, left, hleft, hsuffix, hended, fun hcaptures => ?_⟩
  have hnextWorld : World.Sound { after with reader := .scripted more } :=
    ⟨hafter.files, hafter.directory⟩
  obtain ⟨last, rest, hnext, -, -, hrest, -, -⟩ := exists_run setup hnextWorld rfl hmore
  rw [Completes, Ends.iff_of_ok hnext]
  refine ⟨rfl, rest, hrest, ?_⟩
  have hwhole : run setup registry (world (lines ++ more)) =
      run setup registry (after.recast (.followedBy more)) :=
    run_of_reaches hregistry (hreaches.followedBy hregistry hcaptures)
  have hbehind : after.recast (.followedBy more) =
      { after with reader := .scripted (left ++ more) } := by
    obtain ⟨files, session, output, reader⟩ := after
    cases hleft
    rfl
  rw [hwhole, hbehind]
  by_cases hempty : left = []
  · rw [hempty, List.nil_append, List.nil_append, ← hrest]
    exact hnext
  · -- The session is over, so the second run takes nothing either.
    have hover := hended hempty
    have hstays : run setup registry { after with reader := .scripted more } =
        .ok 0 { after with reader := .scripted more } := run_of_ended hover
    cases hnext.symm.trans hstays
    cases hrest
    exact run_of_ended hover

section Example

/-- A session at the root of an empty file system in which a text is typed into a capture. -/
def typing : World :=
  { freshWorld with reader := .scripted ["cat", "text", "exit"] }

theorem readLine_typing : typing.reader.readLine.1 = some "cat" := by
  decide

theorem parse_typing :
    Request.parse "cat" = .ok (.pipeline { stages := [Stage.ofText "cat"] }) := by
  decide

theorem takeLines_typing :
    Capture.takeLines plainSetup.sentinel (.scripted ["text", "exit"]) =
      ([("text" : Text)], .scripted []) := by
  rw [Capture.takeLines_of_text rfl (by decide), Capture.takeLines_of_sentinel rfl (by decide)]
  decide

theorem processLine_typing :
    processLine plainSetup (standardRegistry plainSetup) "cat" typing.asked =
      .ok (some (.say "text\n"))
        { freshWorld with
          output := [ContentCommands.captureBanner ++ "\n", ("text\n" : Text)] } := by
  have hcapture := Shell.capture_eq plainSetup ContentCommands.captureBanner typing.asked
  have hasked : typing.asked.reader = .scripted ["text", "exit"] := rfl
  rw [hasked, takeLines_typing] at hcapture
  have hname : (Stage.ofText "cat").name.lower = "cat" := by decide
  have hstage : Pipeline.runStage (standardRegistry plainSetup) (Stage.ofText "cat") none =
      (do return .say (← Shell.capture plainSetup ContentCommands.captureBanner)) :=
    (staged_standardRegistry plainSetup).captures hname
  have hstages : Pipeline.runStages (standardRegistry plainSetup) [Stage.ofText "cat"] {}
      typing.asked =
        .ok (.say "text\n")
          { freshWorld with output := [ContentCommands.captureBanner ++ "\n"] } := by
    rw [Pipeline.runStages, hstage, bind_assoc, bind_of_ok hcapture]
    rfl
  rw [processLine_of_parse _ _ parse_typing]
  apply map_of_ok
  rw [perform_pipeline, hstages]
  rfl

theorem captures_typing :
    captures (standardRegistry plainSetup) "cat" typing.asked = [.scripted ["text", "exit"]] := by
  rw [captures, parse_typing]
  simp only [Pipeline.captures]
  rw [if_pos (by decide)]
  split
  · split <;> rfl
  · rfl

theorem closes_of_capturesFrom_typing {reader : Reader}
    (h : CapturesFrom plainSetup (standardRegistry plainSetup) typing reader) :
    Capture.Closes plainSetup.sentinel reader := by
  obtain ⟨middle, line, hreaches, -, hread, hmem⟩ := h
  obtain rfl | ⟨next, ⟨-, first, reply, hfirst, hrun⟩, hnext⟩ := hreaches.cases_head
  · cases readLine_typing.symm.trans hread
    rw [captures_typing, List.mem_singleton] at hmem
    subst hmem
    exact .text rfl (.sentinel rfl rfl)
  · -- The capture leaves nothing to read, so the first line is the only one.
    cases readLine_typing.symm.trans hfirst
    cases processLine_typing.symm.trans hrun
    obtain rfl | ⟨_, ⟨-, second, _, hsecond, -⟩, -⟩ := hnext.cases_head
    · cases hread
    · cases hsecond

/-- A capture that its sentinel line closes leaves the lines behind it to the loop. -/
theorem run_append_typing :
    let registry := standardRegistry plainSetup
    FileSystem.empty.NullFree ∧ Path.Sound "/" ∧
      CapturesFrom plainSetup registry typing (.scripted ["text", "exit"]) ∧
      ∃ after left last rest,
        run plainSetup registry typing = .ok 0 after ∧ after.reader = .scripted left ∧
        run plainSetup registry { after with reader := .scripted ["pwd", "exit", "pwd"] } =
          .ok 0 last ∧ last.reader = .scripted rest ∧
        run plainSetup registry
            { typing with reader := .scripted ["cat", "text", "exit", "pwd", "exit", "pwd"] } =
          .ok 0 { last with reader := .scripted (left ++ rest) } := by
  intro registry
  have hfiles : FileSystem.empty.NullFree := Node.nullFree_directory (by simp [FileSystem.empty])
  have hdirectory : Path.Sound "/" := ⟨by decide, by decide⟩
  have hbegins : CapturesFrom plainSetup registry typing (.scripted ["text", "exit"]) :=
    ⟨typing, "cat", .refl, rfl, readLine_typing, captures_typing ▸ List.mem_singleton_self _⟩
  obtain ⟨_, after, hrun, rfl, left, hleft, -, -, hparts⟩ :=
    (run_append plainSetup .empty { directory := "/" } [] ["cat", "text", "exit"]
      ["pwd", "exit", "pwd"] hfiles hdirectory (by decide) (by decide)).exists_ok
  obtain ⟨_, last, hnext, rfl, rest, hrest, hwhole⟩ :=
    (hparts fun _ => closes_of_capturesFrom_typing).exists_ok
  exact ⟨hfiles, hdirectory, hbegins, after, left, last, rest, hrun, hleft, hnext, hrest, hwhole⟩

end Example

end Interpreter

end LineShell
