import LineShell.CommandLine.Program
import LineShell.Proofs.Session.ReadLoop
import Mathlib

/-!
# Driving a session

Lines that capture nothing do the same at every console: what they leave of one another is the files
and the session.  So it makes no difference for them whether they are handed over one by one or read
in the loop.
-/

namespace LineShell

/-! ### Lines but for their ends -/

theorem Text.trimLineEnd_trimLineEnd (text : Text) :
    text.trimLineEnd.trimLineEnd = text.trimLineEnd := by
  simp [trimLineEnd, trimEndWhere, List.dropWhile_idempotent]

theorem Text.trim_trimLineEnd (text : Text) : text.trimLineEnd.trim = text.trim := by
  obtain ⟨tail, htext, htail⟩ := exists_eq_trimEndWhere_append isLineEnd text
  have hblank : ∀ character ∈ tail, isBlank character = true := by
    intro character hmem
    rcases Bool.or_eq_true_iff.mp (htail character hmem) with h | h <;>
      rw [beq_iff_eq.mp h] <;> decide
  conv_rhs => rw [htext, trim_append_of_blank hblank]
  rfl

theorem Text.trim_eq_of_trimLineEnd {text other : Text}
    (h : text.trimLineEnd = other.trimLineEnd) : text.trim = other.trim := by
  rw [← trim_trimLineEnd text, h, trim_trimLineEnd]

theorem Request.parse_congr {line other : Text} (h : line.trim = other.trim) :
    parse line = parse other := by
  simp only [parse, h]

namespace Interpreter

variable {setup : Setup} {registry : Registry} {line other : Text}

theorem processLine_congr (h : line.trim = other.trim) :
    processLine setup registry line = processLine setup registry other := by
  simp only [processLine, h, Request.parse_congr h]

theorem captures_congr (h : line.trim = other.trim) :
    captures registry line = captures registry other := by
  funext world
  simp only [captures, Request.parse_congr h]

end Interpreter

/-! ### Lines away from the console -/

/-- A world with nothing at its console. -/
def World.offstage (files : FileSystem) (session : Session) : World :=
  { files, session, output := [], reader := .nothing }

/-- A session under some name at a console with texts and a reader. -/
def Recasting.console (name : Text → Text) (texts : List Text) (reader : Reader) : Recasting where
  name := name
  texts written := texts ++ written
  lines _ := reader

theorem World.recast_offstage (world : World) :
    (offstage world.files world.session).recast (.console id world.output world.reader) =
      world := by
  simp only [recast, offstage, Recasting.console, List.append_nil]
  rfl

theorem Recasting.appends_console (name : Text → Text) (texts : List Text) (reader : Reader) :
    (console name texts reader).Appends :=
  fun _ _ => (List.append_assoc _ _ _).symm

section Captures

variable {setup : Setup} {registry : Registry} (hregistry : registry.Staged setup)
variable {recasting : Recasting} (hrecasting : recasting.Appends)
include hregistry hrecasting

/-- Whether stages capture anything has nothing to do with the console. -/
theorem Pipeline.captures_eq_nil_of_recast {stages : List Stage} {reply : Reply} {world : World}
    (h : captures registry stages reply (world.recast recasting) = []) :
    captures registry stages reply world = [] := by
  induction stages generalizing reply world with
  | nil => rfl
  | cons stage rest ih =>
      rw [captures, List.append_eq_nil_iff] at h ⊢
      have hcall : ¬ CapturesText stage.name stage.arguments reply.text := fun hcall => by
        simp [hcall] at h
      have hcommutes : CommutesAt (World.recast recasting) (runStage registry stage reply.text)
          world :=
        commutesAt_runStage hregistry hrecasting fun hcaptures => absurd hcaptures hcall
      refine ⟨if_neg hcall, ?_⟩
      have hrest := h.2
      rw [hcommutes] at hrest
      cases hrun : runStage registry stage reply.text world with
      | error escape after => rfl
      | ok next after =>
          rw [hrun] at hrest
          simp only [changeState] at hrest ⊢
          split at hrest
          · rename_i hended
            rw [if_pos hended]
          · rename_i hrunning
            rw [if_neg hrunning]
            exact ih hrest

theorem Interpreter.captures_eq_nil_of_recast {line : Text} {world : World}
    (h : captures registry line (world.recast recasting) = []) :
    captures registry line world = [] := by
  unfold captures at h ⊢
  split at h
  · simp at h
  · exact Pipeline.captures_eq_nil_of_recast hregistry hrecasting h
  · rfl

end Captures

/-! ### Lines one after the other -/

namespace Interpreter

/-- A line that was run, apart from the console at which it was. -/
structure Driven where
  /-- What a terminal shows in front of the line. -/
  prompt : Text
  /-- The texts that the line wrote, in order. -/
  texts : List Text
  /-- The session after the line. -/
  session : Session

/-- Lines take files and a session to others, each running on what the one before left of these, up
to the one that ends the session.  None of them captures anything. -/
inductive Drives (setup : Setup) (registry : Registry) :
    FileSystem → Session → List Text → List Driven → FileSystem → Session → Prop
  | done (files : FileSystem) (session : Session) :
      Drives setup registry files session [] [] files session
  | ended {files : FileSystem} {session : Session} (lines : List Text)
      (hended : session.running = false) :
      Drives setup registry files session lines [] files session
  | line {files last : FileSystem} {session ending : Session} {line : Text} {lines : List Text}
      {driven : List Driven} {reply : Option Reply} {after : World}
      (hrunning : session.running = true)
      (hcaptures : captures registry line (.offstage files session) = [])
      (hline : processLine setup registry line (.offstage files session) = .ok reply after)
      (hrest : Drives setup registry after.files after.session lines driven last ending) :
      Drives setup registry files session (line :: lines)
        (⟨session.prompt, after.output, after.session⟩ :: driven) last ending

section Driving

variable {setup : Setup} {registry : Registry} (hregistry : registry.Staged setup)
include hregistry

/-- A line that captures nothing does the same at every console. -/
theorem processLine_recast {files : FileSystem} {session : Session} {line : Text}
    {reply : Option Reply} {after : World}
    (hcaptures : captures registry line (.offstage files session) = [])
    (hline : processLine setup registry line (.offstage files session) = .ok reply after)
    (name : Text → Text) (texts : List Text) (reader : Reader) :
    processLine setup registry line
        { files, session := { session with id := name session.id }, output := texts, reader } =
      .ok reply
        { files := after.files
          session := { after.session with id := name after.session.id }
          output := texts ++ after.output
          reader } := by
  have hcommutes := (commutesAt_processLine hregistry (Recasting.appends_console name texts reader)
    (by simp [hcaptures])).of_ok hline
  simpa only [World.recast, World.offstage, Recasting.console, List.append_nil] using hcommutes

omit hregistry in
theorem runCommands_of_ended {world : World} (hended : world.session.running = false)
    (lines : List (Option Text)) :
    CommandLine.runCommands setup registry lines world = .ok () world := by
  cases lines with
  | nil => rfl
  | cons line rest =>
      unfold CommandLine.runCommands
      rw [bind_of_ok (rfl : Shell.session world = .ok world.session world), hended]
      rfl

omit hregistry in
theorem runCommands_of_ok {world after : World} {line : Text} {reply : Option Reply}
    (hrunning : world.session.running = true)
    (hline : processLine setup registry line world = .ok reply after)
    (lines : List (Option Text)) :
    CommandLine.runCommands setup registry (some line :: lines) world =
      CommandLine.runCommands setup registry lines after := by
  rw [CommandLine.runCommands, bind_of_ok (rfl : Shell.session world = .ok world.session world),
    if_pos hrunning]
  exact bind_of_ok hline

/-- Lines that are given on the command line. -/
theorem Drives.runCommands {files last : FileSystem} {session ending : Session}
    {lines : List Text} {driven : List Driven}
    (hdrives : Drives setup registry files session lines driven last ending) (id : Text)
    (texts : List Text) (reader : Reader) :
    CommandLine.runCommands setup registry (lines.map some)
        { files, session := { session with id }, output := texts, reader } =
      .ok ()
        { files := last
          session := { ending with id }
          output := texts ++ driven.flatMap Driven.texts
          reader } := by
  induction hdrives generalizing texts with
  | done files session =>
      rw [List.flatMap_nil, List.append_nil]
      rfl
  | ended lines hended =>
      rw [List.flatMap_nil, List.append_nil]
      exact runCommands_of_ended hended _
  | line hrunning hcaptures hline hrest ih =>
      have hrun := processLine_recast hregistry hcaptures hline (fun _ => id) texts reader
      rw [List.map_cons, runCommands_of_ok hrunning hrun, ih, List.flatMap_cons, List.append_assoc]

end Driving

/-! ### Lines from a reader -/

end Interpreter

/-- A reader gives lines one after the other, but for their ends, and then no more. -/
inductive Reader.Serves : Reader → List Text → Prop
  | nil {reader : Reader} (hread : reader.readLine.1 = none) : Serves reader []
  | cons {reader after : Reader} {line given : Text} {lines : List Text}
      (hread : reader.readLine = (some given, after))
      (hline : given.trimLineEnd = line.trimLineEnd) (hrest : Serves after lines) :
      Serves reader (line :: lines)

namespace Reader

theorem serves_scripted (lines : List Text) : (scripted lines).Serves lines := by
  induction lines with
  | nil => exact .nil rfl
  | cons line rest ih => exact .cons rfl (Text.trimLineEnd_trimLineEnd line) ih

theorem splitFirst_line {line : Text} (hline : '\n' ∉ line) (rest : Text) :
    Lines.splitFirst (line ++ '\n' :: rest) = (line ++ ['\n'], rest) := by
  have hstays : ∀ character ∈ line, (character != '\n') = true := by
    intro character hmem
    exact bne_iff_ne.mpr fun heq => hline (heq ▸ hmem)
  simp [Lines.splitFirst, List.takeWhile_append_of_pos hstays, List.dropWhile_append_of_pos hstays]

theorem shows_readLine (reader : Reader) (prompt : Text) :
    reader.readLine.2.shows prompt = reader.shows prompt := by
  have hprompts : reader.readLine.2.prompts = reader.prompts := by
    cases reader with
    | scripted lines => cases lines <;> rfl
    | stream rest | terminal rest =>
        rw [readLine]
        split <;> rfl
  rw [shows, shows, hprompts]

end Reader

namespace Interpreter

/-- What the loop writes for lines that were run, with what the reader shows in front of them and of
the line that it misses at the end. -/
def shown (reader : Reader) (driven : List Driven) (ending : Session) : List Text :=
  driven.flatMap (fun line => reader.shows line.prompt ++ line.texts) ++
    if ending.running then reader.shows ending.prompt else []

section Driving

variable {setup : Setup} {registry : Registry} (hregistry : registry.Staged setup)
include hregistry

/-- Lines that a reader gives to the loop. -/
theorem Drives.run {files last : FileSystem} {session ending : Session}
    {lines : List Text} {driven : List Driven}
    (hdrives : Drives setup registry files session lines driven last ending) (id : Text)
    (texts : List Text) {reader : Reader} (hserves : reader.Serves lines) :
    ∃ unread,
      run setup registry { files, session := { session with id }, output := texts, reader } =
        .ok 0
          { files := last
            session := { ending with id }
            output := texts ++ shown reader driven ending
            reader := unread } := by
  induction hdrives generalizing texts reader with
  | done files session =>
      obtain ⟨hread⟩ := hserves
      by_cases hrunning : session.running = true
      · refine ⟨reader.readLine.2, ?_⟩
        rw [run_of_end hrunning hread]
        simp [World.asked, shown, hrunning, Session.prompt]
      · refine ⟨reader, ?_⟩
        rw [run_of_ended (by simpa using hrunning)]
        simp [shown, hrunning]
  | ended lines hended =>
      refine ⟨reader, ?_⟩
      rw [run_of_ended hended]
      simp [shown, hended]
  | @line files last session ending line lines driven reply after hrunning hcaptures hline _ ih =>
      obtain - | @⟨_, behind, _, given, _, hread, hgiven, hserves⟩ := hserves
      have hshows : behind.shows = reader.shows := by
        funext prompt
        rw [← reader.shows_readLine prompt, hread]
      -- The line comes without what ends it, which does not show once the line is trimmed.
      have hrun := processLine_recast hregistry hcaptures hline (fun _ => id)
        (texts ++ reader.shows session.prompt) behind
      rw [← processLine_congr (Text.trim_eq_of_trimLineEnd hgiven)] at hrun
      have hturn : Turns setup registry
          { files, session := { session with id }, output := texts, reader }
          { files := after.files
            session := { after.session with id }
            output := texts ++ reader.shows session.prompt ++ after.output
            reader := behind } := by
        refine ⟨hrunning, given, reply, congrArg Prod.fst hread, ?_⟩
        simp only [World.asked, hread]
        exact hrun
      obtain ⟨unread, hrest⟩ := ih (texts ++ reader.shows session.prompt ++ after.output) hserves
      refine ⟨unread, ?_⟩
      rw [run_of_turn hregistry hturn, hrest]
      simp only [shown, hshows, List.flatMap_cons, List.append_assoc]

end Driving

/-- Where the loop reads a line that captures nothing, the line captures nothing away from the
console either. -/
theorem captures_offstage {setup : Setup} {registry : Registry} (hregistry : registry.Staged setup)
    {world : World} {line given : Text} (hrunning : world.session.running = true)
    (hread : world.reader.readLine.1 = some given) (hgiven : given.trim = line.trim)
    (hcaptures : ∀ reader, ¬ CapturesFrom setup registry world reader) :
    captures registry line (.offstage world.files world.session) = [] := by
  apply captures_eq_nil_of_recast hregistry (Recasting.appends_console id world.asked.output
    world.asked.reader)
  rw [← captures_congr hgiven, List.eq_nil_iff_forall_not_mem]
  intro reader hreader
  refine hcaptures reader ⟨world, given, .refl, hrunning, hread, ?_⟩
  rw [← world.asked.recast_offstage]
  exact hreader

/-- Lines of which none captures anything when the loop reads them can be driven. -/
theorem exists_drives (setup : Setup) {lines : List Text} {world : World} (hworld : world.Sound)
    (hreader : world.reader = .scripted lines) (hlines : ∀ line ∈ lines, line.hasNull = false)
    (hcaptures : ∀ reader, ¬ CapturesFrom setup (standardRegistry setup) world reader) :
    ∃ driven last ending,
      Drives setup (standardRegistry setup) world.files world.session lines driven last ending := by
  have hregistry := staged_standardRegistry setup
  induction lines generalizing world with
  | nil => exact ⟨[], _, _, .done _ _⟩
  | cons line rest ih =>
      by_cases hrunning : world.session.running = true
      swap
      · exact ⟨[], _, _, .ended _ (by simpa using hrunning)⟩
      have hread : world.reader.readLine = (some line.trimLineEnd, .scripted rest) := by
        rw [hreader, Reader.readLine]
      have hgiven := Text.trim_trimLineEnd line
      have hnone := captures_offstage hregistry hrunning (congrArg Prod.fst hread) hgiven hcaptures
      have hoffstage : (World.offstage world.files world.session).Sound :=
        ⟨hworld.files, hworld.directory⟩
      obtain ⟨reply, after, hline, hafter⟩ := exists_processLine_eq (answers_standardRegistry setup)
        setup hoffstage (hlines line List.mem_cons_self)
      have hrun := processLine_recast hregistry hnone hline id world.asked.output (.scripted rest)
      rw [← processLine_congr hgiven] at hrun
      have hturn : Turns setup (standardRegistry setup) world
          { files := after.files
            session := after.session
            output := world.asked.output ++ after.output
            reader := .scripted rest } := by
        refine ⟨hrunning, _, reply, congrArg Prod.fst hread, ?_⟩
        have hasked : world.asked =
            { world with output := world.asked.output, reader := .scripted rest } := by
          simp only [World.asked, hread]
        rw [hasked]
        exact hrun
      have hothers := fun other hother => hlines other (List.mem_cons_of_mem line hother)
      have hnext : World.Sound
          { after with output := world.asked.output ++ after.output, reader := .scripted rest } :=
        ⟨hafter.files, hafter.directory⟩
      obtain ⟨driven, last, ending, hdrives⟩ := ih hnext rfl hothers fun reader hreader =>
        hcaptures reader (.of_reaches (.single hturn) hreader)
      exact ⟨_, last, ending, .line hrunning hnone hline hdrives⟩

end Interpreter

end LineShell
