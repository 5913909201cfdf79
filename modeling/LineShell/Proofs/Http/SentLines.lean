import LineShell.Proofs.Console.Verbatim
import LineShell.Proofs.Http.Driving
import LineShell.Proofs.Session.GivenLines
import Mathlib

/-!
# Lines on the command line and in requests

A line writes the same texts whether it is run on the command line or sent to a service, if the
request brings along what the line would find on the standard input.  The service answers with these
texts as they are, while the command line shows them on a screen.
-/

namespace LineShell

/-! ### A stream as a script -/

namespace Reader

/-- A stream with the lines that it has left as a script. -/
def asScript : Reader → Reader
  | .stream rest => .scripted (stream rest).lines
  | reader => reader

/-- The script gives the lines of the stream, one by one. -/
theorem readLine_asScript (reader : Reader) :
    reader.asScript.readLine = (reader.readLine.1, reader.readLine.2.asScript) := by
  cases reader with
  | scripted lines => cases lines <;> rfl
  | stream rest =>
      by_cases hrest : rest.isEmpty = true
      · have hread : (stream rest).readLine = (none, .stream rest) := by rw [readLine, if_pos hrest]
        rw [hread, asScript, lines_of_end hread, readLine]
      · have hread : (stream rest).readLine =
            (some (Lines.splitFirst rest).1.trimLineEnd, .stream (Lines.splitFirst rest).2) := by
          rw [readLine, if_neg hrest]
        rw [hread, asScript, lines_of_line hread, readLine, Text.trimLineEnd_trimLineEnd, asScript]
  | terminal rest =>
      simp only [asScript, readLine]
      split <;> rfl

/-- A stream is read as a stream. -/
theorem ReadsTo.of_stream {rest : Text} {after : Reader} (h : (Reader.stream rest).ReadsTo after) :
    ∃ left, after = .stream left := by
  induction h with
  | refl => exact ⟨rest, rfl⟩
  | tail _ hstep ih =>
      obtain ⟨left, rfl⟩ := ih
      rw [hstep, readLine]
      split
      · exact ⟨left, rfl⟩
      · exact ⟨_, rfl⟩

end Reader

/-- A capture takes the same lines from the script. -/
theorem Capture.takeLines_asScript (sentinel : Text) (reader : Reader) :
    takeLines sentinel reader.asScript =
      ((takeLines sentinel reader).1, (takeLines sentinel reader).2.asScript) := by
  induction reader using Reader.lines.induct with
  | case1 reader after hread =>
      have hscript := reader.readLine_asScript
      rw [hread] at hscript
      rw [takeLines_of_end hread, takeLines_of_end hscript]
  | case2 reader line after hread ih =>
      have hscript := reader.readLine_asScript
      rw [hread] at hscript
      by_cases hline : line.lower = sentinel.lower
      · rw [takeLines_of_sentinel hread hline, takeLines_of_sentinel hscript hline]
      · rw [takeLines_of_text hread hline, takeLines_of_text hscript hline, ih]

namespace Recasting

/-- A console at which texts were written before. -/
def behind (texts : List Text) : Recasting where
  texts written := texts ++ written

/-- A console of its own for a line of a session with an id, on a script in place of a stream. -/
def sent (id : Text) : Recasting where
  name _ := id
  lines := Reader.asScript

theorem appends_behind (texts : List Text) : (behind texts).Appends :=
  fun _ _ => (List.append_assoc _ _ _).symm

theorem appends_sent (id : Text) : (sent id).Appends :=
  fun _ _ => rfl

end Recasting

/-! ### Lines that come from both sides -/

namespace Http

/-- Requests run lines in the session of an id.  To each line that the command line runs from a world
on, the request brings what the standard input has left at that point. -/
inductive SentAlike (setup : ServiceSetup) (id : Text) : World → List Text → List Request → Prop
  | done (world : World) : SentAlike setup id world [] []
  | ended {world : World} {lines : List Text} {requests : List Request}
      (hended : world.session.running = false)
      (hasks : List.Forall₂ (setup.Asks id) lines requests) :
      SentAlike setup id world lines requests
  | line {world after : World} {line : Text} {lines : List Text} {request : Request}
      {requests : List Request} {reply : Option Reply} (hrunning : world.session.running = true)
      (hcall : setup.reads request = .call (.run id ⟨line, world.reader.lines⟩))
      (hline : Interpreter.processLine setup.commands (standardRegistry setup.commands) line world =
        .ok reply after)
      (hrest : SentAlike setup id after lines requests) :
      SentAlike setup id world (line :: lines) (request :: requests)

variable {setup : ServiceSetup} {world : World} {rest line : Text}

/-- A line on the command line and the same line sent with what is left of the stream write the same
texts and leave the same files and session. -/
theorem processLine_sent (hworld : world.Sound) (hreader : world.reader = .stream rest)
    (hline : line.hasNull = false) :
    ∃ reply texts after left,
      Interpreter.processLine setup.commands (standardRegistry setup.commands) line world =
        .ok reply after ∧
      after.Sound ∧ after.output = world.output ++ texts ∧ after.reader = .stream left ∧
      ∀ id,
        Interpreter.processLine setup.commands (standardRegistry setup.commands) line
            { files := world.files
              session := { world.session with id }
              output := []
              reader := .scripted world.reader.lines } =
          .ok reply
            { files := after.files
              session := { after.session with id }
              output := texts
              reader := .scripted after.reader.lines } := by
  -- Both worlds are changes of the one in which nothing was written yet.
  obtain ⟨files, session, texts, reader⟩ := world
  obtain rfl : reader = .stream rest := hreader
  have hstaged := staged_standardRegistry setup.commands
  have hstart : World.Sound { files, session, output := [], reader := .stream rest } :=
    ⟨hworld.files, hworld.directory⟩
  obtain ⟨reply, after, hrun, hafter⟩ := Interpreter.exists_processLine_eq
    (answers_standardRegistry setup.commands) setup.commands hstart hline
  have hreads := ((Interpreter.reads_processLine hstaged line _ _ .refl).of_ok hrun).2
  obtain ⟨left, hleft⟩ := hreads.of_stream
  have hbehind := (Interpreter.commutesAt_processLine hstaged (Recasting.appends_behind texts)
    fun _ _ => rfl).of_ok hrun
  have hsent := fun id => (Interpreter.commutesAt_processLine hstaged (Recasting.appends_sent id)
    fun reader _ => Capture.takeLines_asScript _ reader).of_ok hrun
  simp only [World.recast, Recasting.behind, Recasting.sent, List.append_nil, hleft,
    Reader.asScript] at hbehind hsent
  exact ⟨reply, after.output, _, left, hbehind, ⟨hafter.files, hafter.directory⟩, rfl, rfl, hsent⟩

theorem flatMap_written_ended (count : Nat) :
    (List.replicate count (.ok .ended)).flatMap written = [] := by
  simp [written, List.flatMap_replicate]

/-- Lines on the command line and the same lines sent one by one write the same texts and leave the
same files and session. -/
theorem exists_runCommands_sent {lines : List Text} (hworld : world.Sound)
    (hreader : world.reader = .stream rest) (hlines : ∀ line ∈ lines, line.hasNull = false) :
    ∃ texts after,
      CommandLine.runCommands setup.commands (standardRegistry setup.commands) (lines.map some)
        world = .ok () after ∧
      after.output = world.output ++ texts ∧
      ∀ (service : Service) id requests, service.files = world.files →
        service.store.get? id = some { world.session with id } →
        SentAlike setup id world lines requests →
        (service.answerAll setup requests).1.flatMap written = texts.flatten ∧
          (service.answerAll setup requests).2.files = after.files ∧
          (service.answerAll setup requests).2.store.get? id = some { after.session with id } := by
  induction lines generalizing world rest with
  | nil =>
      refine ⟨[], world, rfl, (List.append_nil _).symm, fun service id requests hfiles hsession h => ?_⟩
      obtain rfl : requests = [] := by
        cases h with
        | done => rfl
        | ended _ hasks => exact List.forall₂_nil_left_iff.mp hasks
      exact ⟨rfl, hfiles, hsession⟩
  | cons line lines ih =>
      by_cases hrunning : world.session.running = true
      swap
      · have hended : world.session.running = false := by simpa using hrunning
        refine ⟨[], world, Interpreter.runCommands_of_ended hended _, (List.append_nil _).symm,
          fun service id requests hfiles hsession h => ?_⟩
        cases h with
        | ended _ hasks =>
            rw [Service.answerAll_of_ended hsession hended hasks]
            exact ⟨flatMap_written_ended _, hfiles, hsession⟩
        | line hrunning => exact absurd (hended.symm.trans hrunning) (by decide)
      obtain ⟨reply, first, after, left, hline, hafter, houtput, hleft, hsent⟩ :=
        processLine_sent hworld hreader (hlines line List.mem_cons_self)
      obtain ⟨others, last, hrest, hlast, hservice⟩ := ih hafter hleft fun other hother =>
        hlines other (List.mem_cons_of_mem line hother)
      refine ⟨first ++ others, last, ?_, ?_, fun service id requests hfiles hsession h => ?_⟩
      · rw [List.map_cons, Interpreter.runCommands_of_ok hrunning hline, hrest]
      · rw [hlast, houtput, List.append_assoc]
      cases h with
      | ended hended => exact absurd (hended.symm.trans hrunning) (by decide)
      | line _ hcall hline' hrequests =>
          cases hline.symm.trans hline'
          have hanswer := Service.answer_of_running hsession hrunning hcall (hfiles ▸ hsent id)
          obtain ⟨hwritten, hrest⟩ := hservice
            { files := after.files, store := service.store.update { after.session with id } } id _
            rfl (SessionStore.get?_update_of_get? hsession rfl) hrequests
          rw [Service.answerAll_cons hanswer, List.flatMap_cons, List.flatten_append, hwritten]
          exact ⟨rfl, hrest⟩

end Http

/-! ### Runs of the program -/

namespace CommandLine

open Http (SentAlike ServiceSetup Service written)

/-- The program is started on lines: with settings, on a display with so many columns, and with a
session in a directory. -/
structure Starts (display : Display) (host : Host) (environment : Environment)
    (arguments : List Text) (files : FileSystem) (settings : Settings) (columns : Nat)
    (directory : Text) (lines : List Text) : Prop where
  configured : Settings.ofEnvironment (files.workingPath?.getD "/") environment = .ok settings
  measured : display.columns environment = .ok columns
  understood : ∃ given, read arguments = .run given ∧ given.commands = lines.map some ∧
    (∃ number, settings.level given.logLevel = .ok number) ∧
    settings.startIn host files given.directory = .ok directory
  nonempty : lines ≠ []

/-- The world in which the first line of the command line is run. -/
def commandWorld (files : FileSystem) (directory input : Text) : World where
  files := files
  session := { directory }
  output := []
  reader := .stream input

/-- The outcome of a run that ends in a world. -/
def Outcome.endedIn (display : Display) (columns : Nat) (world : World) : Outcome where
  ending := .status 0
  output := shown display columns world.output
  files := world.files
  unread := world.reader.unread

variable {display : Display} {setup : ServiceSetup} {environment : Environment}
variable {arguments : List Text} {files : FileSystem} {columns : Nat} {directory : Text}
variable {lines : List Text}

/-- A run of the program shows the texts that its lines write. -/
theorem Starts.run_eq (hstarts : Starts display setup.host environment arguments files
      setup.settings columns directory lines)
    {input : Text} {after : World}
    (hrun : runCommands setup.commands (standardRegistry setup.commands) (lines.map some)
      (commandWorld files directory input) = .ok () after) :
    run setup.host environment arguments input files display =
      .ok (.endedIn display columns after) := by
  obtain ⟨given, hread, hcommands, ⟨number, hlevel⟩, hstart⟩ := hstarts.understood
  have hnonempty : (lines.map some).isEmpty = false := by simpa using hstarts.nonempty
  have hwith : runWith display setup.host columns setup.settings given input files =
      .endedIn display columns after := by
    rw [runWith, hlevel, hstart]
    simp only [runSession, hcommands, hnonempty, Bool.false_eq_true, if_false]
    exact congrArg (Outcome.ofResult display columns []) (bind_of_ok hrun)
  rw [run, hstarts.configured]
  simp only [bind, Except.bind, hread, hstarts.measured, hwith]
  rfl

/-- The lines of the command line write the texts with which a service answers the same lines,
however it reads requests and makes ids.  On a display that shows text line by line the standard
output is these texts if and only if there is nothing in them, or the screen has columns and shows
each of the texts as it is. -/
theorem run_verbatim_iff (setup : ServiceSetup) {crops : Bool} (hdisplay : display.ShowsLines crops)
    (hstarts : Starts display setup.host environment arguments files setup.settings columns
      directory lines)
    (input : Text) (hfiles : files.NullFree) (hlines : ∀ line ∈ lines, line.hasNull = false) :
    let start := commandWorld files directory input
    ∃ outcome after,
      run setup.host environment arguments input files display = .ok outcome ∧
      runCommands setup.commands (standardRegistry setup.commands) (lines.map some) start =
        .ok () after ∧
      outcome = .endedIn display columns after ∧
      (outcome.output = after.output.flatten ↔
        after.output.flatten = [] ∨
          columns ≠ 0 ∧ ∀ text ∈ after.output, Screen.Keeps crops columns text) ∧
      ∀ (service : Service) id requests, service.files = files →
        service.store.get? id = some { id, directory } →
        SentAlike setup id start lines requests →
        (service.answerAll setup requests).1.flatMap written = after.output.flatten ∧
          (service.answerAll setup requests).2.files = outcome.files := by
  intro start
  obtain ⟨-, -, ⟨given, -, -, -, hstart⟩, -⟩ := id hstarts
  have hstartSound : start.Sound := ⟨hfiles, Settings.sound_of_startIn hstart⟩
  obtain ⟨texts, after, hrun, houtput, hservice⟩ :=
    Http.exists_runCommands_sent hstartSound rfl hlines
  obtain rfl : after.output = texts := houtput
  refine ⟨_, after, hstarts.run_eq hrun, hrun, rfl,
    hdisplay.flatMap_text_eq_flatten_iff columns _, fun service id requests hsame hsession h => ?_⟩
  obtain ⟨hwritten, hlast, -⟩ := hservice service id requests hsame hsession h
  exact ⟨hwritten, hlast⟩

section Example

/-- The settings that come from an empty environment. -/
def plainSettings : Settings where
  startDirectory := "/"
  sentinel := "exit"
  logLevel := "WARNING"
  apiHost := "127.0.0.1"
  apiPort := 8000
  home := "/"

/-- A service with the plain settings. -/
def plainService : ServiceSetup := { host := {}, settings := plainSettings }

/-- A file at the root. -/
def filed (content : Bytes) : FileSystem := { top := [("f", .file content)] }

/-- A service over files in which a session was opened at the root. -/
def opened (files : FileSystem) : Service :=
  { files, store := (SessionStore.empty.create "/").2 }

/-- A request to run a line in the session that is opened first. -/
def sending (body : Text) : Http.Request where
  method := "POST"
  target := "/sessions/" ++ SessionStore.idAfter 0 ++ "/commands"
  body := body.utf8

/-- Letters in brackets, which are no markup here. -/
def bracketed : FileSystem := filed [0x5B, 0x62, 0x5D, 0x61, 0x5B, 0x2F, 0x62, 0x5D, 0x0A]

/-- Two letters with a tab in between. -/
def tabbed : FileSystem := filed [0x61, 0x09, 0x62, 0x0A]

theorem starts_bracketed :
    Starts {} plainService.host {} ["-c", "cat f", "-c", "cat"] bracketed plainService.settings 80
      "/" ["cat f", "cat"] where
  configured := rfl
  measured := rfl
  understood := ⟨{ commands := [some "cat f", some "cat"] }, by cbv, rfl, ⟨30, by cbv⟩, by cbv⟩
  nonempty := by simp

/-- A request to run a line in the session that is opened first, with two lines to capture. -/
def catRequest (line : Text) : Http.Request :=
  sending ("\x7b\"line\": \"" ++ line ++ "\", \"input_lines\": [\"more\", \"exit\"]\x7d")

theorem processLine_bracketed_file :
    Interpreter.processLine plainService.commands (standardRegistry plainService.commands) "cat f"
        (commandWorld bracketed "/" "more\nexit\n") =
      .ok (some (.say "[b]a[/b]\n"))
        { commandWorld bracketed "/" "more\nexit\n" with output := ["[b]a[/b]\n"] } := by
  cbv

theorem processLine_bracketed_capture :
    Interpreter.processLine plainService.commands (standardRegistry plainService.commands) "cat"
        { commandWorld bracketed "/" "more\nexit\n" with output := ["[b]a[/b]\n"] } =
      .ok (some (.say "more\n"))
        { commandWorld bracketed "/" [] with
          output := ["[b]a[/b]\n", "Enter text (type 'exit' to finish input):\n", "more\n"] } := by
  cbv

theorem sentAlike_bracketed :
    SentAlike plainService (SessionStore.idAfter 0)
      (commandWorld bracketed "/" "more\nexit\n") ["cat f", "cat"]
      [catRequest "cat f", catRequest "cat"] := by
  have hmore : (Reader.stream "more\nexit\n").readLine =
      (some ("more" : Text), .stream "exit\n") := rfl
  have hexit : (Reader.stream "exit\n").readLine = (some ("exit" : Text), .stream []) := rfl
  have hend : (Reader.stream []).readLine = (none, .stream []) := rfl
  have hlines : (Reader.stream "more\nexit\n").lines = (["more", "exit"] : List Text) := by
    rw [Reader.lines_of_line hmore, Reader.lines_of_line hexit, Reader.lines_of_end hend]
  have hcalls : plainService.reads (catRequest "cat f") =
        .call (.run (SessionStore.idAfter 0) ⟨"cat f", ["more", "exit"]⟩) ∧
      plainService.reads (catRequest "cat") =
        .call (.run (SessionStore.idAfter 0) ⟨"cat", ["more", "exit"]⟩) := by
    decide +kernel
  exact .line rfl (hlines ▸ hcalls.1) processLine_bracketed_file
    (.line rfl (hlines ▸ hcalls.2) processLine_bracketed_capture (.done _))

/-- A file with brackets and a captured line are shown as a service answers with them. -/
theorem run_verbatim_iff_bracketed :
    let shown := "[b]a[/b]\nEnter text (type 'exit' to finish input):\nmore\n".toList
    Display.ShowsLines {} false ∧
      Starts {} plainService.host {} ["-c", "cat f", "-c", "cat"] bracketed plainService.settings 80
        "/" ["cat f", "cat"] ∧
      bracketed.NullFree ∧
      SentAlike plainService (SessionStore.idAfter 0)
        (commandWorld bracketed "/" "more\nexit\n") ["cat f", "cat"]
        [catRequest "cat f", catRequest "cat"] ∧
      (∃ outcome,
        run {} {} ["-c", "cat f", "-c", "cat"] "more\nexit\n" bracketed = .ok outcome ∧
          outcome.output = shown) ∧
      ((opened bracketed).answerAll plainService [catRequest "cat f", catRequest "cat"]).1.flatMap
        written = shown := by
  intro shown
  have hfiles : bracketed.NullFree := Node.nullFree_directory fun entry hentry => by
    rw [List.mem_singleton.mp hentry]
    exact ⟨by decide, Node.nullFree_file _⟩
  have hcommands : runCommands plainService.commands (standardRegistry plainService.commands)
      [some "cat f", some "cat"] (commandWorld bracketed "/" "more\nexit\n") =
        .ok ()
          { commandWorld bracketed "/" [] with
            output := ["[b]a[/b]\n", "Enter text (type 'exit' to finish input):\n", "more\n"] } := by
    rw [Interpreter.runCommands_of_ok rfl processLine_bracketed_file,
      Interpreter.runCommands_of_ok rfl processLine_bracketed_capture]
    rfl
  have hsession : (opened bracketed).store.get? (SessionStore.idAfter 0) =
      some { id := SessionStore.idAfter 0, directory := "/" } := by
    decide +kernel
  obtain ⟨outcome, after, hrun, hran, -, hverbatim, hservice⟩ :=
    run_verbatim_iff plainService (Display.showsLines_render false) starts_bracketed "more\nexit\n"
      hfiles (by decide)
  cases hran.symm.trans hcommands
  have hkeeps : ∀ text ∈ (["[b]a[/b]\n", "Enter text (type 'exit' to finish input):\n", "more\n"] :
      List Text), Screen.Keeps false 80 text := by
    decide +kernel
  exact ⟨Display.showsLines_render false, starts_bracketed, hfiles, sentAlike_bracketed,
    ⟨outcome, hrun, hverbatim.mpr (.inr ⟨by decide, hkeeps⟩)⟩,
    (hservice (opened bracketed) _ _ rfl hsession sentAlike_bracketed).1⟩

/-- A tab is not shown as it is, while a service answers with it. -/
theorem not_run_verbatim_tabbed :
    ∃ outcome after,
      run {} {} ["-c", "cat f"] [] tabbed = .ok outcome ∧
      runCommands plainService.commands (standardRegistry plainService.commands) [some "cat f"]
        (commandWorld tabbed "/" []) = .ok () after ∧
      outcome.output = "a       b\n" ∧ after.output.flatten = "a\tb\n" ∧
      outcome.output ≠ after.output.flatten ∧
      ((opened tabbed).answerAll plainService [sending "\x7b\"line\": \"cat f\"\x7d"]).1.flatMap
        written = after.output.flatten := by
  have hshown : run {} {} ["-c", "cat f"] [] tabbed =
      .ok { ending := .status 0, output := "a       b\n", files := tabbed, unread := [] } := by
    cbv
  have hrun : runCommands plainService.commands (standardRegistry plainService.commands)
      [some "cat f"] (commandWorld tabbed "/" []) =
        .ok () { commandWorld tabbed "/" [] with output := ["a\tb\n"] } := by
    cbv
  have hcall : plainService.reads (sending "\x7b\"line\": \"cat f\"\x7d") =
      .call (.run (SessionStore.idAfter 0) ⟨"cat f", []⟩) := by
    decide +kernel
  have hsession : (opened tabbed).store.get? (SessionStore.idAfter 0) =
      some { id := SessionStore.idAfter 0, directory := "/" } := by
    decide +kernel
  have hline : Interpreter.processLine plainService.commands
      (standardRegistry plainService.commands) "cat f"
      { files := tabbed
        session := { id := SessionStore.idAfter 0, directory := "/" }
        output := []
        reader := .scripted [] } =
        .ok (some (.say "a\tb\n"))
          { files := tabbed
            session := { id := SessionStore.idAfter 0, directory := "/" }
            output := ["a\tb\n"]
            reader := .scripted [] } := by
    cbv
  have hanswer := Service.answer_of_running hsession rfl hcall hline
  refine ⟨_, _, hshown, hrun, rfl, rfl, by decide, ?_⟩
  rw [Service.answerAll_cons hanswer]
  rfl

end Example

end CommandLine

end LineShell
