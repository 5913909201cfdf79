import LineShell.Proofs.Pipeline.Accepted
import LineShell.Proofs.Session.GivenLines
import LineShell.Proofs.Session.Showing

/-!
# Typing into a file

A bare `cat` with a redirection behind it takes typed text into the file: the lines of the reader in
front of the sentinel line, each ended by a line feed.  With one space in front of the operator the
line is a capture of its own, and with two spaces it is a pipeline whose only stage captures.  Both
take the same lines and write the same text, and what was written is what is shown of the file.
-/

namespace LineShell

open Request (IsTarget IsTargetText redirect)

namespace Capture

/-- The text that a capture makes of the lines of a reader. -/
def typed (setup : Setup) (reader : Reader) : Text :=
  asText (taken setup.sentinel reader.lines)

/-- Lines without carriage returns make a text in lines. -/
theorem inLines_asText {lines : List Text} (hlines : ∀ line ∈ lines, '\r' ∉ line) :
    (asText lines).InLines := by
  constructor
  · intro hmem
    obtain ⟨line, hline, hmem⟩ := List.mem_flatMap.mp hmem
    exact hlines line hline (by simpa using hmem)
  · rcases lines.eq_nil_or_concat with rfl | ⟨init, last, rfl⟩
    · exact .inl rfl
    · exact .inr (by simp [asText])

end Capture

/-- The world after a capture: its banner is written, and the reader is behind the sentinel line. -/
def World.afterCapture (world : World) (setup : Setup) (banner : Text) : World where
  files := world.files
  session := world.session
  output := world.output ++ [banner ++ "\n"]
  reader := world.reader.skip ((Capture.taken setup.sentinel world.reader.lines).length + 1)

namespace Shell

variable {setup : Setup} {mode : WriteMode} {target content : Text} {world : World}

theorem capture_eq_typed (setup : Setup) (banner : Text) (world : World) :
    capture setup banner world =
      .ok (Capture.typed setup world.reader) (world.afterCapture setup banner) := by
  rw [capture_eq, Capture.takeLines_eq]
  rfl

/-- What a capture changes of a world is nothing to a write. -/
theorem commutesAt_afterCapture (setup : Setup) (banner : Text) (world : World) (mode : WriteMode)
    (target content : Text) :
    CommutesAt
      (fun after =>
        { world.afterCapture setup banner with files := after.files, session := after.session })
      (writeTo setup mode target content) world := by
  let recasting : Recasting :=
    { texts := fun _ => (world.afterCapture setup banner).output
      lines := fun _ => (world.afterCapture setup banner).reader }
  have hrecasts : Recasts recasting (writeTo setup mode target content) :=
    (quiet_writeTo setup mode target content).recasts
  exact hrecasts world

theorem writeTo_afterCapture_of_ok {status : Text} {files : FileSystem}
    (hwrite : writeTo setup mode target content world = .ok status { world with files })
    (banner : Text) :
    writeTo setup mode target content (world.afterCapture setup banner) =
      .ok status { world.afterCapture setup banner with files } :=
  (commutesAt_afterCapture setup banner world mode target content).of_ok hwrite

theorem writeTo_afterCapture_of_error {escape : Escape}
    (hwrite : writeTo setup mode target content world = .error escape world) (banner : Text) :
    writeTo setup mode target content (world.afterCapture setup banner) =
      .error escape (world.afterCapture setup banner) :=
  (commutesAt_afterCapture setup banner world mode target content).of_error hwrite

end Shell

namespace Interpreter

section Runs

variable {setup : Setup} {mode : WriteMode} {target : Text} {world : World} {files : FileSystem}

/-- What a null character in a path says of the current directory. -/
theorem hasNull_directory {session : Session} (htarget : target.hasNull = false)
    (hpath : (session.resolve target).hasNull = true) : session.directory.hasNull = true := by
  by_contra hdirectory
  have hjoined : (session.resolve target).hasNull = false :=
    Path.hasNull_join (by simpa using hdirectory) htarget
  exact absurd hpath (by simp [hjoined])

/-- With one space in front of the operator, the line takes text, writes it and tells the status. -/
theorem processLine_heredoc_of_ok (registry : Registry) (hne : target ≠ [])
    (hname : target.trim = target) {status : Text}
    (hwrite : Shell.writeTo setup mode target (Capture.typed setup world.reader) world =
      .ok status { world with files }) :
    processLine setup registry (redirect "cat" mode target) world =
      .ok (some (.say status))
        { world.afterCapture setup heredocBanner with
          files
          output := world.output ++ [heredocBanner ++ "\n", status] } := by
  have hrun : perform setup registry (.heredoc target mode) world =
      .ok (.say status)
        { world.afterCapture setup heredocBanner with
          files
          output := world.output ++ [heredocBanner ++ "\n", status] } := by
    rw [perform, runHeredoc, bind_of_ok (Shell.capture_eq_typed setup heredocBanner world),
      bind_of_ok (Shell.writeTo_afterCapture_of_ok hwrite heredocBanner)]
    have houtput : world.output ++ [heredocBanner ++ "\n", status] =
        (world.afterCapture setup heredocBanner).output ++ [status] := by
      simp [World.afterCapture]
    rw [houtput]
    rfl
  rw [processLine_of_parse setup registry (Request.Typed.parse_redirect_cat mode hne hname)]
  exact map_of_ok hrun

/-- Where the write breaks off, so does the line, before it tells anything. -/
theorem processLine_heredoc_of_error (registry : Registry) (hne : target ≠ [])
    (hname : target.trim = target) {escape : Escape}
    (hwrite : Shell.writeTo setup mode target (Capture.typed setup world.reader) world =
      .error escape world) :
    processLine setup registry (redirect "cat" mode target) world =
      .error escape (world.afterCapture setup heredocBanner) := by
  have hrun : perform setup registry (.heredoc target mode) world =
      .error escape (world.afterCapture setup heredocBanner) := by
    rw [perform, runHeredoc, bind_of_ok (Shell.capture_eq_typed setup heredocBanner world)]
    exact bind_of_error (Shell.writeTo_afterCapture_of_error hwrite heredocBanner)
  rw [processLine_of_parse setup registry (Request.Typed.parse_redirect_cat mode hne hname)]
  exact map_of_error hrun

/-- With two spaces in front of the operator, the line asks for a stage with a redirection. -/
theorem parse_redirect_spaced (mode : WriteMode) (htarget : IsTargetText target) :
    Request.parse (redirect "cat " mode target) =
      .ok (.pipeline
        { stages := [Stage.ofText "cat"]
          redirection := some { target, mode, command := "cat" } }) := by
  obtain ⟨init, last, hlast, hstays⟩ := Text.exists_concat_of_trim htarget.ne_nil htarget.trim
  have htrim : (redirect "cat " mode target).trim = redirect "cat " mode target := by
    have hfirst : isBlank 'c' = false := by decide
    have h := Text.trim_append_of_not_blank [] (("at  " : Text) ++ mode.operator ++ ' ' :: init)
      hfirst hstays
    simpa [redirect, hlast] using h
  have hstart : ¬ Request.heredocStart <+: redirect "cat " mode target := by
    simp [redirect, Request.heredocStart]
  have hsegment : redirect "cat " mode target =
      ("cat  " : Text) ++ (mode.operator ++ ' ' :: target) := by
    simp [redirect]
  have hpipe : '|' ∉ redirect "cat " mode target := by
    rw [hsegment, List.mem_append, List.mem_append, List.mem_cons]
    rintro (hmem | hmem | hmem | hmem)
    · exact absurd hmem (by decide)
    · cases mode <;> exact absurd hmem (by decide)
    · exact absurd hmem (by decide)
    · exact htarget.pipe hmem
  have hlastSegment := Request.ofLastSegment_redirected [] mode
    (show '>' ∉ ("cat  " : Text) by decide) htarget
  have hcommand : Text.trim "cat  " = "cat" := by decide
  rw [← hsegment, htrim, hcommand, if_neg (by simp)] at hlastSegment
  have hne : redirect "cat " mode target ≠ [] := by simp [redirect]
  generalize redirect "cat " mode target = line at *
  rw [← htrim] at hne hstart
  rw [Request.parse_of_not_capture hne hstart, htrim, Request.frontStages_eq_nil_iff.mpr hpipe,
    Request.lastSegment, Text.behindLast_of_not_mem hpipe, htrim, hlastSegment]
  rfl

/-- With two spaces in front of the operator, the only stage takes text, which is sent to the
file. -/
theorem processLine_spaced {registry : Registry} (hregistry : registry.Staged setup)
    (mode : WriteMode) (htarget : IsTargetText target) (world : World) :
    processLine setup registry (redirect "cat " mode target) world =
      sendTo setup mode target (Capture.typed setup world.reader)
        (world.afterCapture setup ContentCommands.captureBanner) := by
  have hname : (Stage.ofText "cat").name.lower = "cat" := by decide
  have hstage : Pipeline.runStage registry (Stage.ofText "cat") none =
      (do return .say (← Shell.capture setup ContentCommands.captureBanner)) :=
    hregistry.captures hname
  have hstages : Pipeline.runStages registry [Stage.ofText "cat"] {} world =
      .ok (.say (Capture.typed setup world.reader))
        (world.afterCapture setup ContentCommands.captureBanner) := by
    rw [Pipeline.runStages, hstage, bind_assoc,
      bind_of_ok (Shell.capture_eq_typed setup ContentCommands.captureBanner world)]
    rfl
  have hparse := parse_redirect_spaced mode htarget
  generalize redirect "cat " mode target = line at hparse ⊢
  generalize Stage.ofText "cat" = stage at hparse hstages
  have hsent := processLine_of_redirection setup hparse hstages rfl
  exact hsent

theorem processLine_spaced_of_ok {registry : Registry} (hregistry : registry.Staged setup)
    (htarget : IsTargetText target) {status : Text}
    (hwrite : Shell.writeTo setup mode target (Capture.typed setup world.reader) world =
      .ok status { world with files }) :
    processLine setup registry (redirect "cat " mode target) world =
      .ok (some (.say status))
        { world.afterCapture setup ContentCommands.captureBanner with files } := by
  rw [processLine_spaced hregistry mode htarget, sendTo,
    bind_of_ok (Shell.writeTo_afterCapture_of_ok hwrite ContentCommands.captureBanner)]
  rfl

theorem processLine_spaced_of_error {registry : Registry} (hregistry : registry.Staged setup)
    (htarget : IsTargetText target) {escape : Escape}
    (hwrite : Shell.writeTo setup mode target (Capture.typed setup world.reader) world =
      .error escape world) :
    processLine setup registry (redirect "cat " mode target) world =
      .error escape (world.afterCapture setup ContentCommands.captureBanner) := by
  rw [processLine_spaced hregistry mode htarget, sendTo,
    bind_of_error (Shell.writeTo_afterCapture_of_error hwrite ContentCommands.captureBanner)]

end Runs

/-- With one space in front of the operator, a bare `cat` takes the lines in front of the sentinel
line and leaves those behind it.  What it took is written, each line ended by a line feed, as it
would be written at once, and the status is told.  Where this replaced the content of a file and no
line has a carriage return in it, it is what the file is shown as. -/
theorem heredoc_takes_lines (setup : Setup) (mode : WriteMode) {target : Text} {world : World}
    (hfiles : world.files.Valid setup.host) (hne : target ≠ []) (hname : target.trim = target)
    (hnull : target.hasNull = false) :
    let taken := Capture.taken setup.sentinel world.reader.lines
    let content := Capture.asText taken
    Ends (processLine setup (standardRegistry setup) (redirect "cat" mode target)) world
      (fun reply after =>
        after.session = world.session ∧
        after.reader = world.reader.skip (taken.length + 1) ∧
        after.reader.lines = Capture.left setup.sentinel world.reader.lines ∧
        ∃ status,
          reply = some (.say status) ∧
          after.output = world.output ++ [heredocBanner ++ "\n", status] ∧
          Shell.writeTo setup mode target content world =
            .ok status { world with files := after.files } ∧
          (status = mode.successStatus target ∧
              (∃ landing, Disk.Wrote setup.host mode (world.session.resolve target) content
                world.files landing after.files) ∨
            ∃ fault, status = mode.failureStatus fault ∧ Disk.Unwritten setup.host mode
              (world.session.resolve target) content world.files fault after.files) ∧
          (mode = .overwrite → status = mode.successStatus target → IsTarget target →
            (∀ line ∈ taken, '\r' ∉ line) →
            processLine setup (standardRegistry setup) (catLine target) after =
              .ok (some (.say content))
                { after with output := after.output ++ Reply.shown (some (.say content)) }))
      (fun escape after =>
        escape = .nullByte ∧ world.session.directory.hasNull = true ∧
        after = world.afterCapture setup heredocBanner) := by
  intro taken content
  have hwritten := Shell.ends_writeTo setup mode target content hfiles
  cases hwrite : Shell.writeTo setup mode target content world with
  | error escape after =>
      obtain ⟨rfl, hpath, rfl⟩ := hwritten.of_error hwrite
      rw [Ends.iff_of_error (processLine_heredoc_of_error _ hne hname hwrite)]
      exact ⟨rfl, hasNull_directory hnull hpath, rfl⟩
  | ok status after =>
      obtain ⟨hafter, houtcome⟩ := hwritten.of_ok hwrite
      rw [hafter] at hwrite
      rw [Ends.iff_of_ok (processLine_heredoc_of_ok _ hne hname hwrite)]
      have hleft : (world.reader.skip (taken.length + 1)).lines =
          Capture.left setup.sentinel world.reader.lines := by
        rw [Reader.lines_skip, Capture.drop_taken]
      refine ⟨rfl, rfl, hleft, status, rfl, rfl, congrArg _ hafter, houtcome, ?_⟩
      rintro rfl hsuccess htarget hlines
      obtain ⟨-, landing, hwrote⟩ | ⟨fault, hfault, -⟩ := houtcome
      · obtain ⟨stored, hdecode, hfile⟩ := hwrote.stored
        have hshown : (Utf8.decode stored).asLines = content := by
          rw [hdecode, (Capture.inLines_asText hlines).asLines_eq]
        rw [← hshown]
        exact processLine_catLine htarget hfile
      · exact absurd (hfault.symm.trans hsuccess) (WriteMode.failureStatus_ne_successStatus _ _ _)

section Example

/-- A machine whose captures end at a line of their own. -/
def finSetup : Setup := { host := {}, sentinel := "Fin" }

/-- A session at the root of an empty file system, with a text to be typed and a line behind it. -/
def finWorld : World :=
  { freshWorld with reader := .scripted ["a\r\n", "", " fin", "FIN\n", "more"] }

theorem valid_finWorld : finWorld.files.Valid {} :=
  FileSystem.valid_of_wellFormed (Node.wellFormed_directory (by decide) (by decide)
    (List.forall_mem_nil _))

theorem taken_finWorld :
    Capture.taken finSetup.sentinel finWorld.reader.lines = [("a" : Text), "", " fin"] := by
  rw [finWorld, Reader.lines_scripted]
  decide

/-- A line with a blank in front of the sentinel is text, and the case of the sentinel is not looked
at. -/
theorem heredoc_takes_lines_fin :
    finWorld.files.Valid {} ∧ ("f" : Text) ≠ [] ∧ Text.trim "f" = "f" ∧ Text.hasNull "f" = false ∧
      ∃ after,
        processLine finSetup (standardRegistry finSetup) (redirect "cat" .overwrite "f") finWorld =
          .ok (some (.say "Content written to f\n")) after ∧
        after.reader = .scripted ["more"] ∧
        processLine finSetup (standardRegistry finSetup) (catLine "f") after =
          .ok (some (.say "a\n\n fin\n"))
            { after with output := after.output ++ [("a\n\n fin\n" : Text)] } := by
  have hne : ("f" : Text) ≠ [] := by decide
  have hname : Text.trim "f" = "f" := by decide
  have hnull : Text.hasNull "f" = false := by decide
  have hdirectory : finWorld.session.directory.hasNull = false := by decide
  have hwrite : ∃ files, Shell.writeTo finSetup .overwrite "f" "a\n\n fin\n" finWorld =
      .ok "Content written to f\n" { finWorld with files } := ⟨_, rfl⟩
  refine ⟨valid_finWorld, ?_⟩
  have htakes := heredoc_takes_lines finSetup .overwrite valid_finWorld hne hname hnull
  have hcontent : Capture.asText [("a" : Text), "", " fin"] = "a\n\n fin\n" := by decide
  simp only [taken_finWorld, hcontent] at htakes
  cases hrun : processLine finSetup (standardRegistry finSetup) (redirect "cat" .overwrite "f")
      finWorld with
  | error escape last =>
      exact absurd (htakes.of_error hrun).2.1 (by simp [hdirectory])
  | ok reply last =>
      obtain ⟨-, hreader, -, status, rfl, -, htold, -, hshown⟩ := htakes.of_ok hrun
      obtain ⟨files, hwrite⟩ := hwrite
      obtain rfl : status = "Content written to f\n" := by
        injection htold.symm.trans hwrite
      refine ⟨hne, hname, hnull, last, rfl, ?_, hshown trivial rfl (by decide) (by decide)⟩
      rw [hreader, finWorld, Reader.skip_scripted]
      rfl

end Example

/-- The two ways to type into a file agree: with one space in front of the operator the line is a
capture, with two it is a pipeline, and both leave the same files, session and reader and have the
same status for a reply.  They tell different banners, and only the first tells the status. -/
theorem typing_agrees (setup : Setup) (mode : WriteMode) {target : Text} {world : World}
    (hfiles : world.files.Valid setup.host) (htarget : IsTargetText target)
    (hnull : target.hasNull = false) :
    Request.parse (redirect "cat" mode target) = .ok (.heredoc target mode) ∧
      Request.parse (redirect "cat " mode target) =
        .ok (.pipeline
          { stages := [Stage.ofText "cat"]
            redirection := some { target, mode, command := "cat" } }) ∧
      Ends (processLine setup (standardRegistry setup) (redirect "cat" mode target)) world
        (fun reply after =>
          ∃ status,
            reply = some (.say status) ∧
            after.session = world.session ∧
            after.output = world.output ++ [heredocBanner ++ "\n", status] ∧
            processLine setup (standardRegistry setup) (redirect "cat " mode target) world =
              .ok (some (.say status))
                { after with output := world.output ++ [ContentCommands.captureBanner ++ "\n"] })
        (fun escape after =>
          escape = .nullByte ∧ world.session.directory.hasNull = true ∧
          after.output = world.output ++ [heredocBanner ++ "\n"] ∧
          processLine setup (standardRegistry setup) (redirect "cat " mode target) world =
            .error escape
              { after with output := world.output ++ [ContentCommands.captureBanner ++ "\n"] }) := by
  have hregistry := staged_standardRegistry setup
  refine ⟨Request.Typed.parse_redirect_cat mode htarget.ne_nil htarget.trim,
    parse_redirect_spaced mode htarget, ?_⟩
  have hwritten := Shell.ends_writeTo setup mode target (Capture.typed setup world.reader) hfiles
  cases hwrite : Shell.writeTo setup mode target (Capture.typed setup world.reader) world with
  | error escape after =>
      obtain ⟨rfl, hpath, rfl⟩ := hwritten.of_error hwrite
      rw [Ends.iff_of_error
        (processLine_heredoc_of_error _ htarget.ne_nil htarget.trim hwrite)]
      exact ⟨rfl, hasNull_directory hnull hpath, rfl,
        processLine_spaced_of_error hregistry htarget hwrite⟩
  | ok status after =>
      obtain ⟨hafter, -⟩ := hwritten.of_ok hwrite
      rw [hafter] at hwrite
      rw [Ends.iff_of_ok (processLine_heredoc_of_ok _ htarget.ne_nil htarget.trim hwrite)]
      exact ⟨status, rfl, rfl, rfl, processLine_spaced_of_ok hregistry htarget hwrite⟩

/-- Both lines add the text to a file whose name has two words. -/
theorem typing_agrees_twoWords :
    finWorld.files.Valid {} ∧ IsTargetText "my file" ∧ Text.hasNull "my file" = false ∧
      ∃ status after,
        processLine finSetup (standardRegistry finSetup) (redirect "cat" .append "my file")
          finWorld = .ok (some (.say status)) after ∧
        processLine finSetup (standardRegistry finSetup) (redirect "cat " .append "my file")
          finWorld =
            .ok (some (.say status))
              { after with output := [ContentCommands.captureBanner ++ "\n"] } := by
  have htarget : IsTargetText "my file" := ⟨by decide, by decide, by decide, by decide⟩
  have hnull : Text.hasNull "my file" = false := by decide
  have hdirectory : finWorld.session.directory.hasNull = false := by decide
  obtain ⟨-, -, hagree⟩ := typing_agrees finSetup .append valid_finWorld htarget hnull
  refine ⟨valid_finWorld, htarget, hnull, ?_⟩
  cases hrun : processLine finSetup (standardRegistry finSetup) (redirect "cat" .append "my file")
      finWorld with
  | error escape last => exact absurd (hagree.of_error hrun).2.1 (by simp [hdirectory])
  | ok reply last =>
      obtain ⟨status, rfl, -, -, hspaced⟩ := hagree.of_ok hrun
      exact ⟨status, last, rfl, hspaced⟩

end Interpreter

end LineShell
