import LineShell.Proofs.Pipeline.Rendered
import LineShell.Proofs.Session.Console
import LineShell.Proofs.Session.Written
import LineShell.Proofs.Text.Shown

/-!
# Showing files

`cat` shows what is in a file as lines.  What it shows is in a form that is shown as it is, so a copy
that is made by sending it to another file is shown just as the file itself.
-/

namespace LineShell

open Request (IsTarget redirect stagesOf Typed)

namespace ContentCommands

variable {setup : Setup} {world : World} {name : Text} {place : Place} {content : Bytes}

/-- The content of a file is shown as lines. -/
theorem run_cat_of_file
    (hfile : world.files.target? setup.host (world.session.resolve name) =
      some (place, .file content)) (piped : Option Text) :
    run setup { name := "cat", arguments := [name], piped } world =
      .ok (.say (Utf8.decode content).asLines) world := by
  have hread : Shell.onFiles (Disk.readText setup.host (world.session.resolve name)) world =
      .ok (.ok (Utf8.decode content)) world := by
    simp only [Shell.onFiles, Disk.readText_of_file hfile]
  have hshow : showFile setup name world = .ok (Utf8.decode content).asLines world := by
    rw [showFile, bind_of_ok (rfl : Shell.session world = .ok world.session world),
      bind_of_ok hread]
    rfl
  have hall : showFiles setup [name] world = .ok (Utf8.decode content).asLines world := by
    rw [showFiles, bind_of_ok hshow]
    simp [showFiles]
    rfl
  rw [run, if_pos rfl]
  exact bind_of_ok hall

end ContentCommands

namespace Interpreter

variable {setup : Setup} {world : World} {name : Text} {place : Place} {content : Bytes}

/-- The line that shows a file. -/
def catLine (name : Text) : Text :=
  "cat " ++ name

theorem catLine_eq (name : Text) : catLine name = Typed.body { stages := [["cat", name]] } := by
  simp [catLine, Typed.body, Typed.stageText, Text.joinWith]

theorem wellFormed_catLine (hname : IsTarget name) :
    Typed.WellFormed { stages := [["cat", name]] } where
  stages_ne_nil := by simp
  tokens := by
    have hcat : IsTarget "cat" := by decide
    simpa using ⟨hcat, hname⟩
  target := by simp

/-- Where the stages of a line do not end the session, their text is shown. -/
theorem processLine_of_runStages (setup : Setup) {registry : Registry} {line : Text} {reply : Reply}
    {after : World} (hsign : '>' ∉ line) (hblank : line.trim ≠ [])
    (hrun : Pipeline.runStages registry (stagesOf line) {} world = .ok reply after)
    (hterminate : reply.terminate = false) :
    processLine setup registry line world =
      .ok (some reply) { after with output := after.output ++ Reply.shown (some reply) } := by
  have hperform := perform_pipeline setup registry { stages := stagesOf line } world
  rw [hrun] at hperform
  simp only [hterminate, Bool.false_eq_true, if_false] at hperform
  rw [processLine_of_parse setup registry (Request.parse_of_no_sign hsign hblank)]
  exact map_of_ok (hperform.trans (deliver_output setup reply after))

theorem dispatch_cat (setup : Setup) (arguments : List Text) (piped : Option Text) :
    (standardRegistry setup).dispatch { name := "cat", arguments, piped } =
      ContentCommands.run setup { name := "cat", arguments, piped } := by
  have hlower : Text.lower "cat" = "cat" := by decide
  rw [Registry.dispatch, find?_cat setup hlower]
  simp only [hlower, ContentCommands.group]

/-- The line has one stage, which leads to the command. -/
theorem runStages_catLine (hname : IsTarget name)
    (hfile : world.files.target? setup.host (world.session.resolve name) =
      some (place, .file content)) :
    Pipeline.runStages (standardRegistry setup) (stagesOf (catLine name)) {} world =
      .ok (.say (Utf8.decode content).asLines) world := by
  have hstages : stagesOf (catLine name) = [Typed.stage ["cat", name]] := by
    rw [catLine_eq, (wellFormed_catLine hname).stagesOf_body]
    rfl
  have hstage : Pipeline.runStage (standardRegistry setup) (Typed.stage ["cat", name]) none world =
      .ok (.say (Utf8.decode content).asLines) world := by
    have hblank : (Typed.stage ["cat", name]).isBlank = false := rfl
    have hdispatch := dispatch_cat setup [name] none
    have hrun := ContentCommands.run_cat_of_file hfile none
    rw [Pipeline.runStage, hblank, if_neg Bool.false_ne_true]
    generalize standardRegistry setup = registry at hdispatch ⊢
    rw [← hdispatch] at hrun
    exact hrun
  rw [hstages, Pipeline.runStages, bind_of_ok hstage]
  rfl

/-- What is shown of a file is the reply to the line, and is written to the output. -/
theorem processLine_catLine (hname : IsTarget name)
    (hfile : world.files.target? setup.host (world.session.resolve name) =
      some (place, .file content)) :
    processLine setup (standardRegistry setup) (catLine name) world =
      .ok (some (.say (Utf8.decode content).asLines))
        { world with
          output := world.output ++ Reply.shown (some (.say (Utf8.decode content).asLines)) } := by
  have hsign : '>' ∉ catLine name := by
    rw [catLine_eq]
    exact (wellFormed_catLine hname).sign_not_mem_body
  have hblank : (catLine name).trim ≠ [] := by
    rw [catLine_eq, Ne, (wellFormed_catLine hname).trim_body_eq_nil_iff]
    simp
  exact processLine_of_runStages setup hsign hblank (runStages_catLine hname hfile) rfl

/-- With a redirection behind it, the line sends what it would show to the file. -/
theorem processLine_redirect_catLine (mode : WriteMode) {target : Text} (hname : IsTarget name)
    (htarget : IsTarget target)
    (hfile : world.files.target? setup.host (world.session.resolve name) =
      some (place, .file content)) :
    processLine setup (standardRegistry setup) (redirect (catLine name) mode target) world =
      sendTo setup mode target (Utf8.decode content).asLines world := by
  have hsign : '>' ∉ catLine name := by
    rw [catLine_eq]
    exact (wellFormed_catLine hname).sign_not_mem_body
  have hcat : (catLine name).trim ≠ "cat" := by
    rw [catLine_eq, Ne, (wellFormed_catLine hname).trim_body_eq_cat_iff]
    simp
  have hsent := processLine_redirect_of_runStages setup mode hsign hcat htarget
    (runStages_catLine hname hfile) rfl
  exact hsent

/-- A text that was sent to a file, as the status says, is what is read there. -/
theorem exists_copy_of_sendTo {target text : Text} {after : World}
    (hfiles : world.files.Valid setup.host)
    (hsent : sendTo setup .overwrite target text world =
      .ok (some (.say (WriteMode.overwrite.successStatus target))) after) :
    ∃ copied landing, Utf8.decode copied = text ∧
      after.files.target? setup.host (after.session.resolve target) =
        some (landing, .file copied) := by
  obtain ⟨status, middle, hwrite, hreply⟩ := exists_of_bind_ok hsent
  injection hreply with hsay hmiddle
  obtain rfl : status = WriteMode.overwrite.successStatus target := by
    simpa [Reply.say] using hsay
  obtain rfl : middle = after := hmiddle
  obtain ⟨hmiddle, ⟨-, landing, hwrote⟩ | ⟨fault, hfault, -⟩⟩ :=
    (Shell.ends_writeTo setup .overwrite target text hfiles).of_ok hwrite
  · obtain ⟨copied, hdecode, hlanding⟩ := hwrote.stored
    refine ⟨copied, landing, hdecode, ?_⟩
    rw [hmiddle]
    exact hlanding
  · exact absurd hfault.symm (WriteMode.failureStatus_ne_successStatus _ _ _)

/-- What is shown of a file is in lines, and is the content itself if that is.  Where a line sends it
to another file, successfully, the copy is shown just as the file was. -/
theorem cat_shows_lines (setup : Setup) (hfiles : world.files.Valid setup.host)
    (hfile : world.files.target? setup.host (world.session.resolve name) =
      some (place, .file content)) :
    ∃ text : Text, '\r' ∉ text ∧ (text = [] ∨ text.getLast? = some '\n') ∧
      ('\r' ∉ Utf8.decode content →
        (Utf8.decode content = [] ∨ (Utf8.decode content).getLast? = some '\n') →
        text = Utf8.decode content) ∧
      (∀ piped, ContentCommands.run setup { name := "cat", arguments := [name], piped } world =
        .ok (.say text) world) ∧
      (IsTarget name →
        processLine setup (standardRegistry setup) (catLine name) world = .ok (some (.say text))
          { world with output := world.output ++ Reply.shown (some (.say text)) } ∧
        ∀ target, IsTarget target → ∀ after,
          processLine setup (standardRegistry setup)
            (redirect (catLine name) .overwrite target) world =
              .ok (some (.say (WriteMode.overwrite.successStatus target))) after →
          processLine setup (standardRegistry setup) (catLine target) after =
            .ok (some (.say text))
              { after with output := after.output ++ Reply.shown (some (.say text)) }) := by
  obtain ⟨hreturn, hclosed⟩ := Text.inLines_asLines (Utf8.decode content)
  refine ⟨(Utf8.decode content).asLines, hreturn, hclosed,
    fun hnone hend => Text.InLines.asLines_eq ⟨hnone, hend⟩,
    ContentCommands.run_cat_of_file hfile, fun hname =>
      ⟨processLine_catLine hname hfile, fun target htarget after hrun => ?_⟩⟩
  rw [processLine_redirect_catLine .overwrite hname htarget hfile] at hrun
  obtain ⟨copied, landing, hcopied, hlanding⟩ := exists_copy_of_sendTo hfiles hrun
  have hshown := processLine_catLine htarget hlanding
  rwa [hcopied, Text.asLines_asLines] at hshown

section Example

/-- A session next to a file with three kinds of line ends, and with a byte that is no text behind
the last one. -/
def mixedWorld (more : Entries) : World where
  files := { top := ("f", .file [0x61, 0x0D, 0x0D, 0x0A, 0x62, 0x0A, 0xFF]) :: more }
  session := { directory := "/" }
  output := []
  reader := .nothing

/-- The same session after the file was sent to another one. -/
def copiedWorld : World :=
  mixedWorld [("g", .file [0x61, 0x0A, 0x0A, 0x62, 0x0A, 0xEF, 0xBF, 0xBD, 0x0A])]

theorem cat_shows_lines_mixed :
    (mixedWorld []).files.Valid {} ∧
      (∃ place content, (mixedWorld []).files.target? {} "/f" = some (place, .file content)) ∧
      IsTarget "f" ∧ IsTarget "g" ∧
      processLine plainSetup (standardRegistry plainSetup) (redirect (catLine "f") .overwrite "g")
        (mixedWorld []) = .ok (some (.say "Content written to g\n")) copiedWorld ∧
      processLine plainSetup (standardRegistry plainSetup) (catLine "g") copiedWorld =
        .ok (some (.say "a\n\nb\n\uFFFD\n"))
          { copiedWorld with output := [("a\n\nb\n\uFFFD\n" : Text)] } := by
  have hvalid : (mixedWorld []).files.Valid {} :=
    FileSystem.valid_of_wellFormed (Node.wellFormed_directory (by decide) (by decide)
      (List.forall_mem_singleton.mpr (Node.wellFormed_file _)))
  have hfile : (mixedWorld []).files.target? {} ((mixedWorld []).session.resolve "f") =
      some ([("f" : Text)], .file [0x61, 0x0D, 0x0D, 0x0A, 0x62, 0x0A, 0xFF]) := rfl
  have hname : IsTarget "f" := by decide
  have htarget : IsTarget "g" := by decide
  have hrun : processLine plainSetup (standardRegistry plainSetup)
      (redirect (catLine "f") .overwrite "g") (mixedWorld []) =
        .ok (some (.say "Content written to g\n")) copiedWorld := by
    rw [processLine_redirect_catLine .overwrite hname htarget hfile]
    rfl
  have hshown : ContentCommands.run plainSetup { name := "cat", arguments := ["f"] }
      (mixedWorld []) = .ok (.say "a\n\nb\n\uFFFD\n") (mixedWorld []) := rfl
  obtain ⟨text, -, -, -, hcat, hlines⟩ := cat_shows_lines plainSetup hvalid hfile
  obtain rfl : text = "a\n\nb\n\uFFFD\n" := by
    injection (hcat none).symm.trans hshown with hsay
    simpa [Reply.say] using hsay
  exact ⟨hvalid, ⟨_, _, hfile⟩, hname, htarget, hrun, (hlines hname).2 "g" htarget _ hrun⟩

end Example

end Interpreter

end LineShell
