import LineShell.Proofs.Session.Courses
import LineShell.Session.Interpreter

/-!
# Every line is answered

What a line asks for is made of pieces of the line, so a line without null characters asks for
nothing that could not be handed to the system.  From this and from the answers of the commands it
follows that no line is ever broken off: the run returns, and it returns no reply exactly for the
lines that ask for nothing.  Whatever goes wrong on the way is told in a text.  What a stage has to
tell goes to the next stage, to the output or into a file, and what a write has to tell is the
reply.
-/

namespace LineShell

/-- A request whose names and targets have no null character. -/
def Request.NullFree (request : Request) : Prop :=
  match request with
  | .heredoc target _ => target.hasNull = false
  | .pipeline { stages, redirection } =>
      (∀ stage ∈ stages, NullFreeArguments stage.arguments) ∧
        ∀ other ∈ redirection, other.target.hasNull = false

/-! ### Reading a line -/

namespace Request

theorem hasNull_of_subset {text part : Text} (htext : text.hasNull = false)
    (hpart : ∀ character ∈ part, character ∈ text) : part.hasNull = false :=
  Path.hasNull_eq_false_iff.mpr fun hnull =>
    Path.hasNull_eq_false_iff.mp htext (hpart _ hnull)

theorem hasNull_trim {text : Text} (htext : text.hasNull = false) : text.trim.hasNull = false :=
  hasNull_of_subset htext fun _ => Text.mem_of_mem_trim

theorem nullFreeArguments_words {text : Text} (htext : text.hasNull = false) :
    NullFreeArguments text.words := fun _ hword =>
  hasNull_of_subset htext fun _ => Text.mem_of_mem_splitWhere (List.mem_filter.mp hword).1

theorem nullFreeArguments_ofText {text : Text} (htext : text.hasNull = false) :
    NullFreeArguments (Stage.ofText text).arguments := by
  unfold Stage.ofText
  split <;> rename_i hwords
  · exact fun _ h => nomatch h
  · intro argument hargument
    exact nullFreeArguments_words htext argument (hwords ▸ List.mem_cons_of_mem _ hargument)

theorem nullFree_ofHeredoc {rest : Text} {request : Request} (hrest : rest.hasNull = false)
    (h : ofHeredoc rest = .ok request) : request.NullFree := by
  unfold ofHeredoc at h
  split at h
  rename_i mode target hparts
  have htarget : target.hasNull = false := by
    split at hparts <;> cases hparts
    · exact hasNull_trim (hasNull_of_subset hrest fun _ => List.mem_cons_of_mem _)
    · exact hasNull_trim hrest
  split at h
  · cases h
  · cases h
    exact htarget

theorem nullFree_ofLastSegment {before : List Stage} {segment : Text} {pipeline : Pipeline}
    (hbefore : ∀ stage ∈ before, NullFreeArguments stage.arguments)
    (hsegment : segment.hasNull = false) (h : ofLastSegment before segment = .ok pipeline) :
    (Request.pipeline pipeline).NullFree := by
  have hpiece : ∀ piece ∈ Text.splitOn '>' segment, piece.hasNull = false := fun piece hmem =>
    hasNull_of_subset hsegment fun _ => Text.mem_of_mem_splitWhere hmem
  have hwith : ∀ {stage}, NullFreeArguments stage.arguments →
      ∀ other ∈ before ++ [stage], NullFreeArguments other.arguments := by
    intro stage hstage other hother
    rcases List.mem_append.mp hother with hother | hother
    · exact hbefore other hother
    · exact List.mem_singleton.mp hother ▸ hstage
  unfold ofLastSegment at h
  split at h
  · cases h
    exact ⟨hwith (nullFreeArguments_ofText hsegment), fun _ h => nomatch h⟩
  simp only [] at h
  split at h
  · cases h
    refine ⟨fun stage hstage => ?_, fun _ h => nomatch h⟩
    rw [List.mem_singleton.mp hstage]
    exact nullFreeArguments_words (hasNull_of_subset hsegment fun _ => List.mem_of_mem_drop)
  split at h
  · cases h
  · cases h
    refine ⟨hwith (nullFreeArguments_ofText (hasNull_trim ?_)), ?_⟩
    · cases hpieces : Text.splitOn '>' segment with
      | nil => rfl
      | cons first others => exact hpiece first (hpieces ▸ List.mem_cons_self)
    · intro other hother
      cases hother
      exact hasNull_trim (EntryCommands.hasNull_getLastD hpiece)

theorem nullFree_of_parse {line : Text} {request : Request} (hline : line.hasNull = false)
    (h : parse line = .ok request) : request.NullFree := by
  have htrim := hasNull_trim hline
  simp only [parse] at h
  split at h
  · cases h
  split at h
  · exact nullFree_ofHeredoc (hasNull_of_subset htrim fun _ => List.mem_of_mem_drop) h
  · have hsegments : ∀ segment ∈ (Text.splitOn '|' line.trim).map Text.trim,
        segment.hasNull = false := by
      intro segment hmem
      obtain ⟨piece, hpiece, rfl⟩ := List.mem_map.mp hmem
      exact hasNull_trim (hasNull_of_subset htrim fun _ => Text.mem_of_mem_splitWhere hpiece)
    generalize (Text.splitOn '|' line.trim).map Text.trim = segments at h hsegments
    cases hlast : ofLastSegment (segments.dropLast.map Stage.ofText) (segments.getLastD []) with
    | error fault =>
        rw [hlast] at h
        cases h
    | ok pipeline =>
        rw [hlast] at h
        cases h
        apply nullFree_ofLastSegment _ (EntryCommands.hasNull_getLastD hsegments) hlast
        intro stage hstage
        obtain ⟨segment, hsegment, rfl⟩ := List.mem_map.mp hstage
        exact nullFreeArguments_ofText (hsegments segment (List.dropLast_subset _ hsegment))

end Request

/-! ### Running a line -/

section Running

variable {registry : Registry} (hregistry : registry.Answers) (setup : Setup)
include hregistry

namespace Pipeline

theorem answers_runStage {stage : Stage} (hstage : NullFreeArguments stage.arguments)
    (piped : Option Text) : Answers (runStage registry stage piped) := by
  unfold runStage
  split
  · exact .pure trivial
  · exact hregistry.dispatch hstage

theorem answers_runStages {stages : List Stage}
    (hstages : ∀ stage ∈ stages, NullFreeArguments stage.arguments) (reply : Reply) :
    Answers (runStages registry stages reply) := by
  induction stages generalizing reply with
  | nil => exact .pure trivial
  | cons stage rest ih =>
      have hstage := hstages stage List.mem_cons_self
      refine (answers_runStage hregistry hstage reply.text).bind
        fun next _ => .ite (fun _ => .pure trivial) fun _ => ?_
      exact ih (fun other hother => hstages other (List.mem_cons_of_mem stage hother)) next

omit hregistry in
theorem answers_deliver {redirection : Option Redirection}
    (hredirection : ∀ other ∈ redirection, other.target.hasNull = false) (reply : Reply) :
    Answers (deliver setup redirection reply) := by
  unfold deliver
  split
  · exact (Shell.answers_writeTo setup _ (hredirection _ rfl) _).bind fun _ _ => .pure trivial
  · split
    · exact (Shell.answers_write _).bind fun _ _ => .pure trivial
    · exact .pure trivial

theorem answers_execute {pipeline : Pipeline} (hpipeline : (Request.pipeline pipeline).NullFree) :
    Answers (pipeline.execute setup registry) :=
  (answers_runStages hregistry hpipeline.1 {}).bind fun reply _ => .ite (fun _ => .pure trivial)
    fun _ => answers_deliver setup hpipeline.2 reply

end Pipeline

namespace Interpreter

theorem answers_perform {request : Request} (hrequest : request.NullFree) :
    Answers (perform setup registry request) := by
  cases request with
  | heredoc target mode =>
      have htarget : target.hasNull = false := hrequest
      exact (Shell.answers_capture setup heredocBanner).bind fun content _ =>
        (Shell.answers_writeTo setup mode htarget content).bind fun _ _ =>
        (Shell.answers_write _).bind fun _ _ => .pure trivial
  | pipeline pipeline =>
      refine (Pipeline.answers_execute hregistry setup hrequest).bind fun reply _ =>
        .ite (fun _ => ?_) fun _ => .pure trivial
      exact (Shell.answers_write _).bind fun _ _ => .pure trivial

theorem answers_processLine {line : Text} (hline : line.hasNull = false) :
    Answers (processLine setup registry line) := by
  unfold processLine
  refine .ite (fun _ => .pure trivial) fun _ => ?_
  split <;> rename_i hparse
  · exact (Shell.answers_write _).bind fun _ _ => .pure trivial
  · exact (answers_perform hregistry setup (Request.nullFree_of_parse hline hparse)).bind
      fun _ _ => .pure trivial

theorem exists_processLine_eq {line : Text} {world : World} (hworld : world.Sound)
    (hline : line.hasNull = false) :
    ∃ reply after, processLine setup registry line world = .ok reply after ∧ after.Sound := by
  have hcompletes : Completes (processLine setup registry line) world fun _ after => after.Sound :=
    (answers_processLine hregistry setup hline world hworld).mono (fun _ _ h => h.2)
      fun _ _ h => h.1
  exact hcompletes.exists_ok

end Interpreter

end Running

/-! ### What becomes of a line -/

namespace Pipeline

/-- A stage was answered.  A blank one passes on the text that it got, and any other one took the
course of its call. -/
inductive StageAnswered (host : Host) (stage : Stage) (piped : Option Text) :
    World → Reply → World → Prop
  | blank {world : World} (hblank : stage.isBlank = true) :
      StageAnswered host stage piped world { text := piped } world
  | called {world after : World} {reply : Reply} (hblank : stage.isBlank = false)
      (hcourse : (Course.ofCall host world.session world.files
        { name := stage.name, arguments := stage.arguments, piped }).Taken world reply after) :
      StageAnswered host stage piped world reply after

/-- Stages were answered in turn, each on the text of the one before, as far as one that ends the
session. -/
inductive StagesAnswered (host : Host) : List Stage → Reply → World → Reply → World → Prop
  | nil (reply : Reply) (world : World) : StagesAnswered host [] reply world reply world
  | ended {stage : Stage} {rest : List Stage} {before reply : Reply} {world after : World}
      (hstage : StageAnswered host stage before.text world reply after)
      (hends : reply.terminate = true) :
      StagesAnswered host (stage :: rest) before world reply after
  | cons {stage : Stage} {rest : List Stage} {before next reply : Reply}
      {world middle after : World} (hstage : StageAnswered host stage before.text world next middle)
      (hgoes : next.terminate = false) (hrest : StagesAnswered host rest next middle reply after) :
      StagesAnswered host (stage :: rest) before world reply after

end Pipeline

/-- A request was answered.  Captured text was written to its file, or the stages of a pipeline were
answered and the text of the last one was written, on the output or to the file of the redirection.
A write to a file is a turn of its own, and what it has to tell is the reply. -/
inductive Request.Answered (setup : Setup) : Request → World → Reply → World → Prop
  | captured {target content status : Text} {mode : WriteMode} {world typed : World}
      {files : FileSystem}
      (hcapture : Shell.capture setup Interpreter.heredocBanner world = .ok content typed)
      (hwrite : (Turn.write setup.host typed.session mode target content).Taken status typed.files
        files) :
      Answered setup (.heredoc target mode) world (.say status)
        { typed with files, output := typed.output ++ [status] }
  | ended {pipeline : Pipeline} {world after : World} {reply : Reply}
      (hstages : Pipeline.StagesAnswered setup.host pipeline.stages {} world reply after)
      (hends : reply.terminate = true) :
      Answered setup (.pipeline pipeline) world reply
        { after with output := after.output ++ [("Exiting...\n" : Text)] }
  | silent {pipeline : Pipeline} {world after : World} {reply : Reply}
      (hstages : Pipeline.StagesAnswered setup.host pipeline.stages {} world reply after)
      (hgoes : reply.terminate = false) (hredirection : pipeline.redirection = none)
      (htext : reply.text.getD [] = []) :
      Answered setup (.pipeline pipeline) world reply after
  | written {pipeline : Pipeline} {world after : World} {reply : Reply} {text : Text}
      (hstages : Pipeline.StagesAnswered setup.host pipeline.stages {} world reply after)
      (hgoes : reply.terminate = false) (hredirection : pipeline.redirection = none)
      (htext : reply.text = some text) (hne : text ≠ []) :
      Answered setup (.pipeline pipeline) world reply
        { after with output := after.output ++ [text] }
  | redirected {pipeline : Pipeline} {redirection : Redirection} {world after : World}
      {reply : Reply} {status : Text} {files : FileSystem}
      (hstages : Pipeline.StagesAnswered setup.host pipeline.stages {} world reply after)
      (hgoes : reply.terminate = false) (hredirection : pipeline.redirection = some redirection)
      (hwrite : (Turn.write setup.host after.session redirection.mode redirection.target
        (reply.text.getD [])).Taken status after.files files) :
      Answered setup (.pipeline pipeline) world (.say status) { after with files }

section Steered

variable {registry : Registry} {setup : Setup} (hregistry : registry.Steered setup)
include hregistry

namespace Pipeline

theorem answered_runStage (stage : Stage) (piped : Option Text) (world : World) :
    Ends (runStage registry stage piped) world
      (fun reply after => StageAnswered setup.host stage piped world reply after)
      fun _ _ => True := by
  unfold runStage
  split <;> rename_i hblank
  · exact .blank hblank
  · apply (hregistry.follows _ world).mono_done
    exact fun reply after hcourse => .called (by simpa using hblank) hcourse

theorem answered_runStages (stages : List Stage) (before : Reply) (world : World) :
    Ends (runStages registry stages before) world
      (fun reply after => StagesAnswered setup.host stages before world reply after)
      fun _ _ => True := by
  induction stages generalizing before world with
  | nil => exact .nil before world
  | cons stage rest ih =>
      rw [runStages, ends_bind]
      apply (answered_runStage hregistry stage before.text world).mono_done
      intro next middle hstage
      split <;> rename_i hends
      · exact .ended hstage hends
      · apply (ih next middle).mono_done
        exact fun reply after hrest => .cons hstage (by simpa using hends) hrest

omit hregistry in
/-- The reply of the last stage is written or goes to the file of the redirection. -/
theorem answered_deliver {pipeline : Pipeline} {world after : World} {reply : Reply}
    (hstages : StagesAnswered setup.host pipeline.stages {} world reply after)
    (hgoes : reply.terminate = false) :
    Ends (deliver setup pipeline.redirection reply) after
      (fun last final => last.terminate = false ∧
        (Request.pipeline pipeline).Answered setup world last final)
      fun _ _ => True := by
  unfold deliver
  cases hredirection : pipeline.redirection with
  | some redirection =>
      simp only [ends_bind, ends_pure]
      apply (Turn.reports_writeTo setup redirection.mode redirection.target _ after).mono_done
      rintro status final ⟨hwrite, hfinal⟩
      rw [hfinal]
      exact ⟨rfl, .redirected hstages hgoes hredirection hwrite⟩
  | none =>
      obtain ⟨text, terminate⟩ := reply
      rcases text with - | (- | ⟨first, rest⟩)
      · exact ⟨hgoes, .silent hstages hgoes hredirection rfl⟩
      · exact ⟨hgoes, .silent hstages hgoes hredirection rfl⟩
      · exact ⟨hgoes, .written hstages hgoes hredirection rfl (List.cons_ne_nil _ _)⟩

end Pipeline

theorem Interpreter.answered_perform (request : Request) (world : World) :
    Ends (perform setup registry request) world
      (fun reply after => request.Answered setup world reply after) fun _ _ => True := by
  cases request with
  | heredoc target mode =>
      cases hcapture : Shell.capture setup heredocBanner world with
      | error escape typed =>
          have hrun : perform setup registry (.heredoc target mode) world = .error escape typed :=
            bind_of_error hcapture
          exact (Ends.iff_of_error hrun).mpr trivial
      | ok content typed =>
          unfold perform runHeredoc
          rw [ends_bind, Ends.iff_of_ok hcapture, ends_bind]
          apply (Turn.reports_writeTo setup mode target content typed).mono_done
          rintro status after ⟨hwrite, hafter⟩
          have hanswered : (Request.heredoc target mode).Answered setup world (.say status)
              { typed with files := after.files, output := typed.output ++ [status] } :=
            .captured hcapture hwrite
          rw [hafter]
          exact hanswered
  | pipeline pipeline =>
      unfold perform Pipeline.execute
      simp only [ends_bind]
      apply (Pipeline.answered_runStages hregistry pipeline.stages {} world).mono_done
      intro reply after hstages
      split <;> rename_i hends
      · rw [ends_pure, if_pos hends]
        exact .ended hstages hends
      · apply (Pipeline.answered_deliver hstages (by simpa using hends)).mono_done
        rintro last final ⟨hgoes, hanswered⟩
        rw [if_neg (by simp [hgoes])]
        exact hanswered

end Steered

/-- A line is never broken off: it leaves the world sound and has a reply, unless it is blank or
asks for nothing, which is told on the output.  What it asks for is answered: each stage with the
course of its call, so that a name that is not known, wrong arguments and every fault of a turn at
the files are told in its text, and each write to a file, that of a redirection or of captured text,
with a status that tells its fault. -/
theorem Interpreter.processLine_returns (setup : Setup) {line : Text} {world : World}
    (hfiles : world.files.NullFree) (hdirectory : Path.Sound world.session.directory)
    (hline : line.hasNull = false) :
    Ends (processLine setup (standardRegistry setup) line) world
      (fun reply after => after.Sound ∧
        (reply = none ↔ line.trim = [] ∨ ∃ fault, Request.parse line = .error fault) ∧
        (∀ fault, line.trim ≠ [] → Request.parse line = .error fault →
          after = { world with output := world.output ++ [fault.message ++ "\n"] }) ∧
        ∀ request, Request.parse line = .ok request →
          ∃ last, reply = some last ∧ request.Answered setup world last after)
      (fun _ _ => False) := by
  have hworld : world.Sound := ⟨hfiles, hdirectory⟩
  unfold processLine
  by_cases hblank : line.trim = []
  · simp [hblank, hworld, Request.parse]
  · have hempty : line.trim.isEmpty = false := by simpa using hblank
    cases hparse : Request.parse line with
    | error fault =>
        simp only [hempty, Bool.false_eq_true, if_false]
        refine ⟨⟨hfiles, hdirectory⟩, ⟨fun _ => .inr ⟨fault, rfl⟩, fun _ => rfl⟩, ?_, nofun⟩
        intro other _ hother
        cases hother
        rfl
    | ok request =>
        have hrequest := Request.nullFree_of_parse hline hparse
        have hperform := answers_perform (answers_standardRegistry setup) setup hrequest
        have hanswered := answered_perform (steered_standardRegistry setup) request world
        simp only [hempty, Bool.false_eq_true, if_false]
        rw [ends_bind]
        apply ((hperform world hworld).and hanswered).mono _ fun _ _ h => h.1.1
        rintro reply after ⟨⟨-, hafter⟩, hanswered⟩
        refine ⟨hafter, by simp [hblank], nofun, fun other hother => ?_⟩
        cases hother
        exact ⟨reply, rfl, hanswered⟩

section Example

/-- A session next to a link that leads to itself. -/
def loopedWorld : World where
  files := { top := [("a", .link "a")] }
  session := { directory := "/" }
  output := []
  reader := .nothing

set_option maxRecDepth 4000 in
/-- A file that is not found and a command with too few arguments are told to what comes behind
them.  That the link cannot be written to is the reply. -/
theorem Interpreter.processLine_returns_linkLoop :
    let status : Text :=
      "Failed to write to file: [Errno 40] Too many levels of symbolic links: '/a'\n"
    loopedWorld.files.NullFree ∧ Path.Sound loopedWorld.session.directory ∧
      Text.hasNull "cat a | mv a > a" = false ∧
      processLine { host := {} } (standardRegistry { host := {} }) "cat a | mv a > a" loopedWorld =
        .ok (some (.say status)) loopedWorld ∧
      ∃ request, Request.parse "cat a | mv a > a" = .ok request ∧
        request.Answered { host := {} } loopedWorld (.say status) loopedWorld := by
  intro status
  have hfiles : loopedWorld.files.NullFree := Node.nullFree_directory fun entry hentry => by
    rw [List.mem_singleton.mp hentry]
    exact ⟨by decide, Node.nullFree_link (by decide)⟩
  have hdirectory : Path.Sound loopedWorld.session.directory := ⟨by decide, by decide⟩
  have hline : Text.hasNull "cat a | mv a > a" = false := by decide
  have hrun : processLine { host := {} } (standardRegistry { host := {} }) "cat a | mv a > a"
      loopedWorld = .ok (some (.say status)) loopedWorld := rfl
  have hasked : (Request.parse "cat a | mv a > a").isOk = true := by decide
  refine ⟨hfiles, hdirectory, hline, hrun, ?_⟩
  -- The text of the line is hidden, since it would be run in full to see what it comes to.
  generalize ("cat a | mv a > a" : Text) = line at hline hasked hrun ⊢
  generalize loopedWorld = world at hfiles hdirectory hrun ⊢
  obtain ⟨-, -, -, hanswered⟩ :=
    Ends.of_ok (processLine_returns { host := {} } hfiles hdirectory hline) hrun
  cases hparse : Request.parse line with
  | error fault => simp [hparse, Except.isOk, Except.toBool] at hasked
  | ok request =>
      obtain ⟨last, hlast, hanswered⟩ := hanswered request hparse
      cases hlast
      exact ⟨request, rfl, hanswered⟩

end Example

end LineShell
