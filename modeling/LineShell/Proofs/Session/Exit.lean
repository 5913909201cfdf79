import LineShell.Proofs.Pipeline.Padding
import LineShell.Proofs.Session.LineAnswers
import Mathlib

/-!
# Exit ends everything at once

A line ends the session exactly if one of its stages is an `exit`.  The stages before the first one
run, and then nothing else of the line does: no stage behind it, no redirection and no showing of a
text.
-/

namespace LineShell

namespace Pipeline

/-! ### Stages before an exit -/

section Replying

variable {registry : Registry} (hregistry : registry.Replies)
include hregistry

theorem yields_runStage_of_ne_exit {stage : Stage} (hstage : stage.name.lower ≠ "exit")
    (piped : Option Text) :
    Yields (fun reply => reply.terminate = false) (runStage registry stage piped) := by
  refine .ite (fun _ => .pure rfl) fun _ => ?_
  apply (hregistry.tells _ _ _ hstage).mono
  rintro _ ⟨text, rfl⟩
  rfl

/-- Stages without an `exit` do not end the session. -/
theorem yields_runStages_of_ne_exit {stages : List Stage}
    (hstages : ∀ stage ∈ stages, stage.name.lower ≠ "exit") {reply : Reply}
    (hreply : reply.terminate = false) :
    Yields (fun last => last.terminate = false) (runStages registry stages reply) := by
  induction stages generalizing reply with
  | nil => exact .pure hreply
  | cons stage rest ih =>
      refine (yields_runStage_of_ne_exit hregistry (hstages stage List.mem_cons_self) _).bind
        fun next hnext => .ite (fun hended => ?_) fun _ =>
          ih (fun other hother => hstages other (List.mem_cons_of_mem _ hother)) hnext
      rw [hnext] at hended
      cases hended

theorem runStage_exit {stage : Stage} (hstage : stage.name.lower = "exit") (piped : Option Text) :
    runStage registry stage piped = SessionCommands.exit := by
  have hblank : stage.isBlank = false := Stage.not_isBlank hstage (by decide)
  rw [runStage, hblank, if_neg Bool.false_ne_true]
  exact hregistry.exit _ _ _ hstage

/-- What follows an `exit` does not run. -/
theorem runStages_exit {before : List Stage} {stage : Stage} (behind : List Stage)
    (hbefore : ∀ other ∈ before, other.name.lower ≠ "exit")
    (hstage : stage.name.lower = "exit") :
    runStages registry (before ++ stage :: behind) {} =
      runStages registry before {} >>= fun _ => SessionCommands.exit := by
  rw [runStages_append registry before (stage :: behind) rfl]
  apply (yields_runStages_of_ne_exit hregistry hbefore rfl).bind_congr
  intro last hlast
  rw [hlast, if_neg Bool.false_ne_true, runStages, runStage_exit hregistry hstage]
  rfl

end Replying

section Staged

variable {setup : Setup} {registry : Registry} (hregistry : registry.Staged setup)
include hregistry

end Staged

end Pipeline

/-! ### Lines with an exit -/

namespace Interpreter

/-- A line with an `exit` runs the stages before the first one, ends the session and tells so. -/
theorem processLine_of_exit (setup : Setup) {registry : Registry} (hregistry : registry.Replies)
    {line : Text} {pipeline : Pipeline} {before behind : List Stage} {stage : Stage}
    (hparse : Request.parse line = .ok (.pipeline pipeline))
    (hstages : pipeline.stages = before ++ stage :: behind)
    (hbefore : ∀ other ∈ before, other.name.lower ≠ "exit")
    (hstage : stage.name.lower = "exit") (world : World) :
    processLine setup registry line world =
      match Pipeline.runStages registry before {} world with
      | .ok _ middle =>
          .ok (some .exit)
            { middle with
              session := middle.session.terminate
              output := middle.output ++ [("Exiting...\n" : Text)] }
      | .error escape middle => .error escape middle := by
  have hrun := congrFun (Pipeline.runStages_exit hregistry behind hbefore hstage) world
  rw [← hstages] at hrun
  rw [processLine_of_parse setup registry hparse]
  have hperform := perform_pipeline setup registry pipeline world
  rw [hrun] at hperform
  cases hmiddle : Pipeline.runStages registry before {} world with
  | error escape middle =>
      rw [bind_of_error hmiddle] at hperform
      exact map_of_error hperform
  | ok last middle =>
      rw [bind_of_ok hmiddle] at hperform
      exact map_of_ok hperform

end Interpreter

end LineShell
