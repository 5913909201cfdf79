import LineShell.Proofs.Session.Console
import LineShell.Session.Interpreter
import Mathlib

/-!
# Lines and the reader

A line may read further lines: a capture into a file does, and so does each bare `cat` that starts a
pipeline.  Apart from what it captures, a line does the same with any console, and the reader that
it leaves is one that the reader it found comes to by reading.
-/

namespace LineShell

/-! ### The captures that a line begins -/

/-- The readers from which the stages of a pipeline capture text, each as the capture finds it. -/
def Pipeline.captures (registry : Registry) : List Stage → Reply → World → List Reader
  | [], _, _ => []
  | stage :: rest, reply, world =>
      (if CapturesText stage.name stage.arguments reply.text then [world.reader] else []) ++
        match runStage registry stage reply.text world with
        | .ok next after => if next.terminate then [] else captures registry rest next after
        | .error _ _ => []

/-- The readers from which a line captures text, each as the capture finds it. -/
def Interpreter.captures (registry : Registry) (line : Text) (world : World) : List Reader :=
  match Request.parse line with
  | .ok (.heredoc _ _) => [world.reader]
  | .ok (.pipeline pipeline) => Pipeline.captures registry pipeline.stages {} world
  | .error _ => []

/-- Stages without a bare `cat` capture nothing. -/
theorem Pipeline.captures_eq_nil (registry : Registry) {stages : List Stage}
    (hstages : ∀ stage ∈ stages, ¬ (stage.name.lower = "cat" ∧ stage.arguments = []))
    (reply : Reply) (world : World) : captures registry stages reply world = [] := by
  induction stages generalizing reply world with
  | nil => rfl
  | cons stage rest ih =>
      have hcall : ¬ CapturesText stage.name stage.arguments reply.text :=
        fun hcall => hstages stage List.mem_cons_self ⟨hcall.1, hcall.2.1⟩
      have hrest := ih fun other hother => hstages other (List.mem_cons_of_mem _ hother)
      rw [captures, if_neg hcall, List.nil_append]
      split
      · split
        · rfl
        · exact hrest _ _
      · rfl

section Recast

variable {setup : Setup} {registry : Registry} (hregistry : registry.Staged setup)
variable {recasting : Recasting} (hrecasting : recasting.Appends)
include hregistry hrecasting

namespace Pipeline

theorem commutesAt_runStage {stage : Stage} {piped : Option Text} {world : World}
    (hcapture : CapturesText stage.name stage.arguments piped →
      recasting.KeepsCapture setup.sentinel world.reader) :
    CommutesAt (World.recast recasting) (runStage registry stage piped) world := by
  unfold runStage
  split
  · rfl
  by_cases hcall : CapturesText stage.name stage.arguments piped
  · obtain ⟨hname, harguments, hpiped⟩ := id hcall
    rw [harguments, hpiped, hregistry.captures hname]
    exact (Shell.commutesAt_capture hrecasting (hcapture hcall) _).bind fun _ _ _ => rfl
  · exact hregistry.recasts hcall hrecasting world

theorem commutesAt_runStages {stages : List Stage} {reply : Reply} {world : World}
    (hcaptures : ∀ reader ∈ captures registry stages reply world,
      recasting.KeepsCapture setup.sentinel reader) :
    CommutesAt (World.recast recasting) (runStages registry stages reply) world := by
  induction stages generalizing reply world with
  | nil => rfl
  | cons stage rest ih =>
      rw [captures] at hcaptures
      refine (commutesAt_runStage hregistry hrecasting fun hcall => ?_).bind
        fun next after hrun => ?_
      · exact hcaptures _ (List.mem_append_left _ (by simp [hcall]))
      · simp only [hrun] at hcaptures
        split <;> rename_i hended
        · rfl
        · rw [if_neg hended] at hcaptures
          exact ih fun reader hreader => hcaptures reader (List.mem_append_right _ hreader)

omit hregistry in
theorem recasts_deliver (redirection : Option Redirection) (reply : Reply) :
    Recasts recasting (deliver setup redirection reply) := by
  unfold deliver
  split
  · exact (Shell.quiet_writeTo setup _ _ _).recasts.bind fun _ => .pure _
  · split
    · exact (Shell.recasts_write hrecasting _).bind fun _ => .pure _
    · exact .pure _

end Pipeline

namespace Interpreter

omit hregistry in
theorem commutesAt_runHeredoc {world : World}
    (hcapture : recasting.KeepsCapture setup.sentinel world.reader) (target : Text)
    (mode : WriteMode) :
    CommutesAt (World.recast recasting) (runHeredoc setup target mode) world :=
  (Shell.commutesAt_capture hrecasting hcapture heredocBanner).bind fun _ after _ =>
    ((Shell.quiet_writeTo setup mode target _).recasts.bind fun _ =>
      (Shell.recasts_write hrecasting _).bind fun _ => .pure _) after

/-- A line does the same in a recast world, where what it captures is the same. -/
theorem commutesAt_processLine {line : Text} {world : World}
    (hcaptures : ∀ reader ∈ captures registry line world,
      recasting.KeepsCapture setup.sentinel reader) :
    CommutesAt (World.recast recasting) (processLine setup registry line) world := by
  unfold processLine
  unfold captures at hcaptures
  split
  · rfl
  cases hparse : Request.parse line with
  | error fault => exact ((Shell.recasts_write hrecasting _).bind fun _ => .pure _) world
  | ok request =>
      rw [hparse] at hcaptures
      refine CommutesAt.bind ?_ fun _ _ _ => rfl
      cases request with
      | heredoc target mode =>
          exact commutesAt_runHeredoc hrecasting (hcaptures _ (List.mem_singleton_self _)) _ _
      | pipeline pipeline =>
          refine CommutesAt.bind ?_ fun reply last _ => ?_
          · refine (Pipeline.commutesAt_runStages hregistry hrecasting hcaptures).bind
              fun reply after _ => ?_
            exact Commutes.ite (.pure _) (Pipeline.recasts_deliver hrecasting _ _) after
          · exact Commutes.ite ((Shell.recasts_write hrecasting _).bind fun _ => .pure _) (.pure _)
              last

end Interpreter

end Recast

/-! ### Reading on -/

namespace Reader

/-- The readers that a reader comes to by reading. -/
abbrev ReadsTo : Reader → Reader → Prop :=
  Relation.ReflTransGen fun before after => after = before.readLine.2

/-- At the end of the input a reader stays as it is. -/
theorem eq_of_readLine_none {reader after : Reader} (h : reader.readLine = (none, after)) :
    after = reader := by
  cases reader with
  | scripted lines => cases lines <;> simp_all [readLine]
  | stream rest | terminal rest =>
      by_cases hrest : rest = []
      · simp_all [readLine]
      · simp [readLine, hrest] at h

theorem size_readLine_le (reader : Reader) : reader.readLine.2.size ≤ reader.size := by
  rcases hread : reader.readLine with ⟨line?, after⟩
  cases line? with
  | none => rw [eq_of_readLine_none hread]
  | some line => exact (size_readLine_lt hread).le

theorem ReadsTo.size_le {reader after : Reader} (h : reader.ReadsTo after) :
    after.size ≤ reader.size := by
  induction h with
  | refl => exact le_refl _
  | tail _ hstep ih => exact hstep ▸ (size_readLine_le _).trans ih

/-- A script is read from its front. -/
theorem ReadsTo.suffix {lines : List Text} {after : Reader}
    (h : (Reader.scripted lines).ReadsTo after) :
    ∃ left, after = .scripted left ∧ left <:+ lines := by
  induction h with
  | refl => exact ⟨lines, rfl, List.suffix_rfl⟩
  | tail _ hstep ih =>
      obtain ⟨left, rfl, hleft⟩ := ih
      cases left with
      | nil => exact ⟨[], hstep, hleft⟩
      | cons line rest => exact ⟨rest, hstep, (List.suffix_cons line rest).trans hleft⟩

end Reader

namespace Capture

variable {sentinel : Text} {reader after : Reader} {line : Text}

theorem takeLines_of_end (hread : reader.readLine = (none, after)) :
    takeLines sentinel reader = ([], after) := by
  rw [takeLines]
  split <;> simp_all

theorem takeLines_of_sentinel (hread : reader.readLine = (some line, after))
    (hline : line.lower = sentinel.lower) : takeLines sentinel reader = ([], after) := by
  rw [takeLines]
  split <;> simp_all

theorem takeLines_of_text (hread : reader.readLine = (some line, after))
    (hline : line.lower ≠ sentinel.lower) :
    takeLines sentinel reader =
      (line :: (takeLines sentinel after).1, (takeLines sentinel after).2) := by
  rw [takeLines]
  split <;> simp_all

theorem readsTo_takeLines (sentinel : Text) (reader : Reader) :
    reader.ReadsTo (takeLines sentinel reader).2 := by
  induction hsize : reader.size using Nat.strong_induction_on generalizing reader with
  | _ size ih =>
      subst hsize
      rcases hread : reader.readLine with ⟨line?, after⟩
      have hstep : reader.ReadsTo after := .single (by rw [hread])
      cases line? with
      | none => rwa [takeLines_of_end hread]
      | some line =>
          by_cases hline : line.lower = sentinel.lower
          · rwa [takeLines_of_sentinel hread hline]
          · rw [takeLines_of_text hread hline]
            exact hstep.trans (ih after.size (Reader.size_readLine_lt hread) after rfl)

end Capture

/-- An action that leaves a reader to which the one that it found comes by reading. -/
abbrev Reads {A : Type} (action : Shell A) : Prop :=
  ∀ start : Reader, Keeps (fun world => start.ReadsTo world.reader) (fun _ => True) action

/-- What does the same with any reader leaves it alone. -/
theorem reads_of_recasts {A : Type} {action : Shell A}
    (haction : ∀ {recasting : Recasting}, recasting.Appends → Recasts recasting action) :
    Reads action := by
  intro start world hworld
  have happends : Recasting.Appends { lines := fun _ => world.reader } := fun _ _ => rfl
  apply ((haction happends world).ends_fixed rfl).mono
  all_goals
    intro _ after hafter
    exact ⟨trivial, by rw [← hafter]; exact hworld⟩

theorem Shell.reads_capture (setup : Setup) (banner : Text) : Reads (capture setup banner) := by
  intro start world hworld
  unfold Ends
  rw [capture_eq]
  exact ⟨trivial, hworld.trans (Capture.readsTo_takeLines _ _)⟩

section Reads

variable {setup : Setup} {registry : Registry} (hregistry : registry.Staged setup)
include hregistry

namespace Pipeline

theorem reads_runStage (stage : Stage) (piped : Option Text) :
    Reads (runStage registry stage piped) := by
  intro start
  unfold runStage
  refine .ite (fun _ => .pure trivial) fun _ => ?_
  by_cases hcall : CapturesText stage.name stage.arguments piped
  · obtain ⟨hname, harguments, hpiped⟩ := hcall
    rw [harguments, hpiped, hregistry.captures hname]
    exact (Shell.reads_capture setup _ start).bind fun _ _ => .pure trivial
  · exact reads_of_recasts (hregistry.recasts hcall) start

theorem reads_runStages (stages : List Stage) (reply : Reply) :
    Reads (runStages registry stages reply) := by
  intro start
  induction stages generalizing reply with
  | nil => exact .pure trivial
  | cons stage rest ih =>
      exact (reads_runStage hregistry stage reply.text start).bind fun next _ =>
        .ite (fun _ => .pure trivial) fun _ => ih next

omit hregistry in
theorem reads_deliver (redirection : Option Redirection) (reply : Reply) :
    Reads (deliver setup redirection reply) :=
  reads_of_recasts fun hrecasting => recasts_deliver hrecasting redirection reply

theorem reads_execute (pipeline : Pipeline) :
    Reads (pipeline.execute setup registry) := fun start =>
  (reads_runStages hregistry pipeline.stages {} start).bind fun reply _ =>
    .ite (fun _ => .pure trivial) fun _ => reads_deliver _ reply start

end Pipeline

omit hregistry in
theorem Shell.reads_write (text : Text) : Reads (write text) :=
  reads_of_recasts fun hrecasting => recasts_write hrecasting text

namespace Interpreter

theorem reads_perform (request : Request) : Reads (perform setup registry request) := by
  intro start
  cases request with
  | heredoc target mode =>
      exact (Shell.reads_capture setup _ start).bind fun _ _ =>
        (reads_of_recasts (fun _ => (Shell.quiet_writeTo setup _ _ _).recasts) start).bind
          fun _ _ =>
        (Shell.reads_write _ start).bind fun _ _ => .pure trivial
  | pipeline pipeline =>
      exact (Pipeline.reads_execute hregistry pipeline start).bind fun _ _ =>
        .ite (fun _ => (Shell.reads_write _ start).bind fun _ _ => .pure trivial) fun _ =>
          .pure trivial

/-- A line leaves a reader to which the one that it found comes by reading. -/
theorem reads_processLine (line : Text) : Reads (processLine setup registry line) := by
  intro start
  unfold processLine
  refine .ite (fun _ => .pure trivial) fun _ => ?_
  split
  · exact (Shell.reads_write _ start).bind fun _ _ => .pure trivial
  · exact (reads_perform hregistry _ start).bind fun _ _ => .pure trivial

end Interpreter

end Reads

end LineShell
