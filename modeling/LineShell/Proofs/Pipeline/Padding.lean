import LineShell.Proofs.Session.Replies
import Mathlib

/-!
# Stages that make no difference

A blank stage passes on the text that it gets, so it can stand anywhere in a pipeline.  A bare `cat`
passes on a text too, but where it gets none it captures one: it can stand behind any command, since
every command that leaves the session running replies with a text.
-/

namespace LineShell

/-- A stage whose name is looked up as something else than nothing is not blank. -/
theorem Stage.not_isBlank {stage : Stage} {name : Text} (hstage : stage.name.lower = name)
    (hname : Text.lower [] ≠ name) : stage.isBlank = false := by
  by_contra hblank
  rw [Bool.not_eq_false] at hblank
  rw [List.isEmpty_iff.mp hblank] at hstage
  exact hname hstage

namespace Pipeline

/-! ### Running stages one after the other -/

/-- Stages that follow others run on the reply of these, unless it ends the session. -/
theorem runStages_append (registry : Registry) (before behind : List Stage) {reply : Reply}
    (hreply : reply.terminate = false) :
    runStages registry (before ++ behind) reply =
      runStages registry before reply >>= fun next =>
        if next.terminate then pure next else runStages registry behind next := by
  induction before generalizing reply with
  | nil => simp [runStages, hreply]
  | cons stage rest ih =>
      simp only [List.cons_append, runStages, bind_assoc]
      congr 1
      funext next
      cases hnext : next.terminate with
      | true => simp [hnext]
      | false => simpa using ih hnext

theorem runStages_blank (registry : Registry) {stage : Stage} (hblank : stage.isBlank = true)
    (behind : List Stage) {reply : Reply} (hreply : reply.terminate = false) :
    runStages registry (stage :: behind) reply = runStages registry behind reply := by
  have hpassed : ({ text := reply.text } : Reply) = reply := by
    rw [← hreply]
  simp [runStages, runStage, hblank, hpassed, hreply]

/-! ### Stages with a text to pass on -/

section Replying

variable {registry : Registry} (hregistry : registry.Replies)
include hregistry

/-- A stage with a command replies with a text or ends the session. -/
theorem yields_runStage {stage : Stage} (hstage : stage.isBlank = false)
    (piped : Option Text) :
    Yields (fun reply => reply.terminate = true ∨ ∃ text, reply = .say text)
      (runStage registry stage piped) := by
  rw [runStage, hstage, if_neg Bool.false_ne_true]
  by_cases hexit : stage.name.lower = "exit"
  · rw [hregistry.exit _ _ _ hexit]
    exact fun _ _ => ⟨.inl rfl, trivial⟩
  · exact (hregistry.tells _ _ _ hexit).mono fun _ hreply => .inr hreply

/-- Where a command was among them, stages have a text to pass on, unless they have ended the
session. -/
theorem yields_runStages {stages : List Stage} {reply : Reply}
    (hstages : (∃ text, reply = .say text) ∨ ∃ stage ∈ stages, stage.isBlank = false) :
    Yields (fun last => last.terminate = true ∨ ∃ text, last = .say text)
      (runStages registry stages reply) := by
  induction stages generalizing reply with
  | nil => exact .pure (.inr (by simpa using hstages))
  | cons stage rest ih =>
      have hrest : ∀ next : Reply,
          (next.terminate = true ∨ (∃ text, next = .say text) ∨
            ∃ other ∈ rest, other.isBlank = false) →
          Yields (fun last => last.terminate = true ∨ ∃ text, last = .say text)
            (if next.terminate then pure next else runStages registry rest next) :=
        fun next hnext => .ite (fun hended => .pure (.inl hended))
          fun hrunning => ih (hnext.resolve_left hrunning)
      cases hblank : stage.isBlank with
      | false =>
          exact (yields_runStage hregistry hblank reply.text).bind fun next hnext =>
            hrest next (hnext.imp_right .inl)
      | true =>
          rw [runStages, runStage, hblank, if_pos rfl, pure_bind]
          apply hrest
          rcases hstages with ⟨text, rfl⟩ | ⟨other, hother, hnotBlank⟩
          · exact .inr (.inl ⟨text, rfl⟩)
          · rcases List.mem_cons.mp hother with rfl | hother
            · rw [hblank] at hnotBlank
              cases hnotBlank
            · exact .inr (.inr ⟨other, hother, hnotBlank⟩)

/-- A bare `cat` is no stage of its own where there is a text to pass on. -/
theorem runStages_cat {stage : Stage} (hname : stage.name.lower = "cat")
    (harguments : stage.arguments = []) (behind : List Stage) (text : Text) :
    runStages registry (stage :: behind) (.say text) = runStages registry behind (.say text) := by
  have hblank : stage.isBlank = false := Stage.not_isBlank hname (by decide)
  rw [runStages, runStage, hblank, if_neg Bool.false_ne_true, harguments]
  exact congrArg (· >>= _) (hregistry.cat stage.name text hname)

end Replying

/-! ### Insertions -/

/-- One list of stages is another one with a blank stage put in somewhere. -/
inductive InsertsBlank : List Stage → List Stage → Prop
  | insert (before behind : List Stage) {stage : Stage} (hblank : stage.isBlank = true) :
      InsertsBlank (before ++ behind) (before ++ stage :: behind)

/-- One list of stages is another one with a bare `cat` put in somewhere behind the first stage that
is not blank. -/
inductive InsertsCat : List Stage → List Stage → Prop
  | insert (before behind : List Stage) {stage : Stage} (hname : stage.name.lower = "cat")
      (harguments : stage.arguments = []) (hbehind : ∃ other ∈ before, other.isBlank = false) :
      InsertsCat (before ++ behind) (before ++ stage :: behind)

theorem InsertsBlank.runStages_eq (registry : Registry) {stages padded : List Stage}
    (h : InsertsBlank stages padded) :
    runStages registry stages {} = runStages registry padded {} := by
  obtain ⟨before, behind, hblank⟩ := h
  rw [runStages_append registry before behind rfl, runStages_append registry before _ rfl]
  congr 1
  funext next
  cases hnext : next.terminate with
  | true => rfl
  | false => simp only [runStages_blank registry hblank behind hnext]

theorem InsertsCat.runStages_eq {registry : Registry} (hregistry : registry.Replies)
    {stages padded : List Stage} (h : InsertsCat stages padded) :
    runStages registry stages {} = runStages registry padded {} := by
  obtain ⟨before, behind, hname, harguments, hbehind⟩ := h
  rw [runStages_append _ before behind rfl, runStages_append _ before _ rfl]
  apply (yields_runStages hregistry (.inr hbehind)).bind_congr
  rintro next (hended | ⟨text, rfl⟩)
  · rw [if_pos hended, if_pos hended]
  · simp only [runStages_cat hregistry hname harguments]

theorem execute_congr (setup : Setup) (registry : Registry) (redirection : Option Redirection)
    {stages padded : List Stage}
    (h : runStages registry stages {} = runStages registry padded {}) :
    execute setup registry { stages, redirection } =
      execute setup registry { stages := padded, redirection } := by
  simp only [execute, h]

/-- A pipeline does the same, with any commands, when blank stages are put in or taken out anywhere;
with the standard commands it also does the same when a bare `cat` is put in or taken out behind its
first stage that is not blank. -/
theorem execute_of_padding (setup : Setup) (redirection : Option Redirection)
    (stages padded : List Stage) :
    (Relation.EqvGen InsertsBlank stages padded → ∀ registry,
      execute setup registry { stages, redirection } =
        execute setup registry { stages := padded, redirection }) ∧
    (Relation.EqvGen (fun few many => InsertsBlank few many ∨ InsertsCat few many) stages padded →
      execute setup (standardRegistry setup) { stages, redirection } =
        execute setup (standardRegistry setup) { stages := padded, redirection }) := by
  constructor
  · intro hblanks registry
    induction hblanks with
    | rel few many hinsert =>
        exact execute_congr setup registry redirection (hinsert.runStages_eq registry)
    | refl => rfl
    | symm _ _ _ ih => exact ih.symm
    | trans _ _ _ _ _ first second => exact first.trans second
  · intro hinsertions
    induction hinsertions with
    | rel few many hinsert =>
        refine execute_congr setup _ redirection ?_
        rcases hinsert with hblank | hcat
        · exact hblank.runStages_eq _
        · exact hcat.runStages_eq (replies_standardRegistry setup)
    | refl => rfl
    | symm _ _ _ ih => exact ih.symm
    | trans _ _ _ _ _ first second => exact first.trans second

section Example

/-- A blank stage in front of two commands. -/
def spacedStages : List Stage :=
  [.ofText "", .ofText "cat f", .ofText "mkdir d"]

/-- The two commands with a bare `cat` behind each. -/
def cattedStages : List Stage :=
  [.ofText "cat f", .ofText "cat", .ofText "mkdir d", .ofText "CAT"]

/-- With the blank stage taken out and the two `cat`s put in, the same is written to the file. -/
theorem execute_of_padding_catted :
    Relation.EqvGen (fun few many => InsertsBlank few many ∨ InsertsCat few many)
        spacedStages cattedStages ∧
      execute { host := {} } (standardRegistry { host := {} })
          { stages := spacedStages, redirection := some { target := "out", mode := .append } } =
        execute { host := {} } (standardRegistry { host := {} })
          { stages := cattedStages, redirection := some { target := "out", mode := .append } } := by
  let commands : List Stage := [.ofText "cat f", .ofText "mkdir d"]
  have hunspaced : InsertsBlank commands spacedStages := .insert [] commands (by decide)
  have hlast : InsertsCat commands [.ofText "cat f", .ofText "mkdir d", .ofText "CAT"] :=
    .insert commands [] (by decide) (by decide) (by decide)
  have hfirst : InsertsCat [.ofText "cat f", .ofText "mkdir d", .ofText "CAT"] cattedStages :=
    .insert [.ofText "cat f"] _ (by decide) (by decide) (by decide)
  have hinsertions : Relation.EqvGen
      (fun few many => InsertsBlank few many ∨ InsertsCat few many) spacedStages cattedStages :=
    ((Relation.EqvGen.rel _ _ (.inl hunspaced)).symm).trans _ _ _
      ((Relation.EqvGen.rel _ _ (.inr hlast)).trans _ _ _ (.rel _ _ (.inr hfirst)))
  exact ⟨hinsertions, (execute_of_padding _ _ _ _).2 hinsertions⟩

end Example

end Pipeline

end LineShell
