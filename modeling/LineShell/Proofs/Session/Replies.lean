import LineShell.Proofs.Session.Console
import LineShell.Proofs.Session.SessionState

/-!
# What commands reply

Every command but `exit` replies with a text, if only an empty one, and leaves the session running;
`exit` replies with nothing and ends it.  So what a stage gets from a command before it is never
nothing, and a pipeline ends the session only in a stage of that name.
-/

namespace LineShell

/-- An action that replies with a text whenever it comes to its end. -/
abbrev Tells (action : Shell Reply) : Prop :=
  Yields (fun reply => ∃ text, reply = .say text) action

theorem tells_bind {A : Type} {action : Shell A} {next : A → Shell Reply}
    (hnext : ∀ value, Tells (next value)) : Tells (action >>= next) :=
  (Gives.any action).bind fun value _ => hnext value

theorem tells_say (text : Text) : Tells (pure (.say text)) :=
  .pure ⟨text, rfl⟩

theorem Navigation.tells_run (setup : Setup) (invocation : Invocation) :
    Tells (run setup invocation) := by
  refine .ite (fun _ => tells_bind fun _ => tells_say _) fun _ => .ite (fun _ => ?_) fun _ =>
    .throw trivial
  unfold changeDirectory
  split <;> exact tells_bind fun _ => tells_say _

namespace EntryCommands

theorem tells_forEachOrUsage (usage : Text) (report : Text → Shell Text) (arguments : List Text) :
    Tells (forEachOrUsage usage report arguments) :=
  .ite (fun _ => tells_say _) fun _ => tells_bind fun _ => tells_say _

theorem tells_list (setup : Setup) (arguments : List Text) : Tells (list setup arguments) := by
  unfold list
  split
  · exact tells_say _
  · refine tells_bind fun _ => tells_bind fun listed => ?_
    split <;> exact tells_say _

theorem tells_remove (setup : Setup) (arguments : List Text) : Tells (remove setup arguments) := by
  unfold remove
  split <;> exact tells_forEachOrUsage _ _ _

theorem tells_copy (setup : Setup) (arguments : List Text) : Tells (copy setup arguments) := by
  unfold copy
  split
  · exact tells_say _
  · exact tells_say _
  · exact tells_bind fun _ => tells_say _
  · exact tells_bind fun _ => tells_bind fun _ => .ite (fun _ => tells_say _) fun _ =>
      tells_bind fun _ => .ite (fun _ => tells_say _) fun _ => tells_bind fun _ => tells_say _

theorem tells_move (setup : Setup) (arguments : List Text) : Tells (move setup arguments) := by
  unfold move
  split
  · exact tells_say _
  · exact tells_say _
  · exact tells_bind fun _ => tells_say _
  · exact tells_bind fun _ => tells_bind fun _ => .ite (fun _ => tells_say _) fun _ =>
      tells_bind fun _ => tells_say _

theorem tells_run (setup : Setup) (invocation : Invocation) : Tells (run setup invocation) :=
  .ite (fun _ => tells_list setup _) fun _ => .ite (fun _ => tells_forEachOrUsage _ _ _) fun _ =>
  .ite (fun _ => tells_forEachOrUsage _ _ _) fun _ => .ite (fun _ => tells_remove setup _) fun _ =>
  .ite (fun _ => tells_forEachOrUsage _ _ _) fun _ => .ite (fun _ => tells_copy setup _) fun _ =>
  .ite (fun _ => tells_move setup _) fun _ => .throw trivial

end EntryCommands

namespace ContentCommands

theorem tells_cat (setup : Setup) (arguments : List Text) (piped : Option Text) :
    Tells (cat setup arguments piped) := by
  refine .ite (fun _ => tells_bind fun _ => tells_say _) fun _ => ?_
  split
  · exact tells_say _
  · exact tells_bind fun _ => tells_say _

theorem tells_overwrite (setup : Setup) (arguments : List Text) :
    Tells (overwrite setup arguments) := by
  unfold overwrite
  split
  · exact tells_bind fun _ => tells_say _
  · exact tells_say _

theorem tells_append (setup : Setup) (arguments : List Text) (piped : Option Text) :
    Tells (append setup arguments piped) := by
  unfold append
  split
  · exact tells_bind fun _ => tells_say _
  · exact tells_say _

theorem tells_run (setup : Setup) (invocation : Invocation) : Tells (run setup invocation) :=
  .ite (fun _ => tells_cat setup _ _) fun _ => .ite (fun _ => tells_overwrite setup _) fun _ =>
  .ite (fun _ => tells_append setup _ _) fun _ => .throw trivial

end ContentCommands

/-! ### The standard commands -/

/-- A registry in which `exit` ends the session, every other name leads to a reply with a text, and
a bare `cat` passes on the text of the stage before it. -/
structure Registry.Replies (registry : Registry) : Prop where
  exit : ∀ (name : Text) arguments piped, name.lower = "exit" →
    registry.dispatch { name, arguments, piped } = SessionCommands.exit
  tells : ∀ (name : Text) arguments piped, name.lower ≠ "exit" →
    Tells (registry.dispatch { name, arguments, piped })
  cat : ∀ (name : Text) (text : Text), name.lower = "cat" →
    registry.dispatch { name, piped := some text } = pure (.say text)

theorem replies_standardRegistry (setup : Setup) : (standardRegistry setup).Replies where
  exit name arguments piped hname := by
    unfold Registry.dispatch
    rw [find?_exit setup hname]
    simp only [SessionCommands.group, SessionCommands.run, hname]
    rfl
  tells name arguments piped hname := by
    have hdispatched := dispatched setup { name, arguments, piped }
    generalize (standardRegistry setup).dispatch { name, arguments, piped } = action at hdispatched
    cases hdispatched with
    | unknown => exact tells_say _
    | navigation => exact Navigation.tells_run setup _
    | entries => exact EntryCommands.tells_run setup _
    | content => exact ContentCommands.tells_run setup _
    | session hspec hlower =>
        simp only [SessionCommands.run, hlower, hname, if_false]
        exact .ite (fun _ => tells_say _) fun _ => .throw trivial
  cat name text hname := by
    unfold Registry.dispatch
    rw [find?_cat setup hname]
    simp only [ContentCommands.group, ContentCommands.run, hname, if_true]
    rfl

end LineShell
