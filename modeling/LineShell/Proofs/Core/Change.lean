import LineShell.Proofs.Core.Outcome

/-!
# Runs from changed states

What an action does not look at makes no difference to it.  This is said with a change of the state:
the action commutes with the change if the run from a changed state comes to the outcome of the run
from the state itself, but for the same change of the state that it ends in.
-/

namespace LineShell

variable {Fault State A B : Type}

/-- An outcome with a change made to its state. -/
def changeState (change : State → State) :
    EStateM.Result Fault State A → EStateM.Result Fault State A
  | .ok value after => .ok value (change after)
  | .error fault after => .error fault (change after)

/-- The run from a state and the run from what a change makes of it differ by that change only. -/
def CommutesAt (change : State → State) (action : EStateM Fault State A) (state : State) : Prop :=
  action (change state) = changeState change (action state)

/-- A change makes no other difference to the runs of an action than to their states. -/
abbrev Commutes (change : State → State) (action : EStateM Fault State A) : Prop :=
  ∀ state, CommutesAt change action state

section Rules

variable {change : State → State} {state : State}

theorem CommutesAt.of_ok {action : EStateM Fault State A} {value : A} {after : State}
    (haction : CommutesAt change action state) (hrun : action state = .ok value after) :
    action (change state) = .ok value (change after) := by
  rw [haction, hrun, changeState]

theorem CommutesAt.of_error {action : EStateM Fault State A} {fault : Fault} {after : State}
    (haction : CommutesAt change action state) (hrun : action state = .error fault after) :
    action (change state) = .error fault (change after) := by
  rw [haction, hrun, changeState]

/-- A sequence commutes where its parts do. -/
theorem CommutesAt.bind {action : EStateM Fault State A} {next : A → EStateM Fault State B}
    (haction : CommutesAt change action state)
    (hnext : ∀ value after, action state = .ok value after → CommutesAt change (next value) after) :
    CommutesAt change (action >>= next) state := by
  unfold CommutesAt
  cases hrun : action state with
  | ok value after =>
      rw [bind_of_ok hrun, bind_of_ok (haction.of_ok hrun)]
      exact hnext value after hrun
  | error fault after =>
      rw [bind_of_error hrun, bind_of_error (haction.of_error hrun), changeState]

/-- A change that leaves a state alone leaves the states alone in which the action ends. -/
theorem CommutesAt.ends_fixed {action : EStateM Fault State A}
    (haction : CommutesAt change action state) (hstate : change state = state) :
    Ends action state (fun _ after => change after = after)
      (fun _ after => change after = after) := by
  unfold CommutesAt at haction
  rw [hstate] at haction
  unfold Ends
  cases hrun : action state with
  | ok value after =>
      rw [hrun, changeState, EStateM.Result.ok.injEq] at haction
      exact haction.2.symm
  | error fault after =>
      rw [hrun, changeState, EStateM.Result.error.injEq] at haction
      exact haction.2.symm

namespace Commutes

theorem pure (value : A) : Commutes change (Pure.pure value : EStateM Fault State A) :=
  fun _ => rfl

theorem throw (fault : Fault) :
    Commutes change (MonadExcept.throw fault : EStateM Fault State A) :=
  fun _ => rfl

theorem bind {action : EStateM Fault State A} {next : A → EStateM Fault State B}
    (haction : Commutes change action) (hnext : ∀ value, Commutes change (next value)) :
    Commutes change (action >>= next) :=
  fun state => (haction state).bind fun value after _ => hnext value after

theorem ite {condition : Prop} [Decidable condition] {action other : EStateM Fault State A}
    (haction : Commutes change action) (hother : Commutes change other) :
    Commutes change (if condition then action else other) := by
  split
  · exact haction
  · exact hother

end Commutes

end Rules

end LineShell
