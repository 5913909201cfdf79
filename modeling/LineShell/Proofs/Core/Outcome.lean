import Mathlib.Logic.Basic

/-!
# Outcomes of computations

Operations on files and commands are computations over a state that may end in a fault and keep what
they did before it.  `Ends` says of one run what holds in either case, and the rules below take it
through a sequence step by step; `Completes` says that a run comes to its end.  `Keeps` is the form
that most arguments need: an invariant of the state holds after the run, however it ended, and only
certain faults come up; `Gives` says also what value comes out, and `Yields` says only that.
-/

namespace LineShell

variable {Fault State A B : Type}

/-- The run of an action from a state gives a value and a state with `done`, or a fault and a state
with `failed`. -/
def Ends (action : EStateM Fault State A) (state : State) (done : A → State → Prop)
    (failed : Fault → State → Prop) : Prop :=
  match action state with
  | .ok value after => done value after
  | .error fault after => failed fault after

namespace Ends

variable {action : EStateM Fault State A} {state : State}
variable {done done' : A → State → Prop} {failed failed' : Fault → State → Prop}

theorem mono (h : Ends action state done failed)
    (hdone : ∀ value after, done value after → done' value after)
    (hfailed : ∀ fault after, failed fault after → failed' fault after) :
    Ends action state done' failed' := by
  unfold Ends at h ⊢
  split <;> rename_i hrun <;> rw [hrun] at h
  · exact hdone _ _ h
  · exact hfailed _ _ h

theorem mono_done (h : Ends action state done failed)
    (hdone : ∀ value after, done value after → done' value after) :
    Ends action state done' failed :=
  h.mono hdone fun _ _ hfailed => hfailed

/-- What holds after every run of two kinds holds together. -/
theorem and (h : Ends action state done failed) (h' : Ends action state done' failed') :
    Ends action state (fun value after => done value after ∧ done' value after)
      (fun fault after => failed fault after ∧ failed' fault after) := by
  unfold Ends at h h' ⊢
  split <;> rename_i hrun <;> rw [hrun] at h h' <;> exact ⟨h, h'⟩

/-- What holds after a run may be shown with the run at hand. -/
theorem with_run (h : Ends action state done failed) :
    Ends action state (fun value after => done value after ∧ action state = .ok value after)
      (fun fault after => failed fault after ∧ action state = .error fault after) := by
  unfold Ends at h ⊢
  split <;> rename_i hrun <;> rw [hrun] at h
  · exact ⟨h, hrun⟩
  · exact ⟨h, hrun⟩

/-- A run from elsewhere with the same outcome ends alike. -/
theorem congr {other : EStateM Fault State A} {start : State} (h : Ends action state done failed)
    (hrun : other start = action state) : Ends other start done failed := by
  simpa only [Ends, hrun] using h

theorem of_ok {value : A} {after : State} (h : Ends action state done failed)
    (hrun : action state = .ok value after) : done value after := by
  simpa only [Ends, hrun] using h

theorem of_error {fault : Fault} {after : State} (h : Ends action state done failed)
    (hrun : action state = .error fault after) : failed fault after := by
  simpa only [Ends, hrun] using h

theorem iff_of_ok {value : A} {after : State} (hrun : action state = .ok value after) :
    Ends action state done failed ↔ done value after := by
  simp only [Ends, hrun]

theorem iff_of_error {fault : Fault} {after : State} (hrun : action state = .error fault after) :
    Ends action state done failed ↔ failed fault after := by
  simp only [Ends, hrun]

/-- A run that must end in one fault and one state does. -/
theorem eq_error {fault : Fault} {after : State}
    (h : Ends action state (fun _ _ => False) fun other last => other = fault ∧ last = after) :
    action state = .error fault after := by
  unfold Ends at h
  split at h
  · exact h.elim
  · rename_i hrun
    rw [hrun, h.1, h.2]

end Ends

/-- The run of an action from a state gives a value and a state with `done`, and no fault. -/
abbrev Completes (action : EStateM Fault State A) (state : State) (done : A → State → Prop) : Prop :=
  Ends action state done fun _ _ => False

namespace Completes

variable {action : EStateM Fault State A} {state : State} {done done' : A → State → Prop}

theorem ends {failed : Fault → State → Prop} (h : Completes action state done)
    (hdone : ∀ value after, done value after → done' value after) :
    Ends action state done' failed :=
  Ends.mono h hdone fun _ _ h => h.elim

theorem exists_ok (h : Completes action state done) :
    ∃ value after, action state = .ok value after ∧ done value after := by
  unfold Completes Ends at h
  split at h
  · rename_i value after hrun
    exact ⟨value, after, hrun, h⟩
  · exact h.elim

end Completes

section Rules

variable {state : State} {failed : Fault → State → Prop}

@[simp]
theorem ends_pure (value : A) (done : A → State → Prop) :
    Ends (pure value : EStateM Fault State A) state done failed ↔ done value state := Iff.rfl

@[simp]
theorem ends_throw (fault : Fault) (done : A → State → Prop) :
    Ends (throw fault : EStateM Fault State A) state done failed ↔ failed fault state := Iff.rfl

@[simp]
theorem ends_get (done : State → State → Prop) :
    Ends (get : EStateM Fault State State) state done failed ↔ done state state := Iff.rfl

/-- A sequence ends as its second part does from where the first part leaves off. -/
@[simp]
theorem ends_bind (action : EStateM Fault State A) (next : A → EStateM Fault State B)
    (done : B → State → Prop) :
    Ends (action >>= next) state done failed ↔
      Ends action state (fun value after => Ends (next value) after done failed) failed := by
  simp only [Ends, bind, EStateM.bind]
  cases action state <;> rfl

/-- A guard either stops with its fault or goes on. -/
@[simp]
theorem ends_guard (refused : Prop) [Decidable refused] (fault : Fault)
    (stop : A → EStateM Fault State B) (next : EStateM Fault State B)
    (done : B → State → Prop) :
    Ends (if refused then throw fault >>= stop else next) state done failed ↔
      (refused → failed fault state) ∧ (¬ refused → Ends next state done failed) := by
  by_cases h : refused <;> simp [h]

/-- A sequence that gives a value does so from where its first part left off. -/
theorem exists_of_bind_ok {action : EStateM Fault State A} {next : A → EStateM Fault State B}
    {value : B} {after : State} (hrun : (action >>= next) state = .ok value after) :
    ∃ first middle, action state = .ok first middle ∧ next first middle = .ok value after := by
  simp only [bind, EStateM.bind] at hrun
  split at hrun
  · exact ⟨_, _, ‹_›, hrun⟩
  · cases hrun

/-- A sequence goes on from where its first part left off. -/
theorem bind_of_ok {action : EStateM Fault State A} {next : A → EStateM Fault State B} {value : A}
    {after : State} (hrun : action state = .ok value after) :
    (action >>= next) state = next value after := by
  simp only [bind, EStateM.bind, hrun]

/-- A sequence stops where its first part ends in a fault. -/
theorem bind_of_error {action : EStateM Fault State A} {next : A → EStateM Fault State B}
    {fault : Fault} {after : State} (hrun : action state = .error fault after) :
    (action >>= next) state = .error fault after := by
  simp only [bind, EStateM.bind, hrun]

theorem ends_forM_cons {step : A → EStateM Fault State PUnit} {item : A} {rest : List A}
    {done : PUnit → State → Prop} :
    Ends ((item :: rest).forM step) state done failed ↔
      Ends (step item) state (fun _ after => Ends (rest.forM step) after done failed) failed :=
  ends_bind (step item) (fun _ => rest.forM step) done

/-- A run over a list goes on from each of its steps to the next one, and what a step has done stays
done.  It fails where one of its steps fails. -/
theorem ends_forM {related : State → State → Prop} {done : A → State → Prop}
    {step : A → EStateM Fault State PUnit} {items : List A} {start : State}
    (hself : ∀ {before after}, related before after → related after after)
    (htrans : ∀ {before middle after}, related before middle → related middle after →
      related before after)
    (hstays : ∀ {item before after}, related before after → done item before → done item after)
    (hstep : ∀ item ∈ items, ∀ now, related start now →
      Ends (step item) now (fun _ after => related now after ∧ done item after) failed)
    (hstate : related start state) :
    Ends (items.forM step) state
      (fun _ after => related state after ∧ ∀ item ∈ items, done item after) failed := by
  induction items generalizing state with
  | nil => exact ⟨hself hstate, by simp⟩
  | cons item rest ih =>
      have hrest := fun other hother => hstep other (List.mem_cons_of_mem item hother)
      rw [ends_forM_cons]
      apply (hstep item List.mem_cons_self state hstate).mono _ fun _ _ hfailed => hfailed
      rintro _ middle ⟨hmiddle, hdone⟩
      apply (ih hrest (htrans hstate hmiddle)).mono _ fun _ _ hfailed => hfailed
      rintro _ after ⟨hafter, hothers⟩
      exact ⟨htrans hmiddle hafter, List.forall_mem_cons.mpr ⟨hstays hafter hdone, hothers⟩⟩

theorem map_of_ok {action : EStateM Fault State A} {change : A → B} {value : A} {after : State}
    (hrun : action state = .ok value after) :
    (change <$> action) state = .ok (change value) after := by
  simp only [Functor.map, EStateM.map, hrun]

theorem map_of_error {action : EStateM Fault State A} {change : A → B} {fault : Fault}
    {after : State} (hrun : action state = .error fault after) :
    (change <$> action) state = .error fault after := by
  simp only [Functor.map, EStateM.map, hrun]

end Rules

/-- From every state with an invariant the run of an action ends in one, with a value of a class or
with an allowed fault. -/
def Gives (invariant : State → Prop) (allowed : Fault → Prop) (given : A → Prop)
    (action : EStateM Fault State A) : Prop :=
  ∀ state, invariant state →
    Ends action state (fun value after => given value ∧ invariant after)
      (fun fault after => allowed fault ∧ invariant after)

/-- The same of an action whose value does not matter. -/
abbrev Keeps (invariant : State → Prop) (allowed : Fault → Prop)
    (action : EStateM Fault State A) : Prop :=
  Gives invariant allowed (fun _ => True) action

/-- An action that gives a value of a class whenever it comes to its end. -/
abbrev Yields (given : A → Prop) (action : EStateM Fault State A) : Prop :=
  Gives (fun _ => True) (fun _ => True) given action

namespace Gives

variable {invariant : State → Prop} {allowed : Fault → Prop} {given : A → Prop}
variable {given' : B → Prop}

theorem pure {value : A} (hvalue : given value) :
    Gives invariant allowed given (Pure.pure value : EStateM Fault State A) :=
  fun _ hstate => ⟨hvalue, hstate⟩

theorem throw {fault : Fault} (hfault : allowed fault) :
    Gives invariant allowed given (MonadExcept.throw fault : EStateM Fault State A) :=
  fun _ hstate => ⟨hfault, hstate⟩

theorem get : Gives invariant allowed invariant (MonadState.get : EStateM Fault State State) :=
  fun _ hstate => ⟨hstate, hstate⟩

/-- Every action keeps what holds always. -/
theorem any (action : EStateM Fault State A) : Keeps (fun _ => True) (fun _ => True) action := by
  intro state _
  unfold Ends
  split <;> exact ⟨trivial, trivial⟩

theorem mono {action : EStateM Fault State A} {weaker : A → Prop}
    (haction : Gives invariant allowed given action)
    (hweaker : ∀ value, given value → weaker value) :
    Gives invariant allowed weaker action :=
  fun state hstate => (haction state hstate).mono
    (fun value _ h => ⟨hweaker value h.1, h.2⟩) (fun _ _ h => h)

theorem bind {action : EStateM Fault State A} {next : A → EStateM Fault State B}
    (haction : Gives invariant allowed given action)
    (hnext : ∀ value, given value → Gives invariant allowed given' (next value)) :
    Gives invariant allowed given' (action >>= next) := by
  intro state hstate
  rw [ends_bind]
  exact (haction state hstate).mono (fun value after h => hnext value h.1 after h.2)
    (fun _ _ h => h)

/-- What follows an action needs to be known for the values that it gives only. -/
theorem bind_congr {action : EStateM Fault State A} {next other : A → EStateM Fault State B}
    (haction : Yields given action)
    (hnext : ∀ value, given value → next value = other value) :
    action >>= next = action >>= other := by
  funext state
  cases hrun : action state with
  | ok value after =>
      rw [bind_of_ok hrun, bind_of_ok hrun, hnext value ((haction state trivial).of_ok hrun).1]
  | error fault after => rw [bind_of_error hrun, bind_of_error hrun]

/-- A choice keeps what both of its sides keep. -/
theorem ite {condition : Prop} [Decidable condition] {action other : EStateM Fault State A}
    (haction : condition → Gives invariant allowed given action)
    (hother : ¬ condition → Gives invariant allowed given other) :
    Gives invariant allowed given (if condition then action else other) := by
  split
  · exact haction ‹_›
  · exact hother ‹_›

/-- A run over a list keeps what each of its steps keeps. -/
theorem forM {items : List A} {step : A → EStateM Fault State PUnit}
    (hstep : ∀ item ∈ items, Keeps invariant allowed (step item)) :
    Keeps invariant allowed (items.forM step) := by
  induction items with
  | nil => exact pure trivial
  | cons item rest ih =>
      exact bind (hstep item List.mem_cons_self)
        fun _ _ => ih fun other hother => hstep other (List.mem_cons_of_mem item hother)

theorem mapM {items : List A} {step : A → EStateM Fault State B}
    (hstep : ∀ item ∈ items, Gives invariant allowed given' (step item)) :
    Gives invariant allowed (fun values => ∀ value ∈ values, given' value) (items.mapM step) := by
  induction items with
  | nil => exact pure (by simp)
  | cons item rest ih =>
      rw [List.mapM_cons]
      refine bind (hstep item List.mem_cons_self) fun value hvalue => ?_
      refine bind (ih fun other hother => hstep other (List.mem_cons_of_mem item hother))
        fun values hvalues => pure ?_
      simpa using ⟨hvalue, hvalues⟩

end Gives

end LineShell
