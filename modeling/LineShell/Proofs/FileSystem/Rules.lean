import LineShell.Proofs.FileSystem.Walks

/-!
# Rules for the last link

Two walks of one path under different rules differ at its last link only.  So whatever relates what
the two rules make of that link relates all that their walks come to.  A rule that follows fewer
links comes to an end wherever another one does, and both come to the same spot unless the first one
stops at a link.
-/

namespace LineShell

/-- What walks come to under two rules can be compared: it is the same but for a last link, where
each rule goes on or stops. -/
structure Compares (files : FileSystem) (rule other : LinkRule)
    (related : Except Cause Spot → Except Cause Spot → Prop) : Prop where
  same : ∀ outcome, related outcome outcome
  last : ∀ {place name target outcome outcome'} (slashed : Bool),
    files.kind? (place ++ [name]) = some (.link target) → related outcome outcome' →
    related (if rule.follows slashed then outcome else .ok (.entry place name slashed))
      (if other.follows slashed then outcome' else .ok (.entry place name slashed))

namespace Compares

variable {host : Host} {files : FileSystem} {rule other : LinkRule}
variable {related : Except Cause Spot → Except Cause Spot → Prop}
variable (h : Compares files rule other related)
include h

theorem steps {follow follow' : Place → List Text → Except Cause Spot}
    (hfollow : ∀ start components, related (follow start components) (follow' start components))
    (place : Place) (components : List Text) :
    related (Walk.steps host files rule follow place components)
      (Walk.steps host files other follow' place components) := by
  induction components generalizing place with
  | nil => exact h.same _
  | cons component rest ih =>
      rw [Walk.steps, Walk.steps]
      split
      · exact ih place
      split
      · exact ih place.dropLast
      split
      · split
        · rename_i target htarget
          exact h.last _ (FileSystem.kind?_of_at? htarget) (hfollow _ _)
        · exact h.same _
      split
      · exact h.same _
      split
      · exact h.same _
      · exact hfollow _ _
      · exact ih _
      · exact h.same _

theorem walk (links : Nat) (place : Place) (components : List Text) :
    related (Walk.walk host files rule links place components)
      (Walk.walk host files other links place components) := by
  induction links generalizing place components with
  | zero => exact h.steps (fun _ _ => h.same _) place components
  | succ links ih => exact h.steps ih place components

theorem locate (path : Text) :
    related (files.locate host rule path) (files.locate host other path) :=
  Walk.locate_related related rfl rfl (h.same _) (h.same _) (h.same _)
    (h.walk host.linkLimit) path

end Compares

namespace FileSystem

variable {host : Host} {files : FileSystem} {rule : LinkRule} {path : Text}

/-- A rule that follows fewer links is not stopped where another rule is not. -/
theorem exists_locate_of_fewer (other : LinkRule)
    (hfewer : ∀ slashed, other.follows slashed → rule.follows slashed) {spot : Spot}
    (h : files.locate host rule path = .ok spot) :
    ∃ spot', files.locate host other path = .ok spot' := by
  have hcompares : Compares files rule other fun outcome outcome' =>
      (∃ spot, outcome = .ok spot) → ∃ spot, outcome' = .ok spot := by
    constructor
    · exact fun _ hends => hends
    · intro place name target outcome outcome' slashed _ hrelated hends
      by_cases hother : other.follows slashed = true
      · rw [if_pos (hfewer slashed hother)] at hends
        rw [if_pos hother]
        exact hrelated hends
      · rw [if_neg hother]
        exact ⟨_, rfl⟩
  exact hcompares.locate path ⟨spot, h⟩

/-- A rule that follows more links comes to the same spot, unless the other one stopped at a link.
-/
theorem locate_of_unlinked (other : LinkRule)
    (hmore : ∀ slashed, rule.follows slashed → other.follows slashed)
    {spot : Spot} (hspot : ∀ target, files.kind? spot.place ≠ some (.link target))
    (h : files.locate host rule path = .ok spot) : files.locate host other path = .ok spot := by
  have hcompares : Compares files rule other fun outcome outcome' =>
      outcome = .ok spot → outcome' = .ok spot := by
    constructor
    · exact fun _ hends => hends
    · intro place name target outcome outcome' slashed hlink hrelated hends
      by_cases hrule : rule.follows slashed = true
      · rw [if_pos hrule] at hends
        rw [if_pos (hmore slashed hrule)]
        exact hrelated hends
      · rw [if_neg hrule] at hends
        cases hends
        exact absurd hlink (hspot target)
  exact hcompares.locate path h

end FileSystem

end LineShell
