import LineShell.FileSystem.Walk
import LineShell.Proofs.FileSystem.Places
import LineShell.Proofs.Path.Normal

/-!
# The steps of a walk

A walk meets three kinds of component: it stays where it is at `.` and at an empty one, it goes up at
`..`, and at every other one it looks for an entry of that name.  The lemmas say what it does at each
of them.  A walk out of removed directories only counts them on the way up, so whatever relates two
walks from a directory that is there relates what two systems locate a path at.
-/

namespace LineShell

namespace Walk

section Steps

variable {host : Host} {files : FileSystem} {rule : LinkRule}
variable {follow : Place → List Text → Except Cause Spot} {place : Place} {component : Text}
variable {name : Name} {rest : List Text}

theorem steps_of_skipped (hcomponent : component = [] ∨ component = Path.self) :
    steps host files rule follow place (component :: rest) =
      steps host files rule follow place rest := by
  have hskip : (component.isEmpty || component == Path.self) = true := by simpa using hcomponent
  rw [steps, if_pos hskip]

theorem steps_up : steps host files rule follow place (Path.up :: rest) =
    steps host files rule follow place.dropLast rest := by
  rw [steps, if_neg (by decide), if_pos (by decide)]

theorem steps_enter (hname : Path.Naming name) (hrest : rest.all List.isEmpty = false)
    (hsize : name.utf8Size ≤ host.nameLimit)
    (hkind : files.kind? (place ++ [name]) = some .directory) :
    steps host files rule follow place (name :: rest) =
      steps host files rule follow (place ++ [name]) rest := by
  obtain ⟨entries, hentries⟩ := FileSystem.exists_entries_of_kind? hkind
  rw [steps, if_neg hname.not_isEmpty_or_self, if_neg hname.not_beq_up, if_neg (by simp [hrest]),
    if_neg (Nat.not_lt.mpr hsize), hentries]

/-- A link is followed, in the last position only if the rule says so. -/
theorem steps_follow (hname : Path.Naming name) {target : Text}
    (hkind : files.kind? (place ++ [name]) = some (.link target))
    (hrule : rest.all List.isEmpty = true → rule.follows (!rest.isEmpty) = true)
    (hsize : rest.all List.isEmpty = false → name.utf8Size ≤ host.nameLimit) :
    steps host files rule follow place (name :: rest) =
      follow (linkStart place target) (Text.splitOn '/' target ++ rest) := by
  rw [steps, if_neg hname.not_isEmpty_or_self, if_neg hname.not_beq_up]
  cases hrest : rest.all List.isEmpty with
  | true =>
      simp only [if_true, FileSystem.at?_link_iff.mpr hkind]
      rw [if_pos (hrule hrest)]
  | false =>
      rw [if_neg (by decide), if_neg (Nat.not_lt.mpr (hsize hrest)),
        FileSystem.at?_link_iff.mpr hkind]

/-- A walk stops at its last name, unless that is a link that the rule follows. -/
theorem steps_last (hname : Path.Naming name) (hrest : rest.all List.isEmpty = true)
    (hrule : ∀ target, files.kind? (place ++ [name]) = some (.link target) →
      rule.follows (!rest.isEmpty) = false) :
    steps host files rule follow place (name :: rest) =
      .ok (.entry place name (!rest.isEmpty)) := by
  rw [steps, if_neg hname.not_isEmpty_or_self, if_neg hname.not_beq_up, if_pos hrest]
  split
  · rename_i target htarget
    rw [hrule target (FileSystem.kind?_of_at? htarget)]
    rfl
  · rfl

/-- At a name a walk goes on in one of two ways, through a link or into a directory, or stops. -/
theorem steps_naming_eq_ok_iff (hname : Path.Naming name) {spot : Spot} :
    steps host files rule follow place (name :: rest) = .ok spot ↔
      (∃ target, files.kind? (place ++ [name]) = some (.link target) ∧
        (rest.all List.isEmpty = true → rule.follows (!rest.isEmpty) = true) ∧
        (rest.all List.isEmpty = false → name.utf8Size ≤ host.nameLimit) ∧
        follow (linkStart place target) (Text.splitOn '/' target ++ rest) = .ok spot) ∨
      (files.kind? (place ++ [name]) = some .directory ∧ rest.all List.isEmpty = false ∧
        name.utf8Size ≤ host.nameLimit ∧
        steps host files rule follow (place ++ [name]) rest = .ok spot) ∨
      (rest.all List.isEmpty = true ∧
        (∀ target, files.kind? (place ++ [name]) = some (.link target) →
          rule.follows (!rest.isEmpty) = false) ∧
        spot = .entry place name (!rest.isEmpty)) := by
  constructor
  · intro h
    by_cases hlink : ∃ target, files.kind? (place ++ [name]) = some (.link target) ∧
        (rest.all List.isEmpty = true → rule.follows (!rest.isEmpty) = true)
    · obtain ⟨target, hkind, hrule⟩ := hlink
      have hsize : rest.all List.isEmpty = false → name.utf8Size ≤ host.nameLimit := by
        intro hrest
        by_contra hlong
        rw [steps, if_neg hname.not_isEmpty_or_self, if_neg hname.not_beq_up,
          if_neg (by simp [hrest]), if_pos (Nat.lt_of_not_le hlong)] at h
        cases h
      exact .inl ⟨target, hkind, hrule, hsize, (steps_follow hname hkind hrule hsize).symm.trans h⟩
    cases hrest : rest.all List.isEmpty with
    | true =>
        have hrule : ∀ target, files.kind? (place ++ [name]) = some (.link target) →
            rule.follows (!rest.isEmpty) = false := fun target hkind =>
          Bool.eq_false_iff.mpr fun hfollows => hlink ⟨target, hkind, fun _ => hfollows⟩
        rw [steps_last hname hrest hrule] at h
        exact .inr (.inr ⟨rfl, hrule, (Except.ok.inj h).symm⟩)
    | false =>
        rw [steps, if_neg hname.not_isEmpty_or_self, if_neg hname.not_beq_up,
          if_neg (by simp [hrest])] at h
        split at h
        · cases h
        rename_i hsize
        split at h
        · cases h
        · rename_i target htarget
          exact absurd ⟨target, FileSystem.kind?_of_at? htarget, by simp [hrest]⟩ hlink
        · rename_i entries hentries
          exact .inr (.inl ⟨FileSystem.kind?_of_at? hentries, rfl, Nat.le_of_not_lt hsize, h⟩)
        · cases h
  · rintro (⟨target, hkind, hrule, hsize, h⟩ | ⟨hkind, hrest, hsize, h⟩ | ⟨hrest, hrule, rfl⟩)
    · exact (steps_follow hname hkind hrule hsize).trans h
    · exact (steps_enter hname hrest hsize hkind).trans h
    · exact steps_last hname hrest hrule

end Steps

/-! ### Out of removed directories -/

section Removed

variable {host : Host} {files : FileSystem} {rule : LinkRule} {gone : Nat} {rest : List Text}

theorem fromRemoved_of_skipped {component : Text}
    (hcomponent : component = [] ∨ component = Path.self) :
    fromRemoved host files rule (gone + 1) (component :: rest) =
      fromRemoved host files rule (gone + 1) rest := by
  rw [fromRemoved, if_pos (by simpa using hcomponent)]

theorem fromRemoved_up : fromRemoved host files rule (gone + 1) (Path.up :: rest) =
    fromRemoved host files rule gone rest := by
  rw [fromRemoved, if_neg (by decide), if_pos (by decide)]

/-- Nothing is in a removed directory. -/
theorem fromRemoved_of_naming {name : Name} (hname : Path.Naming name) :
    fromRemoved host files rule (gone + 1) (name :: rest) = .error .noEntry := by
  rw [fromRemoved, if_neg hname.not_isEmpty_or_self, if_neg hname.not_beq_up]

end Removed

section Related

variable {host host' : Host} {files files' : FileSystem} {rule rule' : LinkRule}
variable (related : Except Cause Spot → Except Cause Spot → Prop)

theorem fromRemoved_related (hremoved : related (.ok .removed) (.ok .removed))
    (hnone : related (.error .noEntry) (.error .noEntry))
    (hwalk : ∀ components,
      related (walk host files rule host.linkLimit files.working.lasting components)
        (walk host' files' rule' host'.linkLimit files'.working.lasting components))
    (gone : Nat) (components : List Text) :
    related (fromRemoved host files rule gone components)
      (fromRemoved host' files' rule' gone components) := by
  induction components generalizing gone with
  | nil =>
      cases gone with
      | zero =>
          rw [fromRemoved, fromRemoved]
          exact hwalk []
      | succ gone => exact hremoved
  | cons component rest ih =>
      cases gone with
      | zero =>
          rw [fromRemoved, fromRemoved]
          exact hwalk (component :: rest)
      | succ gone =>
          rcases Path.skipped_or_up_or_naming component with hskip | rfl | hname
          · rw [fromRemoved_of_skipped hskip, fromRemoved_of_skipped hskip]
            exact ih (gone + 1)
          · rw [fromRemoved_up, fromRemoved_up]
            exact ih gone
          · rw [fromRemoved_of_naming hname, fromRemoved_of_naming hname]
            exact hnone

/-- What relates the walks on two systems relates all that they locate paths at. -/
theorem locate_related (hlimit : host'.pathLimit = host.pathLimit)
    (hworking : files'.working = files.working)
    (hremoved : related (.ok .removed) (.ok .removed))
    (hnone : related (.error .noEntry) (.error .noEntry))
    (hlong : related (.error .nameTooLong) (.error .nameTooLong))
    (hwalk : ∀ place components, related (walk host files rule host.linkLimit place components)
      (walk host' files' rule' host'.linkLimit place components)) (path : Text) :
    related (files.locate host rule path) (files'.locate host' rule' path) := by
  rw [FileSystem.locate, FileSystem.locate, fromWorking, fromWorking, hlimit, hworking]
  split
  · exact hnone
  split
  · exact hlong
  split
  · exact hwalk [] _
  · refine fromRemoved_related related hremoved hnone (fun components => ?_) _ _
    rw [hworking]
    exact hwalk _ components

end Related

end Walk

end LineShell
