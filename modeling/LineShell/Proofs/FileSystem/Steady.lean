import LineShell.Proofs.FileSystem.Arrivals

/-!
# Walks in a changed tree

A walk looks at directories and links only.  As long as the links stay as they are and no directory
goes, a path that led somewhere leads there still, whatever becomes of files and pipes.
-/

namespace LineShell

namespace FileSystem

/-- The links are the same, the directories are still there, and so is the working directory. -/
structure Steady (before after : FileSystem) : Prop where
  links : ∀ other target,
    after.kind? other = some (.link target) ↔ before.kind? other = some (.link target)
  directories : ∀ other, before.kind? other = some .directory → after.kind? other = some .directory
  working : after.working = before.working

namespace Steady

variable {host : Host} {before after : FileSystem} {rule : LinkRule} {path : Text} {place : Place}

/-- What stands at one place was replaced, and neither the old nor the new is a link, nor the old a
directory. -/
theorem of_leaf {kind : Option Kind}
    (hafter : ∀ other, after.kind? other = if other = place then kind else before.kind? other)
    (hlink : ∀ target, kind ≠ some (.link target))
    (holdDirectory : before.kind? place ≠ some .directory)
    (holdLink : ∀ target, before.kind? place ≠ some (.link target))
    (hworking : after.working = before.working) : before.Steady after := by
  refine ⟨fun other target => ?_, fun other hother => ?_, hworking⟩
  · rw [hafter]
    split
    · rename_i heq
      exact iff_of_false (hlink target) (heq ▸ holdLink target)
    · rfl
  · rw [hafter, if_neg]
    · exact hother
    · rintro rfl
      exact holdDirectory hother

variable (h : before.Steady after)
include h

theorem startOf (path : Text) : after.startOf path = before.startOf path :=
  startOf_congr (congrArg _ h.working) path

theorem denotes (hpath : before.Denotes path place) : after.Denotes path place :=
  hpath.congr h.links (h.startOf path)

theorem names {slashed : Bool} (hpath : before.Names path place slashed) :
    after.Names path place slashed :=
  hpath.congr h.links (h.startOf path)

theorem steps_ok {follow follow' : Place → List Text → Except Cause Spot} {spot : Spot}
    (hfollow : ∀ start components, follow start components = .ok spot →
      follow' start components = .ok spot)
    (place : Place) (components : List Text) :
    Walk.steps host before rule follow place components = .ok spot →
      Walk.steps host after rule follow' place components = .ok spot := by
  induction components generalizing place with
  | nil => exact id
  | cons component rest ih =>
      intro hspot
      rcases Path.skipped_or_up_or_naming component with hskip | rfl | hname
      · rw [Walk.steps_of_skipped hskip] at hspot ⊢
        exact ih place hspot
      · rw [Walk.steps_up] at hspot ⊢
        exact ih place.dropLast hspot
      · rw [Walk.steps_naming_eq_ok_iff hname] at hspot ⊢
        simp only [h.links]
        rcases hspot with ⟨target, hkind, hrule, hsize, hspot⟩ | ⟨hkind, hrest, hsize, hspot⟩ | hlast
        · exact .inl ⟨target, hkind, hrule, hsize, hfollow _ _ hspot⟩
        · exact .inr (.inl ⟨h.directories _ hkind, hrest, hsize, ih _ hspot⟩)
        · exact .inr (.inr hlast)

theorem walk_ok {spot : Spot} (links : Nat) (place : Place) (components : List Text) :
    Walk.walk host before rule links place components = .ok spot →
      Walk.walk host after rule links place components = .ok spot := by
  induction links generalizing place components with
  | zero => exact h.steps_ok (fun _ _ hloop => hloop) place components
  | succ links ih => exact h.steps_ok ih place components

/-- A path that led somewhere leads there still. -/
theorem locate_ok {spot : Spot} :
    before.locate host rule path = .ok spot → after.locate host rule path = .ok spot :=
  Walk.locate_related (fun outcome outcome' => outcome = .ok spot → outcome' = .ok spot) rfl
    h.working id id id (h.walk_ok host.linkLimit) path

omit h in
/-- At a spot is found what stands there, be it replaced, as long as a directory is one still. -/
theorem atSpot_of_replaced {spot : Spot} {node new : Node} (hremoved : spot ≠ .removed)
    (hspot : before.atSpot host spot = .ok (place, node)) (hnew : after.at? place = some new)
    (hsame : new.isDirectory = node.isDirectory) : after.atSpot host spot = .ok (place, new) := by
  cases spot with
  | itself found =>
      obtain ⟨rfl, -⟩ := at?_of_atSpot hremoved hspot
      simp only [Spot.place] at hnew
      simp only [atSpot, hnew, Spot.place]
  | removed => exact absurd rfl hremoved
  | entry found name slashed =>
      obtain ⟨rfl, hnode, -⟩ := at?_of_atSpot_entry hspot
      simp only [atSpot, hnode] at hspot
      simp only [atSpot, hnew, hsame]
      split at hspot
      · cases hspot
      rw [if_neg ‹_›]
      split at hspot
      · cases hspot
      · rw [if_neg ‹_›]

/-- What was found and not removed is found where it stands, be it replaced. -/
theorem target?_of_replaced {node new : Node}
    (hfound : before.target? host path = some (place, node)) (hnew : after.at? place = some new)
    (hsame : new.isDirectory = node.isDirectory)
    (hremoved : before.locate host .always path ≠ .ok .removed) :
    after.target? host path = some (place, new) := by
  obtain ⟨hnull, hlookup⟩ := target?_eq_some_iff.mp hfound
  obtain ⟨spot, hlocate, hspot⟩ := exists_spot_of_lookup hlookup
  refine target?_eq_some_iff.mpr ⟨hnull, ?_⟩
  rw [lookup, h.locate_ok hlocate]
  refine atSpot_of_replaced ?_ hspot hnew hsame
  rintro rfl
  exact hremoved hlocate

/-- A directory is still found. -/
theorem isDirectory (hfound : before.isDirectory host path = true) :
    after.isDirectory host path = true := by
  obtain ⟨place, entries, htarget⟩ := isDirectory_iff.mp hfound
  obtain ⟨hnull, hlookup⟩ := target?_eq_some_iff.mp htarget
  obtain ⟨spot, hlocate, hspot⟩ := exists_spot_of_lookup hlookup
  by_cases hremoved : spot = .removed
  · subst hremoved
    have hafter : after.lookup host .always path = .ok (after.working.place, .directory []) := by
      rw [lookup, h.locate_ok hlocate]
      rfl
    exact isDirectory_iff.mpr ⟨_, _, target?_eq_some_iff.mpr ⟨hnull, hafter⟩⟩
  · obtain ⟨-, hat⟩ := at?_of_atSpot hremoved hspot
    obtain ⟨others, hothers⟩ := exists_entries_of_kind? (h.directories _ (kind?_of_at? hat))
    refine isDirectory_iff.mpr ⟨_, _, h.target?_of_replaced htarget hothers rfl ?_⟩
    rw [hlocate]
    exact fun heq => hremoved (Except.ok.inj heq)

/-- A file is still found as long as it stands where it stood. -/
theorem target?_file {content : Bytes}
    (hfound : before.target? host path = some (place, .file content))
    (hkind : after.kind? place = some (.file content)) :
    after.target? host path = some (place, .file content) := by
  apply h.target?_of_replaced hfound (at?_file_iff.mpr hkind) rfl
  intro hremoved
  have hlookup := (target?_eq_some_iff.mp hfound).2
  rw [lookup, hremoved] at hlookup
  cases hlookup

end Steady

end FileSystem

end LineShell

