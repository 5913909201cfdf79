import LineShell.Proofs.FileSystem.Arrivals

/-!
# What a path passes through

The way of a path passes through the entries that its components, and those of the links that it
leads through, are looked up under.  As long as these entries stay what they are, the path leads to
the entry that it led to, also when the working directory that it starts from is removed meanwhile.
-/

namespace LineShell

/-- Components, looked up from a place on, pass through the entry at a place. -/
inductive Passes (files : FileSystem) : Place → List Text → Place → Prop where
  | skip {place entry : Place} {component : Text} {rest : List Text}
      (hcomponent : component = [] ∨ component = Path.self) (h : Passes files place rest entry) :
      Passes files place (component :: rest) entry
  | up {place entry : Place} {rest : List Text} (h : Passes files place.dropLast rest entry) :
      Passes files place (Path.up :: rest) entry
  | here {place : Place} {name : Text} {rest : List Text} (hname : Path.Naming name) :
      Passes files place (name :: rest) (place ++ [name])
  | enter {place entry : Place} {name : Text} {rest : List Text} (hname : Path.Naming name)
      (hlink : ∀ target, files.kind? (place ++ [name]) ≠ some (.link target))
      (h : Passes files (place ++ [name]) rest entry) : Passes files place (name :: rest) entry
  | follow {place entry : Place} {name target : Text} {rest : List Text} (hname : Path.Naming name)
      (hkind : files.kind? (place ++ [name]) = some (.link target))
      (h : Passes files (Walk.linkStart place target) (Text.splitOn '/' target ++ rest) entry) :
      Passes files place (name :: rest) entry

namespace Passes

variable {files : FileSystem} {start middle entry : Place} {components rest : List Text}

theorem not_nil : ¬ Passes files start [] entry := nofun

section Steps

variable {component : Text} {name : Name} {target : Text}

theorem skip_iff (hcomponent : component = [] ∨ component = Path.self) :
    Passes files start (component :: rest) entry ↔ Passes files start rest entry := by
  refine ⟨fun h => ?_, .skip hcomponent⟩
  cases h with
  | skip _ h => exact h
  | up => simp [Path.up, Path.self] at hcomponent
  | here hname => exact absurd hcomponent hname.not_skipped
  | enter hname => exact absurd hcomponent hname.not_skipped
  | follow hname => exact absurd hcomponent hname.not_skipped

theorem up_iff :
    Passes files start (Path.up :: rest) entry ↔ Passes files start.dropLast rest entry := by
  refine ⟨fun h => ?_, .up⟩
  cases h with
  | skip hcomponent => simp [Path.up, Path.self] at hcomponent
  | up h => exact h
  | here hname => exact absurd rfl hname.2.2
  | enter hname => exact absurd rfl hname.2.2
  | follow hname => exact absurd rfl hname.2.2

theorem enter_iff (hname : Path.Naming name)
    (hlink : ∀ target, files.kind? (start ++ [name]) ≠ some (.link target)) :
    Passes files start (name :: rest) entry ↔
      entry = start ++ [name] ∨ Passes files (start ++ [name]) rest entry := by
  constructor
  · intro h
    cases h with
    | skip hcomponent => exact absurd hcomponent hname.not_skipped
    | up => exact absurd rfl hname.2.2
    | here => exact .inl rfl
    | enter _ _ h => exact .inr h
    | follow _ hkind => exact absurd hkind (hlink _)
  · rintro (rfl | h)
    · exact .here hname
    · exact .enter hname hlink h

theorem follow_iff (hname : Path.Naming name)
    (hkind : files.kind? (start ++ [name]) = some (.link target)) :
    Passes files start (name :: rest) entry ↔ entry = start ++ [name] ∨
      Passes files (Walk.linkStart start target) (Text.splitOn '/' target ++ rest) entry := by
  constructor
  · intro h
    cases h with
    | skip hcomponent => exact absurd hcomponent hname.not_skipped
    | up => exact absurd rfl hname.2.2
    | here => exact .inl rfl
    | enter _ hlink => exact absurd hkind (hlink _)
    | follow _ hkind' h =>
        obtain rfl := Kind.link.inj (Option.some.inj (hkind.symm.trans hkind'))
        exact .inr h
  · rintro (rfl | h)
    · exact .here hname
    · exact .follow hname hkind h

end Steps

theorem not_all_empty (hcomponents : components.all List.isEmpty = true) :
    ¬ Passes files start components entry := by
  induction components with
  | nil => exact not_nil
  | cons component others ih =>
      rw [List.all_cons, Bool.and_eq_true, List.isEmpty_iff] at hcomponents
      rw [skip_iff (.inl hcomponents.1)]
      exact ih hcomponents.2

/-- A path in two parts passes through the entries of both. -/
theorem append_iff (hlead : Leads files start components middle) :
    Passes files start (components ++ rest) entry ↔
      Passes files start components entry ∨ Passes files middle rest entry := by
  induction hlead with
  | done => simp [not_nil]
  | skip hcomponent _ ih => rw [List.cons_append, skip_iff hcomponent, skip_iff hcomponent, ih]
  | up _ ih => rw [List.cons_append, up_iff, up_iff, ih]
  | enter hname hlink _ ih =>
      rw [List.cons_append, enter_iff hname hlink, enter_iff hname hlink, ih, or_assoc]
  | follow hname hkind _ ih =>
      rw [List.append_assoc] at ih
      rw [List.cons_append, follow_iff hname hkind, follow_iff hname hkind, ih, or_assoc]

theorem append_right (h : Passes files start components entry) (rest : List Text) :
    Passes files start (components ++ rest) entry := by
  induction h with
  | skip hcomponent _ ih => exact .skip hcomponent ih
  | up _ ih => exact .up ih
  | here hname => exact .here hname
  | enter hname hlink _ ih => exact .enter hname hlink ih
  | follow hname hkind _ ih =>
      rw [List.append_assoc] at ih
      exact .follow hname hkind ih

/-- The last name of a path that is no link is the last entry passed. -/
theorem naming_iff {name : Name} {trailing : List Text} (hname : Path.Naming name)
    (hlink : ∀ target, files.kind? (start ++ [name]) ≠ some (.link target))
    (htrailing : trailing.all List.isEmpty = true) :
    Passes files start (name :: trailing) entry ↔ entry = start ++ [name] := by
  rw [enter_iff hname hlink, or_iff_left (not_all_empty htrailing)]

end Passes

namespace Arrives

variable {files now : FileSystem} {links : Nat} {start last : Place} {components : List Text}

/-- What a way passes through are directories and links. -/
theorem kind?_of_passes (h : Arrives files links start components last) {entry : Place}
    (hpasses : Passes files start components entry) :
    files.kind? entry = some .directory ∨ ∃ target, files.kind? entry = some (.link target) := by
  induction h with
  | done => exact absurd hpasses Passes.not_nil
  | skip hcomponent _ ih => exact ih ((Passes.skip_iff hcomponent).mp hpasses)
  | up _ ih => exact ih (Passes.up_iff.mp hpasses)
  | enter hname hkind _ ih =>
      rcases (Passes.enter_iff hname (by simp [hkind])).mp hpasses with rfl | hpasses
      · exact .inl hkind
      · exact ih hpasses
  | follow hname hkind _ ih =>
      rcases (Passes.follow_iff hname hkind).mp hpasses with rfl | hpasses
      · exact .inr ⟨_, hkind⟩
      · exact ih hpasses

/-- Empty components at the end of a way make no difference. -/
theorem of_append_empty {empties : List Text}
    (h : Arrives files links start (components ++ empties) last)
    (hstart : files.kind? start = some .directory) (hempties : empties.all List.isEmpty = true) :
    Arrives files links start components last := by
  obtain ⟨middle, fewer, others, rfl, hleft, hright⟩ := h.exists_middle hstart
  obtain rfl := hright.leads.unique (.of_all_empty hempties)
  exact hleft.mono (Nat.le_add_right fewer others)

/-- A way stays as it is while all that it passes through does. -/
theorem kept (h : Arrives files links start components last)
    (hkept : ∀ entry, Passes files start components entry → now.kind? entry = files.kind? entry)
    (hlast : now.kind? last = some .directory) : Arrives now links start components last := by
  induction h with
  | done => exact .done hlast
  | skip hcomponent _ ih =>
      exact .skip hcomponent (ih (fun entry h => hkept entry (.skip hcomponent h)) hlast)
  | up _ ih => exact .up (ih (fun entry h => hkept entry (.up h)) hlast)
  | enter hname hkind _ ih =>
      have hsame := hkept _ (.here hname)
      exact .enter hname (hsame.trans hkind)
        (ih (fun entry h => hkept entry (.enter hname (by simp [hkind]) h)) hlast)
  | follow hname hkind _ ih =>
      have hsame := hkept _ (.here hname)
      exact .follow hname (hsame.trans hkind)
        (ih (fun entry h => hkept entry (.follow hname hkind h)) hlast)

/-- What is left of a way in a file system with less in it was passed through before. -/
theorem passes_of_fewer (h : Arrives now links start components last)
    (hfewer : ∀ {entry kind}, now.kind? entry = some kind → files.kind? entry = some kind)
    {entry : Place} : Passes files start components entry ↔ Passes now start components entry := by
  induction h with
  | done => simp [Passes.not_nil]
  | skip hcomponent _ ih => rw [Passes.skip_iff hcomponent, Passes.skip_iff hcomponent, ih]
  | up _ ih => rw [Passes.up_iff, Passes.up_iff, ih]
  | enter hname hkind _ ih =>
      have hlink {other : FileSystem} {place : Place} (hkind : other.kind? place = some .directory)
          (target : Text) : other.kind? place ≠ some (.link target) := by simp [hkind]
      rw [Passes.enter_iff hname (hlink (hfewer hkind)), Passes.enter_iff hname (hlink hkind), ih]
  | follow hname hkind _ ih =>
      rw [Passes.follow_iff hname hkind, Passes.follow_iff hname (hfewer hkind), ih]

end Arrives

/-! ### Ways from a removed directory -/

/-- Components lead to a directory from the working directory, where so many directories on the way
out of it are gone.  There is nothing to enter in them, so the components go up out of them first. -/
inductive Departs (files : FileSystem) (links : Nat) : Nat → List Text → Place → Prop where
  | start {components : List Text} {last : Place}
      (h : Arrives files links files.working.lasting components last) :
      Departs files links 0 components last
  | skip {gone : Nat} {component : Text} {rest : List Text} {last : Place}
      (hcomponent : component = [] ∨ component = Path.self)
      (h : Departs files links (gone + 1) rest last) :
      Departs files links (gone + 1) (component :: rest) last
  | up {gone : Nat} {rest : List Text} {last : Place} (h : Departs files links gone rest last) :
      Departs files links (gone + 1) (Path.up :: rest) last

namespace Departs

variable {files now : FileSystem} {links gone : Nat} {start middle last : Place}
variable {components rest : List Text}

theorem kind?_last (h : Departs files links gone components last) :
    files.kind? last = some .directory := by
  induction h with
  | start h => exact h.kind?_last
  | skip _ _ ih => exact ih
  | up _ ih => exact ih

theorem append (h : Departs files links gone components middle)
    (hrest : Arrives files 0 middle rest last) :
    Departs files links gone (components ++ rest) last := by
  induction h with
  | start h => exact .start (h.append hrest)
  | skip hcomponent _ ih => exact .skip hcomponent (ih hrest)
  | up _ ih => exact .up (ih hrest)

theorem take_dropLast {gone : Nat} (place : Place) :
    place.dropLast.take (place.dropLast.length - gone) =
      place.take (place.length - (gone + 1)) := by
  rw [List.dropLast_eq_take, List.length_take, List.take_take]
  congr 1
  omega

/-- Where the removed directories would be, the components lead to the same place. -/
theorem leads (h : Departs files links gone components last)
    (hstart : start.take (start.length - gone) = files.working.lasting) :
    Leads files start components last := by
  induction h generalizing start with
  | start h =>
      rw [Nat.sub_zero, List.take_length] at hstart
      exact hstart ▸ h.leads
  | skip hcomponent _ ih => exact .skip hcomponent (ih hstart)
  | up _ ih => exact .up (ih ((take_dropLast start).trans hstart))

theorem kind?_of_passes (h : Departs files links gone components last)
    (hstart : start.take (start.length - gone) = files.working.lasting) {entry : Place}
    (hpasses : Passes files start components entry) :
    files.kind? entry = some .directory ∨ ∃ target, files.kind? entry = some (.link target) := by
  induction h generalizing start with
  | start h =>
      rw [Nat.sub_zero, List.take_length] at hstart
      exact h.kind?_of_passes (hstart ▸ hpasses)
  | skip hcomponent _ ih => exact ih hstart ((Passes.skip_iff hcomponent).mp hpasses)
  | up _ ih => exact ih ((take_dropLast start).trans hstart) (Passes.up_iff.mp hpasses)

/-- Nothing but a component for it leads out of a removed directory. -/
theorem not_all_empty (hcomponents : components.all List.isEmpty = true) :
    ¬ Departs files links (gone + 1) components last := by
  intro h
  induction components with
  | nil => cases h
  | cons component others ih =>
      rw [List.all_cons, Bool.and_eq_true] at hcomponents
      cases h with
      | skip _ h => exact ih hcomponents.2 h
      | up => simp [Path.up] at hcomponents

theorem of_append_empty {empties : List Text}
    (h : Departs files links gone (components ++ empties) last)
    (hlasting : files.kind? files.working.lasting = some .directory)
    (hempties : empties.all List.isEmpty = true) : Departs files links gone components last := by
  generalize hall : components ++ empties = whole at h
  induction h generalizing components with
  | start h => exact .start ((hall ▸ h).of_append_empty hlasting hempties)
  | skip hcomponent h ih =>
      cases components with
      | nil =>
          obtain rfl : empties = _ := hall
          exact absurd (.skip hcomponent h) (not_all_empty hempties)
      | cons first more =>
          obtain ⟨rfl, hmore⟩ := List.cons.inj hall
          exact .skip hcomponent (ih hmore)
  | up h ih =>
      cases components with
      | nil =>
          obtain rfl : empties = _ := hall
          simp [Path.up] at hempties
      | cons first more =>
          obtain ⟨rfl, hmore⟩ := List.cons.inj hall
          exact .up (ih hmore)

theorem passes_of_fewer (h : Departs now links gone components last)
    (hstart : start.take (start.length - gone) = now.working.lasting)
    (hfewer : ∀ {entry kind}, now.kind? entry = some kind → files.kind? entry = some kind)
    {entry : Place} : Passes files start components entry ↔ Passes now start components entry := by
  induction h generalizing start with
  | start h =>
      rw [Nat.sub_zero, List.take_length] at hstart
      exact hstart ▸ h.passes_of_fewer hfewer
  | skip hcomponent _ ih =>
      rw [Passes.skip_iff hcomponent, Passes.skip_iff hcomponent, ih hstart]
  | up _ ih => rw [Passes.up_iff, Passes.up_iff, ih ((take_dropLast start).trans hstart)]

/-- A way from a directory goes on from it when it and more directories above it are gone. -/
theorem of_arrives {more : Nat} (h : Arrives files links start components last)
    (hstart : start.take (start.length - more) = now.working.lasting)
    (hgone : ∀ count < more, now.kind? (start.take (start.length - count)) = none)
    (hkept : ∀ entry, Passes files start components entry → now.kind? entry = files.kind? entry)
    (hlast : now.kind? last = some .directory) : Departs now links more components last := by
  induction more generalizing start components with
  | zero =>
      rw [Nat.sub_zero, List.take_length] at hstart
      exact .start (hstart ▸ h.kept hkept hlast)
  | succ more ih =>
      have hnone : now.kind? start = none := by simpa using hgone 0 (Nat.succ_pos more)
      have hmissing : ∀ name kind, now.kind? (start ++ [name]) ≠ some kind := by
        intro name kind hkind
        rw [FileSystem.kind?_append_eq_none hnone] at hkind
        cases hkind
      induction components with
      | nil =>
          cases h
          rw [hnone] at hlast
          cases hlast
      | cons component others ih' =>
          cases h with
          | skip hcomponent h =>
              exact .skip hcomponent (ih' h fun entry h => hkept entry (.skip hcomponent h))
          | up h =>
              refine .up (ih h ((take_dropLast start).trans hstart) (fun count hcount => ?_)
                (fun entry h => hkept entry (.up h)))
              rw [take_dropLast]
              exact hgone _ (Nat.succ_lt_succ hcount)
          | enter hname hkind => exact absurd ((hkept _ (.here hname)).trans hkind) (hmissing _ _)
          | follow hname hkind => exact absurd ((hkept _ (.here hname)).trans hkind) (hmissing _ _)

/-- A way stays as it is while all that it passes through does, also when more directories on the
way out of the working directory are gone. -/
theorem kept {more : Nat} (h : Departs files links gone components last)
    (hstart : start.take (start.length - gone) = files.working.lasting)
    (hlasting : files.working.lasting.take (files.working.lasting.length - more) =
      now.working.lasting)
    (hgone : ∀ count < more,
      now.kind? (files.working.lasting.take (files.working.lasting.length - count)) = none)
    (hkept : ∀ entry, Passes files start components entry → now.kind? entry = files.kind? entry)
    (hlast : now.kind? last = some .directory) :
    Departs now links (gone + more) components last := by
  induction h generalizing start with
  | start h =>
      rw [Nat.sub_zero, List.take_length] at hstart
      subst hstart
      rw [Nat.zero_add]
      exact of_arrives h hlasting hgone hkept hlast
  | @skip gone component rest last hcomponent _ ih =>
      have hnext := ih hstart (fun entry h => hkept entry (.skip hcomponent h)) hlast
      rw [Nat.add_right_comm] at hnext ⊢
      exact .skip hcomponent hnext
  | @up gone rest last _ ih =>
      have hnext := ih ((take_dropLast start).trans hstart) (fun entry h => hkept entry (.up h)) hlast
      rw [Nat.add_right_comm]
      exact .up hnext

end Departs

/-! ### What the system comes to -/

/-- Where a way from a removed directory arrives, the system finds the directory. -/
theorem Departs.exists_spot {host : Host} {files : FileSystem} (hfiles : files.Valid host)
    {gone : Nat} {components : List Text} {last : Place}
    (h : Departs files host.linkLimit gone components last) :
    ∃ spot, Walk.fromRemoved host files .always gone components = .ok spot ∧
      ∀ node, files.at? last = some node → files.atSpot host spot = .ok (last, node) := by
  induction h with
  | start h =>
      rw [Walk.fromRemoved]
      exact h.exists_spot hfiles
  | skip hcomponent _ ih =>
      rw [Walk.fromRemoved_of_skipped hcomponent]
      exact ih
  | up _ ih =>
      rw [Walk.fromRemoved_up]
      exact ih

section LastName

variable {host : Host} {files : FileSystem} {rule : LinkRule} {links gone : Nat}
variable {start place : Place} {front trailing : List Text} {name : Name} {spot : Spot}

theorem Path.Naming.not_all_empty (hname : Path.Naming name) (front trailing : List Text) :
    (front ++ name :: trailing).all List.isEmpty = false := by
  simp [hname.1]

section Forward

variable (hfiles : files.Valid host) (hname : Path.Naming name)
  (htrailing : trailing.all List.isEmpty = true)
  (hrule : ∀ target, files.kind? (place ++ [name]) = some (.link target) →
    rule.follows (!trailing.isEmpty) = false)
include hfiles hname htrailing hrule

/-- A way leads to the directory of a last name, so a walk comes to the entry, unless that is a link
to be followed. -/
theorem Arrives.walk_eq (h : Arrives files links start front place) :
    Walk.walk host files rule links start (front ++ name :: trailing) =
      .ok (.entry place name (!trailing.isEmpty)) := by
  induction h with
  | @done links place hplace =>
      obtain ⟨follow, hfollow⟩ := Walk.exists_follow host files rule links
      rw [hfollow, List.nil_append, Walk.steps_last hname htrailing hrule]
  | @skip links place last component rest hcomponent _ ih =>
      obtain ⟨follow, hfollow⟩ := Walk.exists_follow host files rule links
      rw [hfollow, List.cons_append, Walk.steps_of_skipped hcomponent, ← hfollow]
      exact ih hrule
  | @up links place last rest _ ih =>
      obtain ⟨follow, hfollow⟩ := Walk.exists_follow host files rule links
      rw [hfollow, List.cons_append, Walk.steps_up, ← hfollow]
      exact ih hrule
  | @enter links place last inner rest hinner hkind _ ih =>
      obtain ⟨follow, hfollow⟩ := Walk.exists_follow host files rule links
      rw [hfollow, List.cons_append, Walk.steps_enter hinner (hname.not_all_empty rest trailing)
        (hfiles.size hkind) hkind, ← hfollow]
      exact ih hrule
  | @follow links place last inner target rest hinner hkind _ ih =>
      rw [List.append_assoc] at ih
      rw [Walk.walk, List.cons_append, Walk.steps_follow hinner hkind
        (fun hempty => absurd hempty (by simp [hname.not_all_empty])) fun _ => hfiles.size hkind]
      exact ih hrule

theorem Departs.fromRemoved_eq (h : Departs files host.linkLimit gone front place) :
    Walk.fromRemoved host files rule gone (front ++ name :: trailing) =
      .ok (.entry place name (!trailing.isEmpty)) := by
  induction h with
  | start h =>
      rw [Walk.fromRemoved]
      exact h.walk_eq hfiles hname htrailing hrule
  | skip hcomponent _ ih =>
      rw [List.cons_append, Walk.fromRemoved_of_skipped hcomponent]
      exact ih hrule
  | up _ ih =>
      rw [List.cons_append, Walk.fromRemoved_up]
      exact ih hrule

end Forward

/-! A walk that comes to an entry has found its way to the directory. -/

variable (hname : Path.Naming name) (htrailing : trailing.all List.isEmpty = true)
  (hrule : rule.follows (!trailing.isEmpty) = false)
include hname htrailing hrule

theorem Walk.exists_arrives_of_steps {follow : Place → List Text → Except Cause Spot}
    (hfollow : ∀ {start front}, files.kind? start = some .directory →
      follow start (front ++ name :: trailing) = .ok spot → ∃ fewer, links = fewer + 1 ∧
        ∃ place, spot = .entry place name (!trailing.isEmpty) ∧
          Arrives files fewer start front place)
    (hstart : files.kind? start = some .directory)
    (h : steps host files rule follow start (front ++ name :: trailing) = .ok spot) :
    ∃ place, spot = .entry place name (!trailing.isEmpty) ∧
      Arrives files links start front place := by
  induction front generalizing start with
  | nil =>
      rw [List.nil_append, steps_last hname htrailing fun _ _ => hrule] at h
      exact ⟨start, (Except.ok.inj h).symm, .done hstart⟩
  | cons component rest ih =>
      have hrest := hname.not_all_empty rest trailing
      rw [List.cons_append] at h
      rcases Path.skipped_or_up_or_naming component with hskip | rfl | hinner
      · rw [steps_of_skipped hskip] at h
        obtain ⟨place, rfl, harrives⟩ := ih hstart h
        exact ⟨place, rfl, .skip hskip harrives⟩
      · rw [steps_up] at h
        obtain ⟨place, rfl, harrives⟩ := ih (FileSystem.kind?_dropLast hstart) h
        exact ⟨place, rfl, .up harrives⟩
      · rcases (steps_naming_eq_ok_iff hinner).mp h with
          ⟨target, hkind, -, -, h⟩ | ⟨hkind, -, -, h⟩ | ⟨hempty, -, -⟩
        · rw [← List.append_assoc] at h
          obtain ⟨fewer, rfl, place, rfl, harrives⟩ :=
            hfollow (FileSystem.kind?_linkStart hstart target) h
          exact ⟨place, rfl, .follow hinner hkind harrives⟩
        · obtain ⟨place, rfl, harrives⟩ := ih hkind h
          exact ⟨place, rfl, .enter hinner hkind harrives⟩
        · exact absurd hempty (by simp [hrest])

theorem Walk.exists_arrives_of_walk (hstart : files.kind? start = some .directory)
    (h : walk host files rule links start (front ++ name :: trailing) = .ok spot) :
    ∃ place, spot = .entry place name (!trailing.isEmpty) ∧
      Arrives files links start front place := by
  induction links generalizing start front with
  | zero =>
      exact exists_arrives_of_steps hname htrailing hrule (fun _ h => by cases h) hstart h
  | succ links ih =>
      exact exists_arrives_of_steps hname htrailing hrule
        (fun hstart h => ⟨links, rfl, ih hstart h⟩) hstart h

theorem Walk.exists_departs_of_fromRemoved
    (hlasting : files.kind? files.working.lasting = some .directory)
    (h : fromRemoved host files rule gone (front ++ name :: trailing) = .ok spot) :
    ∃ place, spot = .entry place name (!trailing.isEmpty) ∧
      Departs files host.linkLimit gone front place := by
  induction front generalizing gone with
  | nil =>
      cases gone with
      | zero =>
          rw [fromRemoved] at h
          obtain ⟨place, rfl, harrives⟩ := exists_arrives_of_walk hname htrailing hrule hlasting h
          exact ⟨place, rfl, .start harrives⟩
      | succ gone =>
          rw [List.nil_append, fromRemoved_of_naming hname] at h
          cases h
  | cons component rest ih =>
      cases gone with
      | zero =>
          rw [fromRemoved] at h
          obtain ⟨place, rfl, harrives⟩ := exists_arrives_of_walk hname htrailing hrule hlasting h
          exact ⟨place, rfl, .start harrives⟩
      | succ gone =>
          rw [List.cons_append] at h
          rcases Path.skipped_or_up_or_naming component with hskip | rfl | hinner
          · rw [fromRemoved_of_skipped hskip] at h
            obtain ⟨place, rfl, hdeparts⟩ := ih h
            exact ⟨place, rfl, .skip hskip hdeparts⟩
          · rw [fromRemoved_up] at h
            obtain ⟨place, rfl, hdeparts⟩ := ih h
            exact ⟨place, rfl, .up hdeparts⟩
          · rw [fromRemoved_of_naming hinner] at h
            cases h

end LastName

end LineShell
