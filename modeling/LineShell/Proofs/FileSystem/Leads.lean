import LineShell.Proofs.FileSystem.Walks

/-!
# The place that a path denotes

A path denotes a place whether or not anything is there: names are gone into, also where they are
missing, and every link on the way is followed, the last one included.  A walk of the system that
comes to an end, and not at a link, ends at the place that its path denotes; the relation depends on
the links only, so it outlives all changes to files and directories.
-/

namespace LineShell

/-- Components denote a place, as seen from another one. -/
inductive Leads (files : FileSystem) : Place → List Text → Place → Prop where
  | done {place : Place} : Leads files place [] place
  | skip {place last : Place} {component : Text} {rest : List Text}
      (hcomponent : component = [] ∨ component = Path.self) (h : Leads files place rest last) :
      Leads files place (component :: rest) last
  | up {place last : Place} {rest : List Text} (h : Leads files place.dropLast rest last) :
      Leads files place (Path.up :: rest) last
  | enter {place last : Place} {name : Text} {rest : List Text} (hname : Path.Naming name)
      (hlink : ∀ target, files.kind? (place ++ [name]) ≠ some (.link target))
      (h : Leads files (place ++ [name]) rest last) :
      Leads files place (name :: rest) last
  | follow {place last : Place} {name target : Text} {rest : List Text}
      (hname : Path.Naming name) (hkind : files.kind? (place ++ [name]) = some (.link target))
      (h : Leads files (Walk.linkStart place target) (Text.splitOn '/' target ++ rest) last) :
      Leads files place (name :: rest) last

/-- A path denotes a place. -/
def FileSystem.Denotes (files : FileSystem) (path : Text) (place : Place) : Prop :=
  Leads files (files.startOf path) (Text.splitOn '/' path) place

namespace Leads

variable {files : FileSystem} {start middle last : Place} {components rest : List Text}

theorem of_all_empty (hcomponents : components.all List.isEmpty = true) :
    Leads files start components start := by
  induction components with
  | nil => exact .done
  | cons component others ih =>
      rw [List.all_cons, Bool.and_eq_true] at hcomponents
      have hempty : component = [] := List.isEmpty_iff.mp hcomponents.1
      exact .skip (.inl hempty) (ih hcomponents.2)

theorem append (h : Leads files start components middle) (hrest : Leads files middle rest last) :
    Leads files start (components ++ rest) last := by
  induction h with
  | done => exact hrest
  | skip hcomponent _ ih => exact .skip hcomponent (ih hrest)
  | up _ ih => exact .up (ih hrest)
  | enter hname hlink _ ih => exact .enter hname hlink (ih hrest)
  | follow hname hkind _ ih =>
      rw [List.append_assoc] at ih
      exact .follow hname hkind (ih hrest)

/-- Two paths that begin alike lead through one place. -/
theorem exists_middle (h : Leads files start (components ++ rest) last) :
    ∃ middle, Leads files start components middle ∧ Leads files middle rest last := by
  generalize hall : components ++ rest = all at h
  induction h generalizing components with
  | done =>
      obtain ⟨rfl, rfl⟩ := List.append_eq_nil_iff.mp hall
      exact ⟨_, .done, .done⟩
  | @skip place last component others hcomponent h ih =>
      cases components with
      | nil =>
          obtain rfl : rest = component :: others := hall
          exact ⟨place, .done, .skip hcomponent h⟩
      | cons first more =>
          obtain ⟨rfl, hmore⟩ := List.cons.inj hall
          obtain ⟨middle, hleft, hright⟩ := ih hmore
          exact ⟨middle, .skip hcomponent hleft, hright⟩
  | @up place last others h ih =>
      cases components with
      | nil =>
          obtain rfl : rest = Path.up :: others := hall
          exact ⟨place, .done, .up h⟩
      | cons first more =>
          obtain ⟨rfl, hmore⟩ := List.cons.inj hall
          obtain ⟨middle, hleft, hright⟩ := ih hmore
          exact ⟨middle, .up hleft, hright⟩
  | @enter place last name others hname hlink h ih =>
      cases components with
      | nil =>
          obtain rfl : rest = name :: others := hall
          exact ⟨place, .done, .enter hname hlink h⟩
      | cons first more =>
          obtain ⟨rfl, hmore⟩ := List.cons.inj hall
          obtain ⟨middle, hleft, hright⟩ := ih hmore
          exact ⟨middle, .enter hname hlink hleft, hright⟩
  | @follow place last name target others hname hkind h ih =>
      cases components with
      | nil =>
          obtain rfl : rest = name :: others := hall
          exact ⟨place, .done, .follow hname hkind h⟩
      | cons first more =>
          obtain ⟨rfl, rfl⟩ := List.cons.inj hall
          obtain ⟨middle, hleft, hright⟩ := ih (List.append_assoc _ _ _)
          exact ⟨middle, .follow hname hkind hleft, hright⟩

theorem eq_of_nil (h : Leads files start [] last) : last = start := by
  cases h
  rfl

/-- A path denotes one place at most. -/
theorem unique {other : Place} (h : Leads files start components last)
    (hother : Leads files start components other) : last = other := by
  induction h with
  | done => exact hother.eq_of_nil.symm
  | skip hcomponent h ih =>
      cases hother with
      | skip _ h' => exact ih h'
      | up => simp [Path.up, Path.self] at hcomponent
      | enter hname => exact absurd hcomponent hname.not_skipped
      | follow hname => exact absurd hcomponent hname.not_skipped
  | up h ih =>
      cases hother with
      | skip hcomponent _ => simp [Path.up, Path.self] at hcomponent
      | up h' => exact ih h'
      | enter hname => exact absurd rfl hname.2.2
      | follow hname => exact absurd rfl hname.2.2
  | enter hname hlink h ih =>
      cases hother with
      | skip hcomponent => exact absurd hcomponent hname.not_skipped
      | up => exact absurd rfl hname.2.2
      | enter _ _ h' => exact ih h'
      | follow _ hkind _ => exact absurd hkind (hlink _)
  | follow hname hkind h ih =>
      cases hother with
      | skip hcomponent => exact absurd hcomponent hname.not_skipped
      | up => exact absurd rfl hname.2.2
      | enter _ hlink _ => exact absurd hkind (hlink _)
      | follow _ hkind' h' =>
          obtain rfl := Kind.link.inj (Option.some.inj (hkind.symm.trans hkind'))
          exact ih h'

/-- What a path denotes depends on the links only. -/
theorem congr {after : FileSystem} (h : Leads files start components last)
    (hlinks : ∀ place target, after.kind? place = some (.link target) ↔
      files.kind? place = some (.link target)) : Leads after start components last := by
  induction h with
  | done => exact .done
  | skip hcomponent _ ih => exact .skip hcomponent ih
  | up _ ih => exact .up ih
  | enter hname hlink _ ih =>
      exact .enter hname (fun target hkind => hlink target ((hlinks _ _).mp hkind)) ih
  | follow hname hkind _ ih => exact .follow hname ((hlinks _ _).mpr hkind) ih

/-- Where there are no links, a path denotes its normal form. -/
theorem eq_foldl_push (h : Leads files start components last)
    (hlinks : ∀ place target, files.kind? place ≠ some (.link target))
    (hstart : ∀ name ∈ start, Path.Naming name) :
    last = (components.foldl (Path.push true) start.reverse).reverse := by
  induction h with
  | done => simp
  | skip hcomponent _ ih => rw [List.foldl_cons, Path.push_of_skipped hcomponent, ih hstart]
  | @up place last rest _ ih =>
      have hreverse : ∀ name ∈ place.reverse, Path.Naming name := fun name hname =>
        hstart name (List.mem_reverse.mp hname)
      rw [List.foldl_cons, Path.push_up hreverse, List.tail_reverse]
      exact ih fun name hname => hstart name (List.dropLast_subset _ hname)
  | @enter place last name rest hname _ _ ih =>
      rw [List.foldl_cons, Path.push_of_naming hname]
      have hplace : ∀ other ∈ place ++ [name], Path.Naming other := by
        intro other hother
        cases List.mem_append.mp hother with
        | inl hmem => exact hstart other hmem
        | inr hmem => exact List.mem_singleton.mp hmem ▸ hname
      simpa using ih hplace
  | follow _ hkind _ _ => exact absurd hkind (hlinks _ _)

end Leads

/-- A walk that does not end at a link ends at the place that its components denote. -/
theorem Walks.leads {files : FileSystem} {rule : LinkRule} {start : Place} {components : List Text}
    {spot : Spot} (h : Walks files rule start components spot)
    (hspot : ∀ target, files.kind? spot.place ≠ some (.link target)) :
    Leads files start components spot.place := by
  induction h with
  | done => exact .done
  | skip hcomponent _ ih => exact .skip hcomponent (ih hspot)
  | up _ ih => exact .up (ih hspot)
  | enter hname hkind _ ih => exact .enter hname (by simp [hkind]) (ih hspot)
  | follow hname hkind _ _ ih => exact .follow hname hkind (ih hspot)
  | last hname _ hrest _ => exact .enter hname hspot (.of_all_empty hrest)

namespace FileSystem

variable {host : Host} {files : FileSystem} {rule : LinkRule}

/-- What is looked up stands at the place that its path denotes, unless it is a link. -/
theorem denotes_of_lookup {path : Text} {place : Place} {node : Node}
    (hworking : Path.isAbsolute path = true ∨
      files.kind? files.working.lasting = some .directory)
    (h : files.lookup host rule path = .ok (place, node))
    (hplaced : Path.isAbsolute path = true ∨ node ≠ .directory [])
    (hlink : ∀ target, node ≠ .link target) : files.Denotes path place := by
  obtain ⟨spot, hwalks, rfl, hat⟩ := walks_of_lookup hworking h hplaced
  apply hwalks.leads
  intro target hkind
  rw [← at?_link_iff, hat] at hkind
  exact hlink target (Option.some.inj hkind)

end FileSystem

end LineShell
