import LineShell.Proofs.FileSystem.Steps

/-!
# Where walks lead

A walk is described here without its limits: `Walks` says which components lead where under a rule
for the last link, one constructor for each thing that a component can do.  Every walk that comes to
an end is one of these, so what holds of all of them is shown by induction over the components and
links that were met.
-/

namespace LineShell

/-- Where a path starts from: the root, or the working directory. -/
def FileSystem.startOf (files : FileSystem) (path : Text) : Place :=
  if Path.isAbsolute path then [] else files.working.place

theorem FileSystem.startOf_congr {before after : FileSystem}
    (hplace : after.working.place = before.working.place) (path : Text) :
    after.startOf path = before.startOf path := by
  rw [startOf, startOf, hplace]

/-- The place where a walk ended. -/
def Spot.place (spot : Spot) : Place :=
  match spot with
  | .itself place => place
  | .removed => []
  | .entry place name _ => place ++ [name]

/-- Components lead from a directory to a spot. -/
inductive Walks (files : FileSystem) (rule : LinkRule) : Place → List Text → Spot → Prop where
  | done {place : Place} (hplace : files.kind? place = some .directory) :
      Walks files rule place [] (.itself place)
  | skip {place : Place} {component : Text} {rest : List Text} {spot : Spot}
      (hcomponent : component = [] ∨ component = Path.self) (h : Walks files rule place rest spot) :
      Walks files rule place (component :: rest) spot
  | up {place : Place} {rest : List Text} {spot : Spot}
      (h : Walks files rule place.dropLast rest spot) :
      Walks files rule place (Path.up :: rest) spot
  | enter {place : Place} {name : Text} {rest : List Text} {spot : Spot} (hname : Path.Naming name)
      (hkind : files.kind? (place ++ [name]) = some .directory)
      (h : Walks files rule (place ++ [name]) rest spot) :
      Walks files rule place (name :: rest) spot
  | follow {place : Place} {name target : Text} {rest : List Text} {spot : Spot}
      (hname : Path.Naming name) (hkind : files.kind? (place ++ [name]) = some (.link target))
      (hrule : rest.all List.isEmpty = true → rule.follows (!rest.isEmpty) = true)
      (h : Walks files rule (Walk.linkStart place target) (Text.splitOn '/' target ++ rest) spot) :
      Walks files rule place (name :: rest) spot
  | last {place : Place} {name : Text} {rest : List Text} (hname : Path.Naming name)
      (hplace : files.kind? place = some .directory) (hrest : rest.all List.isEmpty = true)
      (hrule : ∀ target, files.kind? (place ++ [name]) = some (.link target) →
        rule.follows (!rest.isEmpty) = false) :
      Walks files rule place (name :: rest) (.entry place name (!rest.isEmpty))

theorem Walks.ne_removed {files : FileSystem} {rule : LinkRule} {start : Place}
    {components : List Text} {spot : Spot} (h : Walks files rule start components spot) :
    spot ≠ .removed := by
  induction h with
  | done => simp
  | skip _ _ ih => exact ih
  | up _ ih => exact ih
  | enter _ _ _ ih => exact ih
  | follow _ _ _ _ ih => exact ih
  | last => simp

/-- A walk that ends at a name ends in a directory, and the name is a component of the path or of a
link that was met. -/
theorem Walks.of_components (holds : Text → Prop) {files : FileSystem} {rule : LinkRule}
    {start place : Place} {components : List Text} {name : Name} {slashed : Bool}
    (h : Walks files rule start components (.entry place name slashed))
    (hlinks : ∀ other target, files.kind? other = some (.link target) →
      ∀ component ∈ Text.splitOn '/' target, holds component)
    (hcomponents : ∀ component ∈ components, holds component) :
    files.kind? place = some .directory ∧ Path.Naming name ∧ holds name := by
  generalize hspot : Spot.entry place name slashed = spot at h
  induction h with
  | done => cases hspot
  | skip _ _ ih =>
      exact ih (fun other hother => hcomponents other (List.mem_cons_of_mem _ hother)) hspot
  | up _ ih =>
      exact ih (fun other hother => hcomponents other (List.mem_cons_of_mem _ hother)) hspot
  | enter _ _ _ ih =>
      exact ih (fun other hother => hcomponents other (List.mem_cons_of_mem _ hother)) hspot
  | follow _ hkind _ _ ih =>
      apply ih _ hspot
      intro component hmem
      cases List.mem_append.mp hmem with
      | inl htarget => exact hlinks _ _ hkind component htarget
      | inr hrest => exact hcomponents component (List.mem_cons_of_mem _ hrest)
  | last hname hplace _ _ =>
      cases hspot
      exact ⟨hplace, hname, hcomponents _ List.mem_cons_self⟩

namespace FileSystem

variable {host : Host} {files : FileSystem} {rule : LinkRule}

theorem kind?_dropLast {place : Place} (h : files.kind? place = some .directory) :
    files.kind? place.dropLast = some .directory := by
  rcases List.eq_nil_or_concat place with rfl | ⟨init, last, rfl⟩
  · rfl
  · rw [List.concat_eq_append] at h ⊢
    rw [List.dropLast_concat]
    exact kind?_eq_directory_of_below h (by simp)

theorem kind?_linkStart {place : Place} (h : files.kind? place = some .directory) (target : Text) :
    files.kind? (Walk.linkStart place target) = some .directory := by
  unfold Walk.linkStart
  split
  · rfl
  · exact h

end FileSystem

namespace Walk

variable {host : Host} {files : FileSystem} {rule : LinkRule}

theorem walks_of_steps {follow : Place → List Text → Except Cause Spot}
    (hfollow : ∀ {start components spot}, files.kind? start = some .directory →
      follow start components = .ok spot → Walks files rule start components spot)
    {components : List Text} {place : Place} {spot : Spot}
    (hplace : files.kind? place = some .directory)
    (h : steps host files rule follow place components = .ok spot) :
    Walks files rule place components spot := by
  induction components generalizing place with
  | nil =>
      simp only [steps, Except.ok.injEq] at h
      exact h ▸ .done hplace
  | cons component rest ih =>
      rcases Path.skipped_or_up_or_naming component with hskip | rfl | hname
      · rw [steps_of_skipped hskip] at h
        exact .skip hskip (ih hplace h)
      · rw [steps_up] at h
        exact .up (ih (FileSystem.kind?_dropLast hplace) h)
      · rcases (steps_naming_eq_ok_iff hname).mp h with
          ⟨target, hkind, hrule, -, h⟩ | ⟨hkind, -, -, h⟩ | ⟨hrest, hrule, rfl⟩
        · exact .follow hname hkind hrule (hfollow (FileSystem.kind?_linkStart hplace target) h)
        · exact .enter hname hkind (ih hkind h)
        · exact .last hname hplace hrest hrule

/-- What a walk comes to is where its components lead. -/
theorem walks_of_walk {links : Nat} {components : List Text} {place : Place} {spot : Spot}
    (hplace : files.kind? place = some .directory)
    (h : walk host files rule links place components = .ok spot) :
    Walks files rule place components spot := by
  induction links generalizing place components spot with
  | zero => exact walks_of_steps (fun _ h => by cases h) hplace h
  | succ links ih => exact walks_of_steps (fun hstart h => ih hstart h) hplace h

/-- From a removed directory the components lead nowhere but up. -/
theorem walks_of_fromRemoved {components : List Text} {place : Place} {gone : Nat} {spot : Spot}
    (hlasting : files.kind? files.working.lasting = some .directory)
    (hplace : place.take (place.length - gone) = files.working.lasting)
    (h : fromRemoved host files rule gone components = .ok spot) :
    spot = .removed ∨ Walks files rule place components spot := by
  induction components generalizing place gone with
  | nil =>
      cases gone with
      | zero =>
          rw [Nat.sub_zero, List.take_length] at hplace
          rw [fromRemoved] at h
          exact .inr (walks_of_walk (hplace ▸ hlasting) (hplace ▸ h))
      | succ gone =>
          simp only [fromRemoved, Except.ok.injEq] at h
          exact .inl h.symm
  | cons component rest ih =>
      cases gone with
      | zero =>
          rw [Nat.sub_zero, List.take_length] at hplace
          rw [fromRemoved] at h
          exact .inr (walks_of_walk (hplace ▸ hlasting) (hplace ▸ h))
      | succ gone =>
          rcases Path.skipped_or_up_or_naming component with hskip | rfl | hname
          · rw [fromRemoved_of_skipped hskip] at h
            exact (ih hplace h).imp_right (.skip hskip)
          · rw [fromRemoved_up] at h
            refine (ih ?_ h).imp_right .up
            rw [← hplace, List.length_dropLast, List.dropLast_eq_take, List.take_take]
            congr 1
            omega
          · rw [fromRemoved_of_naming hname] at h
            cases h

end Walk

namespace FileSystem

variable {host : Host} {files : FileSystem} {rule : LinkRule}

/-- A path that can be walked leads where its components lead, or to a removed directory. -/
theorem walks_of_locate {path : Text} {spot : Spot}
    (hworking : Path.isAbsolute path = true ∨
      files.kind? files.working.lasting = some .directory)
    (h : files.locate host rule path = .ok spot) :
    (Path.isAbsolute path = false ∧ spot = .removed) ∨
      Walks files rule (files.startOf path) (Text.splitOn '/' path) spot := by
  unfold locate at h
  split at h
  · cases h
  split at h
  · cases h
  unfold startOf
  cases habsolute : Path.isAbsolute path with
  | true =>
      simp only [habsolute, if_true] at h ⊢
      exact .inr (Walk.walks_of_walk (kind?_nil files) h)
  | false =>
      simp only [habsolute, Bool.false_eq_true, if_false, false_or] at h hworking ⊢
      exact (Walk.walks_of_fromRemoved hworking rfl h).imp_left fun hspot => ⟨trivial, hspot⟩

theorem exists_spot_of_lookup {path : Text} {found : Place × Node}
    (h : files.lookup host rule path = .ok found) :
    ∃ spot, files.locate host rule path = .ok spot ∧ files.atSpot host spot = .ok found := by
  unfold lookup at h
  cases hlocate : files.locate host rule path with
  | error cause => simp [hlocate, bind, Except.bind] at h
  | ok spot => exact ⟨spot, rfl, by simpa [hlocate, bind, Except.bind] using h⟩

theorem target?_eq_some_iff {path : Text} {found : Place × Node} :
    files.target? host path = some found ↔
      path.hasNull = false ∧ files.lookup host .always path = .ok found := by
  unfold target?
  cases path.hasNull with
  | true => simp
  | false => cases files.lookup host .always path <;> simp [Except.toOption]

theorem entry?_eq_some_iff {path : Text} {found : Place × Node} :
    files.entry? host path = some found ↔
      path.hasNull = false ∧ files.lookup host .whenSlashed path = .ok found := by
  unfold entry?
  cases path.hasNull with
  | true => simp
  | false => cases files.lookup host .whenSlashed path <;> simp [Except.toOption]

theorem at?_of_atSpot_entry {place found : Place} {name : Name} {slashed : Bool} {node : Node}
    (h : files.atSpot host (.entry place name slashed) = .ok (found, node)) :
    found = place ++ [name] ∧ files.at? found = some node ∧
      (slashed = true → node.isDirectory = true) := by
  simp only [atSpot] at h
  split at h
  · cases h
  split at h
  · cases h
  split at h
  · cases h
  · rename_i hnode hslashed
    cases h
    exact ⟨rfl, hnode, fun hs => by simpa [hs] using hslashed⟩

theorem at?_of_atSpot {spot : Spot} (hspot : spot ≠ .removed) {place : Place} {node : Node}
    (h : files.atSpot host spot = .ok (place, node)) :
    spot.place = place ∧ files.at? place = some node := by
  cases spot with
  | removed => exact absurd rfl hspot
  | itself there =>
      simp only [atSpot] at h
      split at h <;> simp_all [Spot.place]
  | entry there name slashed =>
      have hfound := at?_of_atSpot_entry h
      exact ⟨hfound.1.symm, hfound.2.1⟩

/-- What is looked up is at the place where the walk ended, except for a removed directory, which is
empty. -/
theorem walks_of_lookup {path : Text} {place : Place} {node : Node}
    (hworking : Path.isAbsolute path = true ∨
      files.kind? files.working.lasting = some .directory)
    (h : files.lookup host rule path = .ok (place, node))
    (hplaced : Path.isAbsolute path = true ∨ node ≠ .directory []) :
    ∃ spot, Walks files rule (files.startOf path) (Text.splitOn '/' path) spot ∧
      spot.place = place ∧ files.at? place = some node := by
  obtain ⟨spot, hlocate, hspot⟩ := exists_spot_of_lookup h
  cases walks_of_locate hworking hlocate with
  | inl hremoved =>
      obtain ⟨hrelative, rfl⟩ := hremoved
      have hempty : node = .directory [] := by
        simp only [atSpot, Except.ok.injEq, Prod.mk.injEq] at hspot
        exact hspot.2.symm
      have habsolute := hplaced.resolve_right fun hnode => hnode hempty
      simp [hrelative] at habsolute
  | inr hwalks =>
      obtain ⟨hplace, hat⟩ := at?_of_atSpot hwalks.ne_removed hspot
      exact ⟨spot, hwalks, hplace, hat⟩

theorem at?_of_lookup {path : Text} {place : Place} {node : Node}
    (hworking : Path.isAbsolute path = true ∨
      files.kind? files.working.lasting = some .directory)
    (h : files.lookup host rule path = .ok (place, node))
    (hplaced : Path.isAbsolute path = true ∨ node ≠ .directory []) :
    files.at? place = some node := by
  obtain ⟨spot, -, -, hat⟩ := walks_of_lookup hworking h hplaced
  exact hat

/-- What is made absolute is in normal form. -/
theorem normal_of_absolute? {path normal : Text} (h : files.absolute? path = some normal) :
    Path.Normal normal := by
  unfold absolute? at h
  split at h <;> rename_i hpath
  · cases h
    exact Path.normal_normalize hpath
  · obtain ⟨working, hworking, rfl⟩ := Option.map_eq_some_iff.mp h
    unfold workingPath? at hworking
    split at hworking
    · cases hworking
    · cases hworking
      exact Path.normal_normalize (Path.isAbsolute_join (Path.isAbsolute_iff.mpr ⟨_, rfl⟩))

end FileSystem

end LineShell
