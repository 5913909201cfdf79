import LineShell.Proofs.FileSystem.Visited
import LineShell.Proofs.Path.SplitLast

/-!
# Ways to a directory

A way to a directory is described here together with the number of links that it leads through, which
is all that its limit depends on.  So a path that is put together from parts of another one, or ends
earlier, finds its directory as the other one does.
-/

namespace LineShell

/-- Components lead from a directory to a directory, through so many links at most. -/
inductive Arrives (files : FileSystem) : Nat → Place → List Text → Place → Prop where
  | done {links : Nat} {place : Place} (hplace : files.kind? place = some .directory) :
      Arrives files links place [] place
  | skip {links : Nat} {place last : Place} {component : Text} {rest : List Text}
      (hcomponent : component = [] ∨ component = Path.self)
      (h : Arrives files links place rest last) : Arrives files links place (component :: rest) last
  | up {links : Nat} {place last : Place} {rest : List Text}
      (h : Arrives files links place.dropLast rest last) :
      Arrives files links place (Path.up :: rest) last
  | enter {links : Nat} {place last : Place} {name : Text} {rest : List Text}
      (hname : Path.Naming name) (hkind : files.kind? (place ++ [name]) = some .directory)
      (h : Arrives files links (place ++ [name]) rest last) :
      Arrives files links place (name :: rest) last
  | follow {links : Nat} {place last : Place} {name target : Text} {rest : List Text}
      (hname : Path.Naming name) (hkind : files.kind? (place ++ [name]) = some (.link target))
      (h : Arrives files links (Walk.linkStart place target) (Text.splitOn '/' target ++ rest)
        last) :
      Arrives files (links + 1) place (name :: rest) last

namespace Arrives

variable {files : FileSystem} {links more : Nat} {start middle last : Place}
variable {components rest : List Text}

theorem kind?_last (h : Arrives files links start components last) :
    files.kind? last = some .directory := by
  induction h with
  | done hplace => exact hplace
  | skip _ _ ih => exact ih
  | up _ ih => exact ih
  | enter _ _ _ ih => exact ih
  | follow _ _ _ ih => exact ih

theorem of_all_empty (hstart : files.kind? start = some .directory)
    (hcomponents : components.all List.isEmpty = true) :
    Arrives files links start components start := by
  induction components with
  | nil => exact .done hstart
  | cons component others ih =>
      rw [List.all_cons, Bool.and_eq_true] at hcomponents
      exact .skip (.inl (List.isEmpty_iff.mp hcomponents.1)) (ih hcomponents.2)

theorem leads (h : Arrives files links start components last) :
    Leads files start components last := by
  induction h with
  | done => exact .done
  | skip hcomponent _ ih => exact .skip hcomponent ih
  | up _ ih => exact .up ih
  | enter hname hkind _ ih => exact .enter hname (by simp [hkind]) ih
  | follow hname hkind _ ih => exact .follow hname hkind ih

/-- Where more links may be followed, a way leads where it led. -/
theorem mono (h : Arrives files links start components last) (hmore : links ≤ more) :
    Arrives files more start components last := by
  induction h generalizing more with
  | done hplace => exact .done hplace
  | skip hcomponent _ ih => exact .skip hcomponent (ih hmore)
  | up _ ih => exact .up (ih hmore)
  | enter hname hkind _ ih => exact .enter hname hkind (ih hmore)
  | follow hname hkind _ ih =>
      obtain ⟨fewer, rfl⟩ : ∃ fewer, more = fewer + 1 := ⟨more - 1, by omega⟩
      exact .follow hname hkind (ih (Nat.le_of_succ_le_succ hmore))

theorem append (h : Arrives files links start components middle)
    (hrest : Arrives files more middle rest last) :
    Arrives files (links + more) start (components ++ rest) last := by
  induction h with
  | done => exact hrest.mono (Nat.le_add_left _ _)
  | skip hcomponent _ ih => exact .skip hcomponent (ih hrest)
  | up _ ih => exact .up (ih hrest)
  | enter hname hkind _ ih => exact .enter hname hkind (ih hrest)
  | follow hname hkind _ ih =>
      rw [List.append_assoc] at ih
      rw [Nat.add_right_comm]
      exact .follow hname hkind (ih hrest)

/-- A way can be stopped at any of its components, and its links are those of the two parts. -/
theorem exists_middle (h : Arrives files links start (components ++ rest) last)
    (hstart : files.kind? start = some .directory) :
    ∃ middle fewer others, fewer + others = links ∧ Arrives files fewer start components middle ∧
      Arrives files others middle rest last := by
  generalize hall : components ++ rest = whole at h
  induction h generalizing components with
  | @done links place hplace =>
      obtain ⟨rfl, rfl⟩ := List.append_eq_nil_iff.mp hall
      exact ⟨place, 0, links, Nat.zero_add links, .done hplace, .done hplace⟩
  | @skip links place last component others hcomponent h ih =>
      cases components with
      | nil =>
          obtain rfl : rest = component :: others := hall
          exact ⟨place, 0, links, Nat.zero_add links, .done hstart, .skip hcomponent h⟩
      | cons first more =>
          obtain ⟨rfl, hmore⟩ := List.cons.inj hall
          obtain ⟨middle, fewer, others, hlinks, hleft, hright⟩ := ih hstart hmore
          exact ⟨middle, fewer, others, hlinks, .skip hcomponent hleft, hright⟩
  | @up links place last others h ih =>
      cases components with
      | nil =>
          obtain rfl : rest = Path.up :: others := hall
          exact ⟨place, 0, links, Nat.zero_add links, .done hstart, .up h⟩
      | cons first more =>
          obtain ⟨rfl, hmore⟩ := List.cons.inj hall
          obtain ⟨middle, fewer, others, hlinks, hleft, hright⟩ :=
            ih (FileSystem.kind?_dropLast hstart) hmore
          exact ⟨middle, fewer, others, hlinks, .up hleft, hright⟩
  | @enter links place last name others hname hkind h ih =>
      cases components with
      | nil =>
          obtain rfl : rest = name :: others := hall
          exact ⟨place, 0, links, Nat.zero_add links, .done hstart, .enter hname hkind h⟩
      | cons first more =>
          obtain ⟨rfl, hmore⟩ := List.cons.inj hall
          obtain ⟨middle, fewer, others, hlinks, hleft, hright⟩ := ih hkind hmore
          exact ⟨middle, fewer, others, hlinks, .enter hname hkind hleft, hright⟩
  | @follow links place last name target others hname hkind h ih =>
      cases components with
      | nil =>
          obtain rfl : rest = name :: others := hall
          exact ⟨place, 0, links + 1, Nat.zero_add _, .done hstart, .follow hname hkind h⟩
      | cons first more =>
          obtain ⟨rfl, rfl⟩ := List.cons.inj hall
          obtain ⟨middle, fewer, others, hlinks, hleft, hright⟩ :=
            ih (FileSystem.kind?_linkStart hstart target) (List.append_assoc _ _ _)
          exact ⟨middle, fewer + 1, others, by omega, .follow hname hkind hleft, hright⟩

end Arrives

/-! ### What the system comes to -/

namespace Walk

variable {host : Host} {files : FileSystem} {links : Nat} {place found : Place}
variable {components : List Text} {spot : Spot} {entries : Entries}

theorem arrives_of_steps {follow : Place → List Text → Except Cause Spot}
    (hfollow : ∀ {start components spot}, files.kind? start = some .directory →
      follow start components = .ok spot →
      files.atSpot host spot = .ok (found, .directory entries) →
      ∃ fewer, links = fewer + 1 ∧ Arrives files fewer start components found)
    (hplace : files.kind? place = some .directory)
    (h : steps host files .always follow place components = .ok spot)
    (hspot : files.atSpot host spot = .ok (found, .directory entries)) :
    Arrives files links place components found := by
  induction components generalizing place with
  | nil =>
      simp only [steps, Except.ok.injEq] at h
      obtain ⟨rfl, -⟩ := FileSystem.at?_of_atSpot (h ▸ Spot.noConfusion) hspot
      exact h ▸ .done hplace
  | cons component rest ih =>
      rcases Path.skipped_or_up_or_naming component with hskip | rfl | hname
      · rw [steps_of_skipped hskip] at h
        exact .skip hskip (ih hplace h)
      · rw [steps_up] at h
        exact .up (ih (FileSystem.kind?_dropLast hplace) h)
      · rcases (steps_naming_eq_ok_iff hname).mp h with
          ⟨target, hkind, -, -, h⟩ | ⟨hkind, -, -, h⟩ | ⟨hrest, -, rfl⟩
        · obtain ⟨fewer, rfl, harrives⟩ :=
            hfollow (FileSystem.kind?_linkStart hplace target) h hspot
          exact .follow hname hkind harrives
        · exact .enter hname hkind (ih hkind h)
        · obtain ⟨rfl, hat, -⟩ := FileSystem.at?_of_atSpot_entry hspot
          have hkind := FileSystem.kind?_of_at? hat
          exact .enter hname hkind (.of_all_empty hkind hrest)

/-- A walk that comes to a directory arrives there. -/
theorem arrives_of_walk (hplace : files.kind? place = some .directory)
    (h : walk host files .always links place components = .ok spot)
    (hspot : files.atSpot host spot = .ok (found, .directory entries)) :
    Arrives files links place components found := by
  induction links generalizing place components spot with
  | zero => exact arrives_of_steps (fun _ h _ => by cases h) hplace h hspot
  | succ links ih =>
      exact arrives_of_steps (fun hstart h hspot => ⟨links, rfl, ih hstart h hspot⟩) hplace h hspot

end Walk

/-- A walk takes its steps alike for every number of links. -/
theorem Walk.exists_follow (host : Host) (files : FileSystem) (rule : LinkRule) (links : Nat) :
    ∃ follow, ∀ place components,
      walk host files rule links place components =
        steps host files rule follow place components := by
  cases links with
  | zero => exact ⟨_, fun _ _ => rfl⟩
  | succ links => exact ⟨_, fun _ _ => rfl⟩

/-- Where a way arrives, the system finds the directory. -/
theorem Arrives.exists_spot {host : Host} {files : FileSystem} (hfiles : files.Valid host)
    {links : Nat} {place last : Place} {components : List Text}
    (h : Arrives files links place components last) :
    ∃ spot, Walk.walk host files .always links place components = .ok spot ∧
      ∀ node, files.at? last = some node → files.atSpot host spot = .ok (last, node) := by
  induction h with
  | @done links place hplace =>
      obtain ⟨follow, hfollow⟩ := Walk.exists_follow host files .always links
      refine ⟨.itself place, by rw [hfollow, Walk.steps], fun node hnode => ?_⟩
      rw [FileSystem.atSpot, hnode]
  | @skip links place last component rest hcomponent _ ih =>
      obtain ⟨follow, hfollow⟩ := Walk.exists_follow host files .always links
      rw [hfollow, Walk.steps_of_skipped hcomponent, ← hfollow]
      exact ih
  | @up links place last rest _ ih =>
      obtain ⟨follow, hfollow⟩ := Walk.exists_follow host files .always links
      rw [hfollow, Walk.steps_up, ← hfollow]
      exact ih
  | @enter links place last name rest hname hkind h ih =>
      obtain ⟨follow, hfollow⟩ := Walk.exists_follow host files .always links
      cases hrest : rest.all List.isEmpty with
      | true =>
          obtain rfl := h.leads.unique (.of_all_empty hrest)
          refine ⟨_, by rw [hfollow, Walk.steps_last hname hrest (by simp [hkind])],
            fun node hnode => ?_⟩
          have hdirectory : node.isDirectory = true := by
            rw [Node.isDirectory_iff]
            exact Option.some.inj ((FileSystem.kind?_of_at? hnode).symm.trans hkind)
          simp [FileSystem.atSpot, Nat.not_lt.mpr (hfiles.size hkind), hnode, hdirectory]
      | false =>
          rw [hfollow, Walk.steps_enter hname hrest (hfiles.size hkind) hkind, ← hfollow]
          exact ih
  | @follow links place last name target rest hname hkind h ih =>
      rw [Walk.walk, Walk.steps_follow hname hkind (fun _ => rfl) fun _ => hfiles.size hkind]
      exact ih

/-! ### Paths that can be handed to the system -/

/-- A path that the system takes: not too long, and without null characters. -/
structure Path.Fits (host : Host) (path : Text) : Prop where
  size : path.utf8Size ≤ host.pathLimit
  hasNull : path.hasNull = false

theorem Path.Fits.of_beginning {host : Host} {path beginning : Text} (h : Path.Fits host path)
    (hbegins : beginning <+: path) : Path.Fits host beginning := by
  obtain ⟨rest, rfl⟩ := hbegins
  refine ⟨?_, Path.hasNull_eq_false_iff.mpr fun hnull => ?_⟩
  · have hsize := h.size
    rw [Text.utf8Size_append] at hsize
    omega
  · exact Path.hasNull_eq_false_iff.mp h.hasNull (List.mem_append_left rest hnull)

/-- What the system walks fits. -/
theorem Path.Fits.of_locate {host : Host} {files : FileSystem} {rule : LinkRule} {path : Text}
    {spot : Spot} (hnull : path.hasNull = false) (h : files.locate host rule path = .ok spot) :
    Path.Fits host path := by
  unfold FileSystem.locate at h
  split at h
  · cases h
  split at h
  · cases h
  · rename_i hsize
    exact ⟨Nat.le_of_not_lt hsize, hnull⟩

/-- Every name makes a path longer. -/
theorem Path.utf8Size_lt_join (path : Text) {name : Name} (hname : Path.IsName name) :
    path.utf8Size < (Path.join path name).utf8Size := by
  obtain ⟨first, rest, rfl⟩ := List.exists_cons_of_ne_nil hname.naming.1
  have hfirst := first.utf8Size_pos
  unfold Path.join
  rw [Path.isAbsolute_of_not_slash hname.not_slash, if_neg (by simp)]
  split <;> simp only [Text.utf8Size_append, Text.utf8Size] <;> omega

theorem Path.join_ne_nil (path : Text) {name : Name} (hname : Path.IsName name) :
    Path.join path name ≠ [] := by
  intro hnil
  have hsize := Path.utf8Size_lt_join path hname
  rw [hnil] at hsize
  exact absurd hsize (Nat.not_lt_zero _)

namespace FileSystem

variable {host : Host} {files : FileSystem} {path : Text} {place : Place}

/-- An absolute path leads to a directory if the system takes the path and a way arrives. -/
theorem target?_directory_iff (hfiles : files.Valid host) (hpath : Path.isAbsolute path = true) :
    (∃ entries, files.target? host path = some (place, .directory entries)) ↔
      Path.Fits host path ∧ Arrives files host.linkLimit [] (Text.splitOn '/' path) place := by
  have hne : ¬ path.isEmpty = true := by
    obtain ⟨rest, rfl⟩ := Path.isAbsolute_iff.mp hpath
    exact Bool.false_ne_true
  constructor
  · rintro ⟨entries, hfound⟩
    obtain ⟨hnull, hlookup⟩ := target?_eq_some_iff.mp hfound
    obtain ⟨spot, hlocate, hspot⟩ := exists_spot_of_lookup hlookup
    rw [locate, if_neg hne] at hlocate
    split at hlocate
    · cases hlocate
    rename_i hsize
    exact ⟨⟨Nat.le_of_not_lt hsize, hnull⟩,
      Walk.arrives_of_walk (kind?_nil files) hlocate hspot⟩
  · rintro ⟨hfits, harrives⟩
    obtain ⟨spot, hlocate, hspot⟩ := harrives.exists_spot hfiles
    obtain ⟨entries, hentries⟩ := exists_entries_of_kind? harrives.kind?_last
    refine ⟨entries, target?_eq_some_iff.mpr ⟨hfits.hasNull, ?_⟩⟩
    rw [lookup, locate, if_neg hne, if_neg (Nat.not_lt.mpr hfits.size), if_pos hpath, hlocate]
    exact hspot _ hentries

theorem isDirectory_iff :
    files.isDirectory host path = true ↔
      ∃ place entries, files.target? host path = some (place, .directory entries) := by
  unfold isDirectory
  split
  · rename_i place entries hfound
    simp [hfound]
  · rename_i hother
    simp only [Bool.false_eq_true, false_iff, not_exists]
    exact fun place entries hfound => hother place entries hfound

theorem fits_of_isDirectory (h : files.isDirectory host path = true) :
    Path.Fits host path := by
  obtain ⟨place, entries, htarget⟩ := isDirectory_iff.mp h
  obtain ⟨hnull, hlookup⟩ := target?_eq_some_iff.mp htarget
  obtain ⟨spot, hlocate, -⟩ := exists_spot_of_lookup hlookup
  exact .of_locate hnull hlocate

end FileSystem

end LineShell
