import LineShell.Proofs.FileSystem.Leads
import LineShell.Proofs.FileSystem.Rules
import LineShell.Proofs.FileSystem.Valid
import LineShell.Proofs.Path.SplitLast

/-!
# The entry that a path names

A path whose last component is a name does not only denote a place, it also names an entry: the one
of that name in the directory that the components before it lead to.  The two places differ exactly
where the entry is a link.  Making, relinking and removing work on the entry that is named, reading
and writing on what is denoted.
-/

namespace LineShell

/-- A path names the entry at a place; it may be spelled with slashes after the name. -/
inductive FileSystem.Names (files : FileSystem) (path : Text) : Place → Bool → Prop where
  | intro {front trailing : List Text} {name : Name} {directory : Place}
      (hsplit : Text.splitOn '/' path = front ++ name :: trailing) (hname : Path.Naming name)
      (htrailing : trailing.all List.isEmpty = true)
      (hfront : Leads files (files.startOf path) front directory) :
      Names files path (directory ++ [name]) (!trailing.isEmpty)

/-! ### Walks taken apart at a name -/

namespace Walks

variable {files : FileSystem} {rule : LinkRule} {start : Place} {spot : Spot}

/-- A walk past a name starts from a directory. -/
theorem kind?_of_naming {name : Name} {trailing : List Text}
    (h : Walks files rule start (name :: trailing) spot) (hname : Path.Naming name) :
    files.kind? start = some .directory := by
  cases h with
  | skip hcomponent => exact absurd hcomponent hname.not_skipped
  | up => exact absurd rfl hname.2.2
  | enter _ hkind _ => exact FileSystem.kind?_eq_directory_of_below hkind (by simp)
  | follow _ hkind _ _ => exact FileSystem.kind?_eq_directory_of_below hkind (by simp)
  | last _ hplace _ _ => exact hplace

/-- The components before a name lead to a directory, and the walk goes on from there. -/
theorem exists_middle {front trailing : List Text} {name : Name}
    (h : Walks files rule start (front ++ name :: trailing) spot) (hname : Path.Naming name) :
    ∃ middle, Walks files .always start front (.itself middle) ∧
      Walks files rule middle (name :: trailing) spot := by
  generalize hall : front ++ name :: trailing = all at h
  induction h generalizing front with
  | done => simp at hall
  | @skip place component rest spot hcomponent h ih =>
      cases front with
      | nil =>
          obtain ⟨rfl, -⟩ := List.cons.inj hall
          exact absurd hcomponent hname.not_skipped
      | cons first more =>
          obtain ⟨rfl, hmore⟩ := List.cons.inj hall
          obtain ⟨middle, hleft, hright⟩ := ih hmore
          exact ⟨middle, .skip hcomponent hleft, hright⟩
  | @up place rest spot h ih =>
      cases front with
      | nil =>
          obtain ⟨rfl, -⟩ := List.cons.inj hall
          exact absurd rfl hname.2.2
      | cons first more =>
          obtain ⟨rfl, hmore⟩ := List.cons.inj hall
          obtain ⟨middle, hleft, hright⟩ := ih hmore
          exact ⟨middle, .up hleft, hright⟩
  | @enter place other rest spot hother hkind h ih =>
      cases front with
      | nil =>
          obtain ⟨rfl, rfl⟩ := List.cons.inj hall
          have hall := Walks.enter hother hkind h
          exact ⟨place, .done (hall.kind?_of_naming hname), hall⟩
      | cons first more =>
          obtain ⟨rfl, hmore⟩ := List.cons.inj hall
          obtain ⟨middle, hleft, hright⟩ := ih hmore
          exact ⟨middle, .enter hother hkind hleft, hright⟩
  | @follow place other target rest spot hother hkind hrule h ih =>
      cases front with
      | nil =>
          obtain ⟨rfl, rfl⟩ := List.cons.inj hall
          have hall := Walks.follow hother hkind hrule h
          exact ⟨place, .done (hall.kind?_of_naming hname), hall⟩
      | cons first more =>
          obtain ⟨rfl, rfl⟩ := List.cons.inj hall
          obtain ⟨middle, hleft, hright⟩ := ih (List.append_assoc _ _ _)
          exact ⟨middle, .follow hother hkind (fun _ => rfl) hleft, hright⟩
  | @last place other rest hother hplace hrest hrule =>
      cases front with
      | nil =>
          obtain ⟨rfl, rfl⟩ := List.cons.inj hall
          exact ⟨place, .done hplace, .last hother hplace hrest hrule⟩
      | cons first more =>
          obtain ⟨rfl, rfl⟩ := List.cons.inj hall
          have hempty : name = [] := by simp at hrest; exact hrest.2.1
          exact absurd hempty hname.1

/-- One name is gone into if it is a directory, followed if it is a link, or come to. -/
theorem of_single {name : Name} (h : Walks files rule start [name] spot)
    (hname : Path.Naming name) :
    (spot = .itself (start ++ [name]) ∧ files.kind? (start ++ [name]) = some .directory) ∨
      spot = .entry start name false ∨
      ∃ target, files.kind? (start ++ [name]) = some (.link target) ∧
        rule.follows false = true := by
  cases h with
  | skip hcomponent => exact absurd hcomponent hname.not_skipped
  | up => exact absurd rfl hname.2.2
  | enter _ hkind hdone =>
      cases hdone
      exact .inl ⟨rfl, hkind⟩
  | follow _ hkind hrule _ => exact .inr (.inr ⟨_, hkind, hrule rfl⟩)
  | last => exact .inr (.inl rfl)

/-- A walk to a directory itself leads there. -/
theorem leads_itself {components : List Text} {place : Place}
    (h : Walks files rule start components (.itself place)) :
    Leads files start components place := by
  apply h.leads
  intro target hlink
  exact absurd (h.kind?_itself.symm.trans hlink) (by simp)

/-- Where the last link is not followed, the components end in the name that the walk comes to. -/
theorem exists_front_of_not_followed {components : List Text} {place : Place} {name : Name}
    {slashed : Bool} (h : Walks files rule start components (.entry place name slashed))
    (hplain : rule.follows false = false) (hslashed : rule.follows slashed = false) :
    ∃ front trailing, components = front ++ name :: trailing ∧ Path.Naming name ∧
      trailing.all List.isEmpty = true ∧ slashed = !trailing.isEmpty ∧
      Leads files start front place := by
  generalize hspot : Spot.entry place name slashed = spot at h
  induction h with
  | done => cases hspot
  | skip hcomponent _ ih =>
      obtain ⟨front, trailing, rfl, hname, htrailing, hend, hfront⟩ := ih hspot
      exact ⟨_ :: front, trailing, rfl, hname, htrailing, hend, .skip hcomponent hfront⟩
  | up _ ih =>
      obtain ⟨front, trailing, rfl, hname, htrailing, hend, hfront⟩ := ih hspot
      exact ⟨_ :: front, trailing, rfl, hname, htrailing, hend, .up hfront⟩
  | enter hother hkind _ ih =>
      obtain ⟨front, trailing, rfl, hname, htrailing, hend, hfront⟩ := ih hspot
      exact ⟨_ :: front, trailing, rfl, hname, htrailing, hend,
        .enter hother (by simp [hkind]) hfront⟩
  | @follow start other target rest spot hother hkind hrule _ ih =>
      obtain ⟨front, trailing, hsplit, hname, htrailing, hend, hfront⟩ := ih hspot
      rcases List.append_eq_append_iff.mp hsplit with ⟨more, rfl, hrest⟩ | ⟨more, hmore, htail⟩
      · exact ⟨other :: more, trailing, congrArg _ hrest, hname, htrailing, hend,
          .follow hother hkind hfront⟩
      cases more with
      | nil =>
          rw [List.append_nil] at hmore
          rw [← hmore] at hfront
          exact ⟨[other], trailing, congrArg _ htail.symm, hname, htrailing, hend,
            .follow hother hkind (by simpa using hfront)⟩
      | cons first more =>
          -- The name comes from the link's own target: then nothing but slashes was left to walk,
          -- and the rule would not have followed the link.
          obtain ⟨-, rfl⟩ : name = first ∧ trailing = more ++ rest := List.cons.inj htail
          have hempty := htrailing
          rw [List.all_append, Bool.and_eq_true] at hempty
          have hfollows := hrule hempty.2
          cases rest with
          | nil => simp [hplain] at hfollows
          | cons next others =>
              have hbehind : (more ++ next :: others).isEmpty = false := by cases more <;> rfl
              rw [hend, hbehind] at hslashed
              exact absurd (hslashed.symm.trans hfollows) (by simp)
  | last hname _ hrest _ =>
      cases hspot
      exact ⟨[], _, rfl, hname, hrest, rfl, .done⟩

end Walks

namespace FileSystem

variable {files after : FileSystem} {path : Text} {place other : Place} {slashed : Bool}

namespace Names

theorem unique {slashed' : Bool} (h : files.Names path place slashed)
    (hother : files.Names path other slashed') : place = other ∧ slashed = slashed' := by
  obtain ⟨hsplit, hname, htrailing, hfront⟩ := h
  obtain ⟨hsplit', hname', htrailing', hfront'⟩ := hother
  obtain ⟨rfl, rfl, rfl⟩ :=
    Text.append_cons_inj (hsplit.symm.trans hsplit') hname.1 hname'.1 htrailing htrailing'
  exact ⟨by rw [hfront.unique hfront'], rfl⟩

/-- The entry that is named is what the path denotes, unless it is a link. -/
theorem denotes (h : files.Names path place slashed)
    (hlink : ∀ target, files.kind? place ≠ some (.link target)) : files.Denotes path place := by
  obtain ⟨hsplit, hname, htrailing, hfront⟩ := h
  rw [Denotes, hsplit]
  exact hfront.append (.enter hname hlink (.of_all_empty htrailing))

/-- What a path names depends on the links only. -/
theorem congr (h : files.Names path place slashed)
    (hlinks : ∀ place target, after.kind? place = some (.link target) ↔
      files.kind? place = some (.link target))
    (hstart : after.startOf path = files.startOf path) : after.Names path place slashed := by
  obtain ⟨hsplit, hname, htrailing, hfront⟩ := h
  exact .intro hsplit hname htrailing (hstart ▸ hfront.congr hlinks)

end Names

theorem Denotes.unique (h : files.Denotes path place) (hother : files.Denotes path other) :
    place = other :=
  Leads.unique h hother

theorem Denotes.congr (h : files.Denotes path place)
    (hlinks : ∀ place target, after.kind? place = some (.link target) ↔
      files.kind? place = some (.link target))
    (hstart : after.startOf path = files.startOf path) : after.Denotes path place := by
  rw [Denotes, hstart]
  exact Leads.congr h hlinks

/-! ### Names joined to a path -/

theorem startOf_join (files : FileSystem) (path : Text) {name : Text} (hname : '/' ∉ name) :
    files.startOf (Path.join path name) = files.startOf path := by
  rw [startOf, startOf, Path.isAbsolute_join_of_not_slash hname]

/-- The components before the one that is joined to a path lead to what the path denotes. -/
theorem Denotes.exists_splitOn_join (h : files.Denotes path place) {component : Text}
    (hcomponent : '/' ∉ component) :
    ∃ front, (Text.splitOn '/' path = front ∨ Text.splitOn '/' path = front ++ [[]]) ∧
      Text.splitOn '/' (Path.join path component) = front ++ [component] ∧
      Leads files (files.startOf path) front place := by
  obtain ⟨front, hfront, hsplit⟩ := Path.splitOn_join path hcomponent
  refine ⟨front, hfront, hsplit, ?_⟩
  rcases hfront with hpath | hpath
  · exact hpath ▸ h
  · rw [Denotes, hpath] at h
    obtain ⟨middle, hleft, hright⟩ := h.exists_middle
    obtain rfl := hright.unique (.of_all_empty (by simp))
    exact hleft

/-- A component joined to a path leads on from what the path denotes. -/
theorem Denotes.leads_join (h : files.Denotes path place) {component : Text}
    (hcomponent : '/' ∉ component) (hjoin : files.Denotes (Path.join path component) other) :
    Leads files place [component] other := by
  obtain ⟨front, -, hsplit, hlead⟩ := h.exists_splitOn_join hcomponent
  rw [Denotes, hsplit, startOf_join files path hcomponent] at hjoin
  obtain ⟨middle, hfront, hlast⟩ := hjoin.exists_middle
  rwa [hlead.unique hfront]

/-- What precedes the last component of a path leads to where that component goes on from. -/
theorem Denotes.exists_splitLast (h : files.Denotes path place) (hhead : (Path.splitLast path).1 ≠ [])
    (hlast : (Path.splitLast path).2 ≠ []) :
    Path.isAbsolute (Path.splitLast path).1 = Path.isAbsolute path ∧
      ∃ middle, files.Denotes (Path.splitLast path).1 middle ∧
        Leads files middle [(Path.splitLast path).2] place := by
  cases hall : (Text.splitOn '/' path).all List.isEmpty with
  | true => exact absurd (Path.splitLast_of_all_empty hall) hlast
  | false =>
      obtain ⟨before, name, trailing, hsplit, hname, htrailing⟩ := Text.exists_append_cons hall
      obtain ⟨rfl, hbefore⟩ := Path.splitLast_of_splitOn hsplit hname htrailing
      obtain ⟨habsolute, empties, hempties, hpieces⟩ := hbefore.resolve_left fun h => hhead h.2
      rw [Denotes, hsplit] at h
      obtain ⟨middle, hfront, hlast⟩ := h.exists_middle
      rw [← List.singleton_append] at hlast
      obtain ⟨last, hlast, hrest⟩ := hlast.exists_middle
      obtain rfl := hrest.unique (.of_all_empty htrailing)
      refine ⟨habsolute, middle, ?_, hlast⟩
      have hstart : files.startOf (Path.splitLast path).1 = files.startOf path := by
        rw [startOf, startOf, habsolute]
      rw [Denotes, hstart]
      rcases hpieces with hpieces | hpieces
      · rw [hpieces]
        exact hfront.append (.of_all_empty hempties)
      · rw [hpieces] at hfront
        obtain ⟨other, hfront, hrest⟩ := hfront.exists_middle
        rwa [hrest.unique (.of_all_empty hempties)]

/-- A name joined to a path names the entry in the directory that the path denotes. -/
theorem names_join {name : Name} (h : files.Denotes path place) (hname : Path.IsName name) :
    files.Names (Path.join path name) (place ++ [name]) false := by
  obtain ⟨front, -, hsplit, hlead⟩ := h.exists_splitOn_join hname.not_slash
  rw [← startOf_join files path hname.not_slash] at hlead
  exact .intro hsplit hname.naming rfl hlead

/-- What a name joined to a path denotes, if the entry is no link. -/
theorem denotes_join {name : Name} (h : files.Denotes path place) (hname : Path.IsName name)
    (hlink : ∀ target, files.kind? (place ++ [name]) ≠ some (.link target)) :
    files.Denotes (Path.join path name) (place ++ [name]) :=
  (names_join h hname).denotes hlink

/-- A path without slashes behind its name ends in the name. -/
theorem Names.exists_front (h : files.Names path place false) :
    ∃ front name directory, Text.splitOn '/' path = front ++ [name] ∧ Path.Naming name ∧
      Leads files (files.startOf path) front directory ∧ place = directory ++ [name] := by
  generalize hslashed : false = slashed at h
  obtain ⟨hsplit, hname, -, hfront⟩ := h
  rename_i front trailing name directory
  cases trailing with
  | nil => exact ⟨front, name, directory, hsplit, hname, hfront, rfl⟩
  | cons first more => simp at hslashed

end FileSystem

/-! ### What the system finds -/

/-- A walk that does not leave the removed directories meets no name. -/
theorem Walk.not_naming_of_removed {host : Host} {files : FileSystem} {rule : LinkRule}
    {components : List Text} {gone : Nat}
    (hlasting : files.kind? files.working.lasting = some .directory)
    (h : fromRemoved host files rule gone components = .ok .removed) :
    0 < gone ∧ ∀ component ∈ components, ¬ Path.Naming component := by
  induction components generalizing gone with
  | nil =>
      cases gone with
      | zero =>
          rw [fromRemoved] at h
          exact absurd rfl (walks_of_walk hlasting h).ne_removed
      | succ gone => simp
  | cons component rest ih =>
      cases gone with
      | zero =>
          rw [fromRemoved] at h
          exact absurd rfl (walks_of_walk hlasting h).ne_removed
      | succ gone =>
          rcases Path.skipped_or_up_or_naming component with hskip | rfl | hname
          · rw [fromRemoved_of_skipped hskip] at h
            refine ⟨by simp, List.forall_mem_cons.mpr ⟨fun hname => ?_, (ih h).2⟩⟩
            exact hname.not_skipped hskip
          · rw [fromRemoved_up] at h
            exact ⟨by simp, List.forall_mem_cons.mpr ⟨fun hname => hname.2.2 rfl, (ih h).2⟩⟩
          · rw [fromRemoved_of_naming hname] at h
            cases h

namespace FileSystem

variable {host : Host} {files : FileSystem} {rule : LinkRule} {path : Text}

theorem not_naming_of_removed (hfiles : files.Valid host)
    (h : files.locate host rule path = .ok .removed) :
    Path.isAbsolute path = false ∧ files.working.removed = true ∧
      ∀ component ∈ Text.splitOn '/' path, ¬ Path.Naming component := by
  unfold locate at h
  split at h
  · cases h
  split at h
  · cases h
  split at h
  · exact absurd rfl (Walk.walks_of_walk (kind?_nil files) h).ne_removed
  · rename_i habsolute
    have hwalk := Walk.not_naming_of_removed hfiles.lasting h
    exact ⟨by simpa using habsolute, by simpa [WorkingDirectory.removed] using hwalk.1, hwalk.2⟩

/-- A path cannot lead to a removed directory: it is absolute or names something, or the working
directory was not removed. -/
def Placed (files : FileSystem) (path : Text) : Prop :=
  Path.isAbsolute path = true ∨ files.working.removed = false ∨
    ∃ name ∈ Text.splitOn '/' path, Path.Naming name

theorem Names.placed {place : Place} {slashed : Bool} (h : files.Names path place slashed) :
    files.Placed path := by
  obtain ⟨hsplit, hname, -, -⟩ := h
  exact .inr (.inr ⟨_, by simp [hsplit], hname⟩)

theorem walks_of_placed (hfiles : files.Valid host) (hplaced : files.Placed path) {spot : Spot}
    (h : files.locate host rule path = .ok spot) :
    Walks files rule (files.startOf path) (Text.splitOn '/' path) spot := by
  cases walks_of_locate (.inr hfiles.lasting) h with
  | inr hwalks => exact hwalks
  | inl hspot =>
      rw [hspot.2] at h
      obtain ⟨hrelative, hremoved, hnaming⟩ := not_naming_of_removed hfiles h
      rcases hplaced with habsolute | hkept | ⟨name, hmem, hname⟩
      · simp [hrelative] at habsolute
      · simp [hremoved] at hkept
      · exact absurd hname (hnaming name hmem)

/-- What is looked up stands at the place that its path denotes, unless it is a link. -/
theorem denotes_of_placed (hfiles : files.Valid host) (hplaced : files.Placed path)
    {place : Place} {node : Node} (h : files.lookup host rule path = .ok (place, node))
    (hlink : ∀ target, node ≠ .link target) :
    files.at? place = some node ∧ files.Denotes path place := by
  obtain ⟨spot, hlocate, hspot⟩ := exists_spot_of_lookup h
  have hwalks := walks_of_placed hfiles hplaced hlocate
  obtain ⟨rfl, hat⟩ := at?_of_atSpot hwalks.ne_removed hspot
  refine ⟨hat, hwalks.leads fun target hkind => ?_⟩
  rw [← at?_link_iff, hat] at hkind
  exact hlink target (Option.some.inj hkind)

/-- The system finds a link as such, if it finds anything through it. -/
theorem isLink_of_kind? (hfiles : files.Valid host) {front : List Text} {name : Name}
    {directory : Place} {target : Text} {found : Place × Node}
    (htarget : files.target? host path = some found)
    (hsplit : Text.splitOn '/' path = front ++ [name]) (hname : Path.Naming name)
    (hfront : Leads files (files.startOf path) front directory)
    (hkind : files.kind? (directory ++ [name]) = some (.link target)) :
    files.isLink host path = true := by
  have hplaced : files.Placed path := .inr (.inr ⟨name, by simp [hsplit], hname⟩)
  obtain ⟨hnull, hlookup⟩ := target?_eq_some_iff.mp htarget
  obtain ⟨spot, hlocate, -⟩ := exists_spot_of_lookup hlookup
  obtain ⟨spot, hlocate⟩ := exists_locate_of_fewer .whenSlashed (fun _ _ => rfl) hlocate
  have hwalks := walks_of_placed hfiles hplaced hlocate
  rw [hsplit] at hwalks
  obtain ⟨middle, hleft, hlast⟩ := hwalks.exists_middle hname
  obtain rfl := hfront.unique hleft.leads_itself
  have hentry : spot = .entry directory name false := by
    rcases hlast.of_single hname with ⟨-, hdirectory⟩ | hentry | ⟨-, -, hrule⟩
    · exact absurd (hkind.symm.trans hdirectory) (by simp)
    · exact hentry
    · exact absurd hrule (by decide)
  have hfits : ¬ host.nameLimit < name.utf8Size := Nat.not_lt.mpr (hfiles.size hkind)
  have hatSpot : files.atSpot host spot = .ok (directory ++ [name], .link target) := by
    simp [hentry, atSpot, hfits, at?_link_iff.mpr hkind]
  have hfound : files.entry? host path = some (directory ++ [name], .link target) := by
    rw [entry?_eq_some_iff, lookup, hlocate]
    exact ⟨hnull, hatSpot⟩
  rw [isLink, hfound]

/-- A directory that is no link is found under its own name. -/
theorem target?_of_isDirectory (hfiles : files.Valid host) {front : List Text} {name : Name}
    (hdirectory : files.isDirectory host path = true) (hlink : files.isLink host path = false)
    (hsplit : Text.splitOn '/' path = front ++ [name]) (hname : Path.Naming name) :
    ∃ place entries, Walks files .always (files.startOf path) front (.itself place) ∧
      files.target? host path = some (place ++ [name], .directory entries) := by
  have hplaced : files.Placed path := .inr (.inr ⟨name, by simp [hsplit], hname⟩)
  obtain ⟨found, entries, htarget⟩ : ∃ found entries,
      files.target? host path = some (found, .directory entries) := by
    unfold isDirectory at hdirectory
    split at hdirectory
    · exact ⟨_, _, ‹_›⟩
    · cases hdirectory
  obtain ⟨-, hlookup⟩ := target?_eq_some_iff.mp htarget
  obtain ⟨spot, hlocate, hspot⟩ := exists_spot_of_lookup hlookup
  have hwalks := walks_of_placed hfiles hplaced hlocate
  obtain ⟨hfound, -⟩ := at?_of_atSpot hwalks.ne_removed hspot
  rw [hsplit] at hwalks
  obtain ⟨place, hfront, hlast⟩ := hwalks.exists_middle hname
  refine ⟨place, entries, hfront, ?_⟩
  rcases hlast.of_single hname with ⟨rfl, -⟩ | rfl | ⟨target, hkind, -⟩
  · rw [htarget, ← hfound]
    rfl
  · rw [htarget, ← hfound]
    rfl
  · have hcontrary :=
      isLink_of_kind? hfiles htarget hsplit hname hfront.leads_itself hkind
    simp [hlink] at hcontrary

/-- A directory that is no link is found where the path names it. -/
theorem Names.target?_eq (hfiles : files.Valid host) {place : Place}
    (hnames : files.Names path place false) (hdirectory : files.isDirectory host path = true)
    (hlink : files.isLink host path = false) :
    ∃ entries, files.target? host path = some (place, .directory entries) := by
  obtain ⟨front, name, directory, hsplit, hname, hfront, rfl⟩ := hnames.exists_front
  obtain ⟨found, entries, hwalks, htarget⟩ :=
    target?_of_isDirectory hfiles hdirectory hlink hsplit hname
  obtain rfl := hfront.unique hwalks.leads_itself
  exact ⟨entries, htarget⟩

/-- What a path names is a directory if the system finds one there and no link. -/
theorem Names.kind?_eq_directory (hfiles : files.Valid host) {place : Place}
    (hnames : files.Names path place false)
    (htest : (files.isDirectory host path && !files.isLink host path) = true) :
    files.kind? place = some .directory := by
  rw [Bool.and_eq_true, Bool.not_eq_true'] at htest
  obtain ⟨entries, htarget⟩ := hnames.target?_eq hfiles htest.1 htest.2
  have hlookup := (target?_eq_some_iff.mp htarget).2
  exact kind?_of_at? (denotes_of_placed hfiles hnames.placed hlookup (by simp)).1

/-- Where the last link is not followed, the entry that a walk comes to is the one that the path
names. -/
theorem names_of_walks {place : Place} {name : Name} {slashed : Bool}
    (h : Walks files rule (files.startOf path) (Text.splitOn '/' path) (.entry place name slashed))
    (hplain : rule.follows false = false) (hslashed : rule.follows slashed = false) :
    files.Names path (place ++ [name]) slashed := by
  obtain ⟨front, trailing, hsplit, hname, htrailing, rfl, hfront⟩ :=
    h.exists_front_of_not_followed hplain hslashed
  exact .intro hsplit hname htrailing hfront

/-- What is found and is no directory is the entry that the path names. -/
theorem names_of_lookup (hfiles : files.Valid host) {place : Place} {node : Node}
    (h : files.lookup host .whenSlashed path = .ok (place, node))
    (hnode : node.kind ≠ .directory) : files.Names path place false := by
  obtain ⟨spot, hlocate, hspot⟩ := exists_spot_of_lookup h
  have hwalks : spot = .removed ∨ Walks files .whenSlashed _ _ spot :=
    (walks_of_locate (.inr hfiles.lasting) hlocate).imp_left fun hremoved => hremoved.2
  cases spot with
  | removed =>
      simp only [atSpot, Except.ok.injEq, Prod.mk.injEq] at hspot
      exact absurd (by rw [← hspot.2]; rfl) hnode
  | itself there =>
      have hwalks := hwalks.resolve_left (by simp)
      obtain ⟨rfl, hat⟩ := at?_of_atSpot (by simp) hspot
      exact absurd (Option.some.inj ((kind?_of_at? hat).symm.trans hwalks.kind?_itself)) hnode
  | entry there name slashed =>
      have hwalks := hwalks.resolve_left (by simp)
      obtain ⟨rfl, -, hdirectory⟩ := at?_of_atSpot_entry hspot
      have hslashed : slashed = false := by
        rw [Bool.eq_false_iff]
        exact fun hs => hnode (Node.isDirectory_iff.mp (hdirectory hs))
      subst hslashed
      exact names_of_walks hwalks rfl rfl

/-- The place where the system finds the entry of a path.  It is what the path denotes unless the
entry is a link, and the path then names it. -/
structure Stands (files : FileSystem) (path : Text) (place : Place) : Prop where
  names : ∀ {other}, files.Names path other false → other = place
  denotes : ∀ {other}, files.Denotes path other → other = place ∨
    ∃ target, files.Names path place false ∧ files.kind? place = some (.link target)

theorem stands_of_lookup (hfiles : files.Valid host) (hplaced : files.Placed path) {place : Place}
    {node : Node} (h : files.lookup host .whenSlashed path = .ok (place, node)) :
    files.at? place = some node ∧ files.Stands path place := by
  obtain ⟨spot, hlocate, hspot⟩ := exists_spot_of_lookup h
  have hwalks := walks_of_placed hfiles hplaced hlocate
  obtain ⟨rfl, hat⟩ := at?_of_atSpot hwalks.ne_removed hspot
  refine ⟨hat, ?_, ?_⟩
  · intro other hnames
    obtain ⟨front, name, directory, hsplit, hname, hfront, rfl⟩ := hnames.exists_front
    rw [hsplit] at hwalks
    obtain ⟨middle, hleft, hright⟩ := hwalks.exists_middle hname
    obtain rfl := hfront.unique hleft.leads_itself
    rcases hright.of_single hname with ⟨rfl, -⟩ | rfl | ⟨-, -, hrule⟩
    · rfl
    · rfl
    · exact absurd hrule (by decide)
  · intro other hdenotes
    by_cases hlink : ∃ target, files.kind? spot.place = some (.link target)
    · obtain ⟨target, hkind⟩ := hlink
      refine .inr ⟨target, names_of_lookup hfiles h ?_, hkind⟩
      rw [kind?_of_at? hat, Option.some.injEq] at hkind
      simp [hkind]
    · left
      apply hdenotes.unique
      apply hwalks.leads
      intro target hkind
      exact hlink ⟨target, hkind⟩

end FileSystem

/-- The entry that a call works on is the one that its path names. -/
theorem Disk.Aims.names {host : Host} {files : FileSystem} {path : Text} {place : Place}
    {name : Name} {slashed : Bool} (haims : Aims host files .never path place name slashed)
    (hfiles : files.Valid host) : files.Names path (place ++ [name]) slashed :=
  FileSystem.names_of_walks (haims.walks hfiles) rfl rfl

end LineShell
