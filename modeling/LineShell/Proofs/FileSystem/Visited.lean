import LineShell.Proofs.FileSystem.Names
import LineShell.Proofs.FileSystem.Plain

/-!
# What walks go through

Where there are no links, the places that a walk goes into can be read off its components.  What
precedes the last component of a path goes into all of them but the last one, so these are also the
places where directories are made for the path.
-/

namespace LineShell

/-- The places that components go into by name, from a place on. -/
def Walk.visited : Place → List Text → List Place
  | _, [] => []
  | place, component :: rest =>
      if component.isEmpty || component == Path.self then visited place rest
      else if component == Path.up then visited place.dropLast rest
      else (place ++ [component]) :: visited (place ++ [component]) rest

namespace Walk

variable {files : FileSystem} {place : Place} {component : Text} {name : Name} {rest : List Text}

theorem visited_of_skipped (hcomponent : component = [] ∨ component = Path.self) :
    visited place (component :: rest) = visited place rest := by
  have hskip : (component.isEmpty || component == Path.self) = true := by simpa using hcomponent
  rw [visited, if_pos hskip]

theorem visited_up : visited place (Path.up :: rest) = visited place.dropLast rest := by
  rw [visited, if_neg (by decide), if_pos (by decide)]

theorem visited_of_naming (hname : Path.Naming name) :
    visited place (name :: rest) = (place ++ [name]) :: visited (place ++ [name]) rest := by
  rw [visited, if_neg hname.not_isEmpty_or_self, if_neg hname.not_beq_up]

theorem visited_of_empty {components : List Text}
    (hcomponents : components.all List.isEmpty = true) : visited place components = [] := by
  induction components with
  | nil => rfl
  | cons component rest ih =>
      rw [List.all_cons, Bool.and_eq_true] at hcomponents
      rw [visited_of_skipped (.inl (List.isEmpty_iff.mp hcomponents.1)), ih hcomponents.2]

theorem visited_append_empty (start : Place) (components : List Text) {empties : List Text}
    (hempties : empties.all List.isEmpty = true) :
    visited start (components ++ empties) = visited start components := by
  induction components generalizing start with
  | nil => exact visited_of_empty hempties
  | cons component rest ih => simp only [List.cons_append, visited, ih]

section Leads

variable {start middle : Place} {components : List Text} (hlinks : files.LinkFree)
  (h : Leads files start components middle)
include hlinks h

theorem visited_append (rest : List Text) :
    visited start (components ++ rest) = visited start components ++ visited middle rest := by
  induction h with
  | done => rfl
  | skip hcomponent _ ih =>
      rw [List.cons_append, visited_of_skipped hcomponent, visited_of_skipped hcomponent, ih]
  | up _ ih => rw [List.cons_append, visited_up, visited_up, ih]
  | enter hname _ _ ih =>
      rw [List.cons_append, visited_of_naming hname, visited_of_naming hname, ih, List.cons_append]
  | follow _ hkind => exact absurd hkind (hlinks _ _)

/-- Without going up, a walk only goes down to where it ends. -/
theorem prefix_of_mem_visited (hup : Path.up ∉ components) :
    start <+: middle ∧ ∀ inner ∈ visited start components, inner <+: middle := by
  induction h with
  | done => exact ⟨List.prefix_rfl, by simp [visited]⟩
  | skip hcomponent _ ih =>
      rw [visited_of_skipped hcomponent]
      exact ih fun hmem => hup (List.mem_cons_of_mem _ hmem)
  | up => exact absurd List.mem_cons_self hup
  | enter hname _ _ ih =>
      obtain ⟨hstart, hrest⟩ := ih fun hmem => hup (List.mem_cons_of_mem _ hmem)
      rw [visited_of_naming hname]
      refine ⟨(List.prefix_append _ _).trans hstart, fun inner hinner => ?_⟩
      rcases List.mem_cons.mp hinner with rfl | hinner
      · exact hstart
      · exact hrest inner hinner
  | follow _ hkind => exact absurd hkind (hlinks _ _)

/-- What lies on the way down to where components lead is above their start, or gone into. -/
theorem mem_visited_of_prefix {inner : Place} (hinner : inner <+: middle) :
    inner <+: start ∨ inner ∈ visited start components := by
  induction h with
  | done => exact .inl hinner
  | skip hcomponent _ ih =>
      rw [visited_of_skipped hcomponent]
      exact ih hinner
  | up _ ih =>
      rw [visited_up]
      exact (ih hinner).imp_left fun hbegins => hbegins.trans (List.dropLast_prefix _)
  | enter hname _ _ ih =>
      rw [visited_of_naming hname, List.mem_cons]
      rcases ih hinner with hbegins | hvisited
      · rcases List.prefix_concat_iff.mp hbegins with heq | hbegins
        · exact .inr (.inl heq)
        · exact .inl hbegins
      · exact .inr (.inr hvisited)
  | follow _ hkind => exact absurd hkind (hlinks _ _)

omit h in
/-- One component goes into the place that it leads to, if it goes into any. -/
theorem mem_visited_single {component : Text} {inner : Place}
    (h : Leads files start [component] middle) (hinner : inner ∈ visited start [component]) :
    component ≠ Path.self ∧ inner = middle := by
  cases h with
  | skip hcomponent =>
      rw [visited_of_skipped hcomponent] at hinner
      cases hinner
  | up =>
      rw [visited_up] at hinner
      cases hinner
  | enter hname _ hrest =>
      rw [visited_of_naming hname] at hinner
      exact ⟨hname.2.1, (List.mem_singleton.mp hinner).trans hrest.eq_of_nil.symm⟩
  | follow _ hkind => exact absurd hkind (hlinks _ _)

end Leads

end Walk

namespace Walks

variable {host : Host} {files after : FileSystem} {rule : LinkRule}
variable {start place : Place} {components rest : List Text} {name : Name} {slashed : Bool}
variable {spot : Spot}

/-- A walk along nothing but empty components stays where it is. -/
theorem eq_itself_of_empty (h : Walks files rule start components spot)
    (hcomponents : components.all List.isEmpty = true) : spot = .itself start := by
  induction h with
  | done => rfl
  | skip _ _ ih =>
      rw [List.all_cons, Bool.and_eq_true] at hcomponents
      exact ih hcomponents.2
  | up => simp [Path.up] at hcomponents
  | enter hname => simp [hname.1] at hcomponents
  | follow hname => simp [hname.1] at hcomponents
  | last hname => simp [hname.1] at hcomponents

/-- Two walks along the same components end at the same place. -/
theorem place_unique {other : Spot} (h : Walks files rule start components spot)
    (hother : Walks files rule start components other) : spot.place = other.place := by
  induction h with
  | done => cases hother; rfl
  | skip hcomponent _ ih =>
      cases hother with
      | skip _ h' => exact ih h'
      | up => simp [Path.up, Path.self] at hcomponent
      | enter hname => exact absurd hcomponent hname.not_skipped
      | follow hname => exact absurd hcomponent hname.not_skipped
      | last hname => exact absurd hcomponent hname.not_skipped
  | up _ ih =>
      cases hother with
      | skip hcomponent => simp [Path.up, Path.self] at hcomponent
      | up h' => exact ih h'
      | enter hname => exact absurd rfl hname.2.2
      | follow hname => exact absurd rfl hname.2.2
      | last hname => exact absurd rfl hname.2.2
  | enter hname hkind h ih =>
      cases hother with
      | skip hcomponent => exact absurd hcomponent hname.not_skipped
      | up => exact absurd rfl hname.2.2
      | enter _ _ h' => exact ih h'
      | follow _ hkind' => exact absurd (hkind.symm.trans hkind') (by simp)
      | last _ _ hrest => rw [h.eq_itself_of_empty hrest]; rfl
  | follow hname hkind hrule h ih =>
      cases hother with
      | skip hcomponent => exact absurd hcomponent hname.not_skipped
      | up => exact absurd rfl hname.2.2
      | enter _ hkind' => exact absurd (hkind.symm.trans hkind') (by simp)
      | follow _ hkind' _ h' =>
          obtain rfl := Kind.link.inj (Option.some.inj (hkind.symm.trans hkind'))
          exact ih h'
      | last _ _ hrest hstops =>
          exact absurd (hrule hrest) (by simp [hstops _ hkind])
  | last hname hplace hrest hstops =>
      cases hother with
      | skip hcomponent => exact absurd hcomponent hname.not_skipped
      | up => exact absurd rfl hname.2.2
      | enter _ _ h' => rw [h'.eq_itself_of_empty hrest]; rfl
      | follow _ hkind' hrule => exact absurd (hrule hrest) (by simp [hstops _ hkind'])
      | last => rfl

end Walks

/-! ### The places that a path goes into -/

namespace FileSystem

variable {files after : FileSystem} {path : Text} {place entry : Place}

/-- The places that a path goes into. -/
def visited (files : FileSystem) (path : Text) : List Place :=
  Walk.visited (files.startOf path) (Text.splitOn '/' path)

theorem visited_congr (hworking : after.working = files.working) (path : Text) :
    after.visited path = files.visited path := by
  rw [visited, visited, startOf_congr (congrArg _ hworking)]

/-- Where there are no links, what a path denotes depends on the working directory only. -/
theorem denotes_iff_of_linkFree (hlinks : files.LinkFree) (hafter : after.LinkFree)
    (hworking : after.working = files.working) :
    after.Denotes path place ↔ files.Denotes path place := by
  have hstart := startOf_congr (congrArg _ hworking) path
  constructor
  · exact fun h => h.congr (fun other link => iff_of_false (hlinks other link) (hafter other link))
      hstart.symm
  · exact fun h => h.congr (fun other link => iff_of_false (hafter other link) (hlinks other link))
      hstart

variable (hlinks : files.LinkFree) (h : files.Denotes path place)
include hlinks h

/-- A path goes into what precedes its last component, and then takes one more step to the place that
it denotes. -/
theorem exists_visited_eq : files.visited path = [] ∧ (Path.splitLast path).2 = [] ∨
    ∃ middle, files.visited path = files.visited (Path.splitLast path).1 ++
        Walk.visited middle [(Path.splitLast path).2] ∧
      Leads files middle [(Path.splitLast path).2] place := by
  cases hall : (Text.splitOn '/' path).all List.isEmpty with
  | true => exact .inl ⟨Walk.visited_of_empty hall, Path.splitLast_of_all_empty hall⟩
  | false =>
      right
      obtain ⟨before, name, trailing, hsplit, hname, htrailing⟩ := Text.exists_append_cons hall
      obtain ⟨rfl, hhead⟩ := Path.splitLast_of_splitOn hsplit hname htrailing
      rw [Denotes, hsplit] at h
      obtain ⟨middle, hbefore, hlast⟩ := h.exists_middle
      rw [← List.singleton_append] at hlast
      obtain ⟨last, hlast, hrest⟩ := hlast.exists_middle
      obtain rfl := hrest.unique (.of_all_empty htrailing)
      refine ⟨middle, ?_, hlast⟩
      have hvisited : files.visited (Path.splitLast path).1 =
          Walk.visited (files.startOf path) before := by
        rcases hhead with ⟨rfl, hhead⟩ | ⟨habsolute, empties, hempties, hhead⟩
        · rw [visited, hhead]
          rfl
        · have hstart : files.startOf (Path.splitLast path).1 = files.startOf path := by
            rw [startOf, startOf, habsolute]
          rw [visited, hstart]
          rcases hhead with hhead | hhead
          · rw [hhead, Walk.visited_append_empty _ _ hempties]
          · rw [hhead, Walk.visited_append_empty _ _ hempties]
      rw [hvisited, visited, hsplit, Walk.visited_append hlinks hbefore,
        ← Walk.visited_append_empty middle [_] htrailing]
      rfl

/-- What a path goes into before its last component. -/
theorem mem_visited_splitLast (hlast : (Path.splitLast path).2 ≠ [])
    (hentry : entry ∈ files.visited (Path.splitLast path).1) : entry ∈ files.visited path := by
  rcases exists_visited_eq hlinks h with ⟨-, hnil⟩ | ⟨middle, hvisited, -⟩
  · exact absurd hnil hlast
  · rw [hvisited]
    exact List.mem_append_left _ hentry

/-- A path with a component joined to it takes one more step. -/
theorem visited_join {component : Text} (hcomponent : '/' ∉ component) :
    files.visited (Path.join path component) =
      files.visited path ++ Walk.visited place [component] := by
  obtain ⟨front, hfront, hsplit, hlead⟩ := h.exists_splitOn_join hcomponent
  have hvisited : Walk.visited (files.startOf path) front = files.visited path := by
    rcases hfront with hpath | hpath
    · rw [visited, hpath]
    · rw [visited, hpath, Walk.visited_append_empty _ _ rfl]
  rw [visited, startOf_join files path hcomponent, hsplit, Walk.visited_append hlinks hlead,
    hvisited]

omit h in
theorem isDirectory_of_entry? {host : Host} {found : Place} {node : Node}
    (hentry : files.entry? host path = some (found, node)) :
    files.isDirectory host path = node.isDirectory := by
  rw [hlinks.entry?_eq] at hentry
  rw [isDirectory, hentry]
  cases node <;> rfl

/-- What the system finds at a path stands at the place that the path denotes, unless it may be a
removed directory. -/
theorem at?_of_entry? {host : Host} (hfiles : files.Valid host) {found : Place} {node : Node}
    (hentry : files.entry? host path = some (found, node))
    (hplaced : node.kind = .directory → files.Placed path) : files.at? place = some node := by
  have hlookup := (entry?_eq_some_iff.mp hentry).2
  have hplaced : files.Placed path := by
    by_cases hnode : node.kind = .directory
    · exact hplaced hnode
    · exact (names_of_lookup hfiles hlookup hnode).placed
  have hat := (stands_of_lookup hfiles hplaced hlookup).1
  have hfound := denotes_of_placed hfiles hplaced hlookup fun target hnode =>
    hlinks found target (at?_link_iff.mp (hnode ▸ hat))
  rw [h.unique hfound.2]
  exact hat

end FileSystem

end LineShell
