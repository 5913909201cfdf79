import LineShell.Proofs.FileSystem.Arrivals

/-!
# Normal forms where there are links

Normalising a path lets `..` take away the name before it.  The system goes up instead, from the
directory that the name led to.  The two agree where going up leads back to the directory that holds
the name, as it does for every name but that of a link; then a path and its normal form lead to one
directory, and the normal form is not refused where the path is not.
-/

namespace LineShell

namespace Path

/-! ### No normal form is longer -/

/-- The size of some components with one separator for each. -/
def spread (components : List Text) : Nat :=
  (components.map fun component => component.utf8Size + 1).sum

theorem utf8Size_joinWith {components : List Text} (hne : components ≠ []) :
    (Text.joinWith "/" components).utf8Size + 1 = spread components := by
  induction components with
  | nil => exact absurd rfl hne
  | cons first rest ih =>
      cases rest with
      | nil => simp [Text.joinWith, List.intercalate, spread]
      | cons next others =>
          have hslash : Text.utf8Size "/" = 1 := by decide
          rw [Text.joinWith_cons_cons, Text.utf8Size_append, Text.utf8Size_append, hslash,
            Nat.add_assoc, ih (by simp)]
          simp [spread]

theorem spread_push_le (stack : List Text) (component : Text) :
    spread (push true stack component) ≤ spread stack + (component.utf8Size + 1) := by
  unfold push
  split
  · exact Nat.le_add_right _ _
  · split
    · cases stack with
      | nil => simp [spread]
      | cons top below =>
          dsimp only
          split
          · rename_i hup
            simp_all [spread, Nat.add_comm]
          · simp only [spread, List.map_cons, List.sum_cons]
            omega
    · simp [spread, Nat.add_comm]

theorem spread_foldl_push_le (components stack : List Text) :
    spread (components.foldl (push true) stack) ≤ spread stack + spread components := by
  induction components generalizing stack with
  | nil => simp [spread]
  | cons component rest ih =>
      have hstep := spread_push_le stack component
      have hrest := ih (push true stack component)
      have hcons : spread (component :: rest) = component.utf8Size + 1 + spread rest := rfl
      rw [List.foldl_cons]
      omega

theorem spread_reverse (components : List Text) : spread components.reverse = spread components := by
  simp [spread]

theorem utf8Size_replicate_slash (count : Nat) :
    Text.utf8Size (List.replicate count '/') = count := by
  induction count with
  | zero => rfl
  | succ count ih =>
      rw [List.replicate_succ, Text.utf8Size, ih, Nat.add_comm]
      rfl

/-- An absolute path begins with the slashes that its normal form begins with. -/
theorem exists_eq_replicate_append {path : Text} (hpath : isAbsolute path = true) :
    ∃ rest, path = List.replicate (leadingSlashes path) '/' ++ rest := by
  obtain ⟨rest, rfl⟩ := isAbsolute_iff.mp hpath
  unfold leadingSlashes
  rw [hpath]
  cases hdouble : Text.startsWith ('/' :: rest) "//" with
  | false => exact ⟨rest, by simp⟩
  | true =>
      obtain ⟨more, hmore⟩ := List.isPrefixOf_iff_prefix.mp hdouble
      split
      · simp at *
      · split
        · exact ⟨more, hmore.symm⟩
        · exact ⟨rest, rfl⟩

theorem utf8Size_normalize_le {path : Text} (hpath : isAbsolute path = true) :
    (normalize path).utf8Size ≤ path.utf8Size := by
  obtain ⟨rest, hrest⟩ := exists_eq_replicate_append hpath
  have hcomponents : spread (components path) ≤ rest.utf8Size + 1 := by
    have hfold := spread_foldl_push_le (Text.splitOn '/' rest) []
    have hjoined := utf8Size_joinWith (Text.splitWhere_ne_nil (· == '/') rest)
    have hwhole : Text.joinWith "/" (Text.splitOn '/' rest) = rest := Text.joinWith_splitOn '/' rest
    rw [components_of_isAbsolute hpath, spread_reverse]
    conv_lhs => rw [hrest]
    rw [foldl_push_splitOn_replicate]
    change (Text.joinWith "/" (Text.splitOn '/' rest)).utf8Size + 1 = _ at hjoined
    rw [hwhole] at hjoined
    simp only [spread, List.map_nil, List.sum_nil, Nat.zero_add] at hfold hjoined ⊢
    rw [hjoined]
    exact hfold
  have hsize := congrArg Text.utf8Size hrest
  rw [Text.utf8Size_append, utf8Size_replicate_slash] at hsize
  rw [normalize_eq hpath, spell, Text.utf8Size_append, utf8Size_replicate_slash, hsize]
  apply Nat.add_le_add_left
  by_cases hnil : components path = []
  · rw [hnil]
    exact Nat.zero_le _
  · have hjoined := utf8Size_joinWith hnil
    omega

theorem Fits.normalize {host : Host} {path : Text} (h : Fits host path)
    (hpath : isAbsolute path = true) : Fits host (normalize path) :=
  ⟨(utf8Size_normalize_le hpath).trans h.size, (Sound.normalize ⟨hpath, h.hasNull⟩).hasNull⟩

/-- What is left of some components when the names that `..` follows are taken away. -/
def reduced (components : List Text) : List Text :=
  (components.foldl (push true) []).reverse

theorem reduced_of_skipped (front : List Text) {component : Text}
    (hcomponent : component = [] ∨ component = self) :
    reduced (front ++ [component]) = reduced front := by
  rw [reduced, List.foldl_concat, push_of_skipped hcomponent]
  rfl

theorem reduced_of_naming (front : List Text) {name : Text} (hname : Naming name) :
    reduced (front ++ [name]) = reduced front ++ [name] := by
  rw [reduced, List.foldl_concat, push_of_naming hname, List.reverse_cons]
  rfl

theorem naming_of_mem_reduced {front : List Text} {name : Text} (hname : name ∈ reduced front) :
    Naming name :=
  naming_of_mem_foldl_push (by simp) name (List.mem_reverse.mp hname)

theorem reduced_up (front : List Text) : reduced (front ++ [up]) = (reduced front).dropLast := by
  have hstack := fun name (hname : name ∈ front.foldl (push true) []) =>
    naming_of_mem_reduced (List.mem_reverse.mpr hname)
  rw [reduced, List.foldl_concat, push_up hstack, ← List.dropLast_reverse]
  rfl

end Path

namespace FileSystem

variable {host : Host} {files : FileSystem} {path : Text} {place : Place}
variable {components front rest : List Text}

/-- Going up along some components leads back: wherever `..` takes away a name, it goes up to the
directory that the name was looked up in. -/
def GoesBack (files : FileSystem) (components : List Text) : Prop :=
  ∀ front rest names name, components = front ++ Path.up :: rest →
    Path.reduced front = names ++ [name] →
    ∀ links here holder, Arrives files links [] front here → Arrives files links [] names holder →
      here.dropLast = holder

theorem GoesBack.beginning (h : files.GoesBack (front ++ rest)) : files.GoesBack front := by
  intro shorter more names name hsplit
  exact h shorter (more ++ rest) names name (by rw [hsplit]; simp)

/-- Where going up leads back, a way arrives where it arrives with the names taken away that `..`
follows, and it gets along with its links. -/
theorem GoesBack.arrives_reduced (hback : files.GoesBack components) {links : Nat}
    (h : Arrives files links [] components place) :
    Arrives files links [] (Path.reduced components) place := by
  have hroot : files.kind? [] = some .directory := kind?_nil files
  induction components using List.reverseRecOn generalizing place links with
  | nil => exact h
  | append_singleton front component ih =>
      obtain ⟨here, fewer, others, rfl, hfront, hlast⟩ := h.exists_middle hroot
      have hreduced := ih hback.beginning hfront
      cases hlast with
      | skip hcomponent hend =>
          rw [Path.reduced_of_skipped front hcomponent, hend.leads.eq_of_nil]
          exact hreduced.mono (Nat.le_add_right _ _)
      | up hend =>
          rw [Path.reduced_up, hend.leads.eq_of_nil]
          rcases List.eq_nil_or_concat (Path.reduced front) with hnil | ⟨names, name, hnames⟩
          · rw [hnil] at hreduced ⊢
            obtain rfl := hreduced.leads.eq_of_nil
            exact .done hroot
          · rw [List.concat_eq_append] at hnames
            rw [hnames] at hreduced ⊢
            obtain ⟨holder, before, after, rfl, hholder, -⟩ := hreduced.exists_middle hroot
            have hholder := hholder.mono (Nat.le_add_right before after)
            rw [List.dropLast_concat,
              hback front [] names name rfl hnames _ here holder hfront hholder]
            exact hholder.mono (Nat.le_add_right _ _)
      | enter hname hkind hend =>
          rw [Path.reduced_of_naming front hname]
          exact hreduced.append (.enter hname hkind hend)
      | follow hname hkind hend =>
          rw [Path.reduced_of_naming front hname]
          exact hreduced.append (.follow hname hkind hend)

/-- Going up leads back where `..` takes away no name of a link. -/
theorem goesBack_of_unlinked
    (hlink : ∀ front rest names name holder, components = front ++ Path.up :: rest →
      Path.reduced front = names ++ [name] → Leads files [] names holder →
      ∀ target, files.kind? (holder ++ [name]) ≠ some (.link target)) :
    files.GoesBack components := by
  induction components using List.reverseRecOn with
  | nil => simp [GoesBack]
  | append_singleton shorter component ih =>
      have hshorter : files.GoesBack shorter := ih fun front rest names name holder hsplit =>
        hlink front (rest ++ [component]) names name holder (by simp [hsplit])
      intro front rest names name hsplit hnames links here holder hhere hholder
      rcases List.eq_nil_or_concat rest with rfl | ⟨init, last, rfl⟩
      · obtain ⟨rfl, -⟩ := List.append_inj' hsplit rfl
        have hreduced := hshorter.arrives_reduced hhere
        rw [hnames] at hreduced
        obtain ⟨middle, _, _, -, hmiddle, hlast⟩ := hreduced.exists_middle (kind?_nil files)
        obtain rfl := hmiddle.leads.unique hholder.leads
        have hkind := hlink shorter [] names name middle hsplit hnames hholder.leads
        have hmem : name ∈ Path.reduced shorter := by simp [hnames]
        have hname := Path.naming_of_mem_reduced hmem
        obtain rfl := hlast.leads.unique (.enter hname hkind .done)
        rw [List.dropLast_concat]
      · rw [List.concat_eq_append, ← List.cons_append, ← List.append_assoc] at hsplit
        obtain ⟨rfl, -⟩ := List.append_inj' hsplit rfl
        exact hshorter front init names name rfl hnames links here holder hhere hholder

/-! ### Normal forms -/

/-- Empty components around others do not matter. -/
theorem arrives_between_empty {links : Nat} {empties trailing : List Text} {start : Place}
    (hstart : files.kind? start = some .directory) (hempties : empties.all List.isEmpty = true)
    (htrailing : trailing.all List.isEmpty = true) :
    Arrives files links start (empties ++ components ++ trailing) place ↔
      Arrives files links start components place := by
  constructor
  · intro h
    obtain ⟨last, fewer, _, hlinks, hfront, hend⟩ := h.exists_middle hstart
    obtain rfl := hend.leads.unique (.of_all_empty htrailing)
    obtain ⟨first, _, others, hothers, hbegin, hcomponents⟩ := hfront.exists_middle hstart
    obtain rfl := hbegin.leads.unique (.of_all_empty hempties)
    exact hcomponents.mono (by omega)
  · intro h
    have hbegin : Arrives files 0 start empties start := .of_all_empty hstart hempties
    have hend : Arrives files 0 place trailing place := .of_all_empty h.kind?_last htrailing
    exact ((hbegin.append h).append hend).mono (by omega)

theorem arrives_spell_iff {slashes links : Nat} {names : List Name}
    (hnames : ∀ name ∈ names, Path.IsName name) :
    Arrives files links [] (Text.splitOn '/' (Path.spell slashes names)) place ↔
      Arrives files links [] names place := by
  obtain ⟨empties, trailing, hempties, htrailing, hsplit⟩ := Path.exists_splitOn_spell slashes hnames
  rw [hsplit]
  exact arrives_between_empty (kind?_nil files) hempties htrailing

/-- Where going up leads back, the normal form of a path gets along with the links of the path. -/
theorem GoesBack.arrives_normalize (hback : files.GoesBack (Text.splitOn '/' path))
    (hpath : Path.isAbsolute path = true) {links : Nat}
    (h : Arrives files links [] (Text.splitOn '/' path) place) :
    Arrives files links [] (Text.splitOn '/' (Path.normalize path)) place := by
  have hreduced : Path.reduced (Text.splitOn '/' path) = Path.components path :=
    (Path.components_of_isAbsolute hpath).symm
  rw [Path.normalize_eq hpath, arrives_spell_iff fun _ => Path.isName_of_mem_components hpath,
    ← hreduced]
  exact hback.arrives_reduced h

/-- Where going up leads back, the normal form of a path leads to the directory that the path leads
to. -/
theorem target?_normalize (hfiles : files.Valid host) (hpath : Path.isAbsolute path = true)
    (hback : files.GoesBack (Text.splitOn '/' path)) {entries : Entries}
    (h : files.target? host path = some (place, .directory entries)) :
    files.target? host (Path.normalize path) = some (place, .directory entries) := by
  obtain ⟨hfits, harrives⟩ := (target?_directory_iff hfiles hpath).mp ⟨entries, h⟩
  obtain ⟨others, hfound⟩ := (target?_directory_iff hfiles (Path.isAbsolute_normalize hpath)).mpr
    ⟨hfits.normalize hpath, hback.arrives_normalize hpath harrives⟩
  have hat := at?_of_lookup (.inl hpath) (target?_eq_some_iff.mp h).2 (.inl hpath)
  have hat' := at?_of_lookup (.inl (Path.isAbsolute_normalize hpath))
    (target?_eq_some_iff.mp hfound).2 (.inl (Path.isAbsolute_normalize hpath))
  rw [hfound, Option.some.inj (hat.symm.trans hat')]

/-- The directory above a directory, which is a matter of the spelling, is a directory. -/
theorem isDirectory_directory (hfiles : files.Valid host) (hnormal : Path.Normal path)
    (h : files.isDirectory host path = true) :
    files.isDirectory host (Path.directory path) = true := by
  obtain ⟨place, hfound⟩ := isDirectory_iff.mp h
  obtain ⟨hfits, harrives⟩ := (target?_directory_iff hfiles hnormal.isAbsolute).mp hfound
  have hnames : ∀ name ∈ Path.components path, Path.IsName name := fun _ =>
    Path.isName_of_mem_components hnormal.isAbsolute
  have hspelled : path = Path.spell (Path.leadingSlashes path) (Path.components path) :=
    hnormal.normalize.symm.trans (Path.normalize_eq hnormal.isAbsolute)
  have hdirectory : Path.directory path =
      Path.spell (Path.leadingSlashes path) (Path.components path).dropLast := by
    conv_lhs => rw [hspelled]
    exact Path.directory_spell (Path.leadingSlashes_eq hnormal.isAbsolute) hnames
  have habove : ∀ name ∈ (Path.components path).dropLast, Path.IsName name := fun name hname =>
    hnames name (List.dropLast_subset _ hname)
  obtain ⟨above, hway⟩ : ∃ above,
      Arrives files host.linkLimit [] (Path.components path).dropLast above := by
    rw [hspelled, arrives_spell_iff hnames] at harrives
    rcases List.eq_nil_or_concat (Path.components path) with hnil | ⟨init, last, hconcat⟩
    · exact ⟨[], by rw [hnil]; exact .done (kind?_nil files)⟩
    · rw [hconcat, List.concat_eq_append] at harrives
      obtain ⟨middle, fewer, others, hlinks, hinit, -⟩ := harrives.exists_middle (kind?_nil files)
      rw [hconcat, List.concat_eq_append, List.dropLast_concat]
      exact ⟨middle, hinit.mono (by omega)⟩
  refine isDirectory_iff.mpr ⟨above, (target?_directory_iff hfiles ?_).mpr ⟨?_, ?_⟩⟩
  · exact Path.isAbsolute_directory hnormal.isAbsolute
  · exact hfits.of_beginning (Path.directory_prefix_self path)
  · rw [hdirectory, arrives_spell_iff habove]
    exact hway

end FileSystem

end LineShell
