import LineShell.Proofs.Path.Sound

/-!
# Normal forms of absolute paths

A normal form is spelled from the names of entries behind one slash or two, and both are found in it
again: normalising once more changes nothing.  So what two normal forms say about each other can be
read off the paths that they come from, and the directory of a normal path, which is a matter of the
spelling alone, is a normal path as well.
-/

namespace LineShell.Path

/-- A component that names an entry, instead of the directory itself or the one above. -/
def Naming (component : Text) : Prop :=
  component ≠ [] ∧ component ≠ self ∧ component ≠ up

/-- A name that a directory entry can have: it names, and it is a single component. -/
structure IsName (name : Text) : Prop where
  naming : Naming name
  not_slash : '/' ∉ name

instance (component : Text) : Decidable (Naming component) :=
  inferInstanceAs (Decidable (_ ∧ _ ∧ _))

instance (name : Text) : Decidable (IsName name) :=
  decidable_of_iff (Naming name ∧ '/' ∉ name)
    ⟨fun h => ⟨h.1, h.2⟩, fun h => ⟨h.naming, h.not_slash⟩⟩

theorem Naming.not_skipped {component : Text} (hcomponent : Naming component) :
    ¬ (component = [] ∨ component = self) :=
  not_or.mpr ⟨hcomponent.1, hcomponent.2.1⟩

theorem Naming.not_isEmpty_or_self {component : Text} (hcomponent : Naming component) :
    ¬ (component.isEmpty || component == self) = true := by
  simpa using ⟨hcomponent.1, hcomponent.2.1⟩

theorem Naming.not_beq_up {component : Text} (hcomponent : Naming component) :
    ¬ (component == up) = true := by
  simpa using hcomponent.2.2

/-- A component stays where a walk is, goes up or names an entry. -/
theorem skipped_or_up_or_naming (component : Text) :
    (component = [] ∨ component = self) ∨ component = up ∨ Naming component := by
  by_cases hskip : component = [] ∨ component = self
  · exact .inl hskip
  by_cases hup : component = up
  · exact .inr (.inl hup)
  · exact .inr (.inr ⟨fun h => hskip (.inl h), fun h => hskip (.inr h), hup⟩)

theorem push_of_naming {rooted : Bool} {stack : List Text} {component : Text}
    (hcomponent : Naming component) : push rooted stack component = component :: stack := by
  have hup : (component == up) = false := Bool.eq_false_iff.mpr hcomponent.not_beq_up
  unfold push
  rw [if_neg hcomponent.not_isEmpty_or_self, hup]
  rfl

theorem push_of_skipped {rooted : Bool} {stack : List Text} {component : Text}
    (hcomponent : component = [] ∨ component = self) : push rooted stack component = stack := by
  have hskip : (component.isEmpty || component == self) = true := by simpa using hcomponent
  unfold push
  rw [if_pos hskip]

/-- Going up from the root stays there, and elsewhere leaves the innermost component. -/
theorem push_up {stack : List Text} (hstack : ∀ component ∈ stack, Naming component) :
    push true stack up = stack.tail := by
  have hskip : ¬ (up.isEmpty || up == self) = true := by decide
  have hup : (up == up) = true := by decide
  unfold push
  rw [if_neg hskip, if_pos hup]
  cases stack with
  | nil => rfl
  | cons top below =>
      have htop : (top == up) = false := by
        simpa using (hstack top List.mem_cons_self).2.2
      simp [htop]

theorem naming_of_mem_push {stack : List Text} {component : Text}
    (hstack : ∀ other ∈ stack, Naming other) :
    ∀ other ∈ push true stack component, Naming other := by
  intro other hmem
  rcases skipped_or_up_or_naming component with hskip | rfl | hnaming
  · rw [push_of_skipped hskip] at hmem
    exact hstack other hmem
  · rw [push_up hstack] at hmem
    exact hstack other (List.mem_of_mem_tail hmem)
  · rw [push_of_naming hnaming] at hmem
    cases List.mem_cons.mp hmem with
    | inl heq => exact heq ▸ hnaming
    | inr hrest => exact hstack other hrest

theorem naming_of_mem_foldl_push {components stack : List Text}
    (hstack : ∀ other ∈ stack, Naming other) :
    ∀ other ∈ components.foldl (push true) stack, Naming other := by
  induction components generalizing stack with
  | nil => exact hstack
  | cons component rest ih => exact ih (naming_of_mem_push hstack)

theorem foldl_push_of_naming {rooted : Bool} {components : List Text}
    (hcomponents : ∀ component ∈ components, Naming component) (stack : List Text) :
    components.foldl (push rooted) stack = components.reverse ++ stack := by
  induction components generalizing stack with
  | nil => rfl
  | cons component rest ih =>
      have hrest := fun other hother => hcomponents other (List.mem_cons_of_mem component hother)
      rw [List.foldl_cons, push_of_naming (hcomponents component List.mem_cons_self), ih hrest]
      simp

/-- The slashes that a path begins with name nothing. -/
theorem foldl_push_splitOn_replicate (count : Nat) (text : Text) :
    (Text.splitOn '/' (List.replicate count '/' ++ text)).foldl (push true) [] =
      (Text.splitOn '/' text).foldl (push true) [] := by
  induction count with
  | zero => rfl
  | succ count ih =>
      have hsplit : Text.splitOn '/' ('/' :: (List.replicate count '/' ++ text)) =
          [] :: Text.splitOn '/' (List.replicate count '/' ++ text) :=
        Text.splitWhere_cons_of_separates (by decide) _
      rw [List.replicate_succ, List.cons_append, hsplit, List.foldl_cons,
        push_of_skipped (.inl rfl), ih]

/-- The components that a path is split into have no slashes in them. -/
theorem not_slash_of_mem_splitOn {path component : Text}
    (hmem : component ∈ Text.splitOn '/' path) : '/' ∉ component := by
  intro hslash
  have hkept := Text.separates_eq_false_of_mem_splitWhere hmem hslash
  exact absurd hkept (by decide)

/-! ### Spelling names -/

/-- The path of some components behind some slashes. -/
def spell (slashes : Nat) (names : List Text) : Text :=
  List.replicate slashes '/' ++ Text.joinWith "/" names

section Spelled

variable {slashes : Nat} {names : List Text}

/-- Joined names begin with no slash. -/
theorem head?_joinWith (hnames : ∀ name ∈ names, IsName name) :
    (Text.joinWith "/" names).head? ≠ some '/' := by
  cases names with
  | nil => simp [Text.joinWith]
  | cons first rest =>
      have hfirst := hnames first List.mem_cons_self
      obtain ⟨character, others, rfl⟩ := List.exists_cons_of_ne_nil hfirst.naming.1
      have hhead : (Text.joinWith "/" ((character :: others) :: rest)).head? = some character := by
        cases rest with
        | nil => simp [Text.joinWith]
        | cons next more => simp [Text.joinWith_cons_cons]
      rw [hhead]
      intro heq
      exact hfirst.not_slash (by simp [Option.some.inj heq])

/-- One slash is followed by something else. -/
theorem leadingSlashes_cons {rest : Text} (hrest : rest.head? ≠ some '/') :
    leadingSlashes ('/' :: rest) = 1 := by
  cases rest with
  | nil => rfl
  | cons first others =>
      have hfirst : first ≠ '/' := fun heq => hrest (by simp [heq])
      simp [leadingSlashes, isAbsolute, Text.startsWith, List.isPrefixOf, Ne.symm hfirst]

variable (hslashes : slashes = 1 ∨ slashes = 2) (hnames : ∀ name ∈ names, IsName name)
include hslashes

theorem isAbsolute_spell (names : List Text) : isAbsolute (spell slashes names) = true := by
  rcases hslashes with rfl | rfl <;> exact isAbsolute_iff.mpr ⟨_, rfl⟩

include hnames

theorem leadingSlashes_spell : leadingSlashes (spell slashes names) = slashes := by
  have hhead := head?_joinWith hnames
  unfold spell
  generalize Text.joinWith "/" names = rest at hhead
  rcases hslashes with rfl | rfl
  · exact leadingSlashes_cons hhead
  · cases rest with
    | nil => rfl
    | cons first others =>
        have hfirst : first ≠ '/' := fun heq => hhead (by simp [heq])
        simp [leadingSlashes, isAbsolute, Text.startsWith, List.isPrefixOf, Ne.symm hfirst]

theorem components_spell : components (spell slashes names) = names := by
  have hnaming : ∀ name ∈ names, Naming name := fun name hmem => (hnames name hmem).naming
  have hwalk : (Text.splitOn '/' (Text.joinWith "/" names)).foldl (push true) [] =
      names.reverse := by
    by_cases hnil : names = []
    · rw [hnil]
      rfl
    · have hsplit : Text.splitOn '/' (Text.joinWith "/" names) = names :=
        Text.splitOn_joinWith hnil fun name hmem => (hnames name hmem).not_slash
      rw [hsplit, foldl_push_of_naming hnaming, List.append_nil]
  rw [components, isAbsolute_spell hslashes, spell, foldl_push_splitOn_replicate, hwalk,
    List.reverse_reverse]

end Spelled

/-- A path of names behind slashes is split into empty components and the names. -/
theorem exists_splitOn_spell (slashes : Nat) {names : List Text}
    (hnames : ∀ name ∈ names, IsName name) :
    ∃ empties trailing, empties.all List.isEmpty = true ∧ trailing.all List.isEmpty = true ∧
      Text.splitOn '/' (spell slashes names) = empties ++ names ++ trailing := by
  have hslashes : ∀ text : Text, Text.splitOn '/' (List.replicate slashes '/' ++ text) =
      List.replicate slashes [] ++ Text.splitOn '/' text := by
    intro text
    induction slashes with
    | zero => rfl
    | succ count ih =>
        rw [List.replicate_succ, List.cons_append, List.replicate_succ, List.cons_append, ← ih]
        exact Text.splitWhere_cons_of_separates (by decide) _
  by_cases hnil : names = []
  · subst hnil
    refine ⟨List.replicate slashes [], [[]], by simp, rfl, ?_⟩
    rw [spell, hslashes, List.append_nil]
    rfl
  · refine ⟨List.replicate slashes [], [], by simp, rfl, ?_⟩
    rw [spell, hslashes, List.append_nil]
    congr 1
    exact Text.splitOn_joinWith hnil fun name hname => (hnames name hname).not_slash

theorem naming_of_mem_splitOn_spell {slashes : Nat} {names : List Text} {component : Text}
    (hnames : ∀ name ∈ names, IsName name)
    (hmem : component ∈ Text.splitOn '/' (spell slashes names)) (hne : component ≠ []) :
    Naming component := by
  obtain ⟨empties, trailing, hempties, htrailing, hsplit⟩ := exists_splitOn_spell slashes hnames
  have hempty : ∀ {pieces : List Text}, pieces.all List.isEmpty = true → component ∉ pieces :=
    fun hpieces hmem => hne (List.isEmpty_iff.mp (List.all_eq_true.mp hpieces component hmem))
  rw [hsplit, List.append_assoc] at hmem
  rcases List.mem_append.mp hmem with hmem | hmem
  · exact absurd hmem (hempty hempties)
  rcases List.mem_append.mp hmem with hmem | hmem
  · exact (hnames component hmem).naming
  · exact absurd hmem (hempty htrailing)

/-! ### Normal forms -/

section Absolute

variable {path : Text} (hpath : isAbsolute path = true)
include hpath

theorem components_of_isAbsolute :
    components path = ((Text.splitOn '/' path).foldl (push true) []).reverse := by
  rw [components, hpath]

theorem naming_of_mem_components {component : Text} (hmem : component ∈ components path) :
    Naming component := by
  rw [components_of_isAbsolute hpath] at hmem
  exact naming_of_mem_foldl_push (by simp) component (List.mem_reverse.mp hmem)

theorem not_slash_of_mem_components {component : Text} (hmem : component ∈ components path) :
    '/' ∉ component := by
  intro hslash
  rw [components_of_isAbsolute hpath] at hmem
  rcases mem_of_mem_foldl_push (List.mem_reverse.mp hmem) with hstack | hpiece | hup
  · cases hstack
  · exact absurd hslash (not_slash_of_mem_splitOn hpiece)
  · exact absurd (hup ▸ hslash) (by decide)

theorem isName_of_mem_components {component : Text} (hmem : component ∈ components path) :
    IsName component :=
  ⟨naming_of_mem_components hpath hmem, not_slash_of_mem_components hpath hmem⟩

theorem leadingSlashes_eq : leadingSlashes path = 1 ∨ leadingSlashes path = 2 := by
  unfold leadingSlashes
  rw [hpath]
  simp only [Bool.not_true, Bool.false_eq_true, if_false]
  split
  · exact .inr rfl
  · exact .inl rfl

theorem normalize_eq : normalize path = spell (leadingSlashes path) (components path) := by
  have hslashes : List.replicate (leadingSlashes path) '/' ≠ [] := by
    cases leadingSlashes_eq hpath with
    | inl h => simp [h]
    | inr h => simp [h]
  simp [normalize, spell, hslashes]

theorem leadingSlashes_normalize : leadingSlashes (normalize path) = leadingSlashes path := by
  rw [normalize_eq hpath]
  exact leadingSlashes_spell (leadingSlashes_eq hpath) fun _ => isName_of_mem_components hpath

theorem components_normalize : components (normalize path) = components path := by
  rw [normalize_eq hpath]
  exact components_spell (leadingSlashes_eq hpath) fun _ => isName_of_mem_components hpath

/-- One normal form lies within another one as the paths themselves do. -/
theorem isWithin_normalize {parent : Text} (hparent : isAbsolute parent = true) :
    isWithin (normalize path) (normalize parent) = isWithin path parent := by
  rw [isWithin, isWithin, leadingSlashes_normalize hparent, components_normalize hpath,
    components_normalize hparent]

end Absolute

/-- An absolute path that is its own normal form. -/
structure Normal (path : Text) : Prop where
  isAbsolute : isAbsolute path = true
  normalize : normalize path = path

theorem normal_spell {slashes : Nat} {names : List Text} (hslashes : slashes = 1 ∨ slashes = 2)
    (hnames : ∀ name ∈ names, IsName name) : Normal (spell slashes names) := by
  have habsolute := isAbsolute_spell hslashes names
  refine ⟨habsolute, ?_⟩
  rw [normalize_eq habsolute, leadingSlashes_spell hslashes hnames,
    components_spell hslashes hnames]

theorem normal_normalize {path : Text} (hpath : isAbsolute path = true) :
    Normal (normalize path) := by
  rw [normalize_eq hpath]
  exact normal_spell (leadingSlashes_eq hpath) fun _ => isName_of_mem_components hpath

/-! ### Going up -/

/-- The directory of a path that ends in a name is what precedes the name, without the slashes that
end it unless there is nothing else. -/
theorem directory_append {front name : Text} (hname : '/' ∉ name) :
    directory (front ++ '/' :: name) =
      if front.all isSlash then front ++ ['/'] else Text.trimEndWhere isSlash front := by
  have hdropped : ∀ character ∈ name.reverse, (!isSlash character) = true := by
    intro character hmem
    have hne : character ≠ '/' := by
      rintro rfl
      exact hname (List.mem_reverse.mp hmem)
    simpa [isSlash] using hne
  have hhead : ((front ++ '/' :: name).reverse.dropWhile (!isSlash ·)).reverse = front ++ ['/'] := by
    rw [List.reverse_append, List.reverse_cons, List.append_assoc,
      List.dropWhile_append_of_pos hdropped]
    simp [isSlash]
  have hall : (front ++ ['/']).all isSlash = front.all isSlash := by simp [isSlash]
  have htrim : Text.trimEndWhere isSlash (front ++ ['/']) = Text.trimEndWhere isSlash front :=
    Text.trimEndWhere_append_of_all (by simp [isSlash])
  rw [directory, hhead, hall, htrim]

/-- Above the directory of some names is that of all but the last one. -/
theorem directory_spell {slashes : Nat} {names : List Text} (hslashes : slashes = 1 ∨ slashes = 2)
    (hnames : ∀ name ∈ names, IsName name) :
    directory (spell slashes names) = spell slashes names.dropLast := by
  rcases List.eq_nil_or_concat names with rfl | ⟨init, last, rfl⟩
  · rcases hslashes with rfl | rfl <;> rfl
  · rw [List.concat_eq_append] at hnames ⊢
    have hlast := (hnames last (by simp)).not_slash
    rcases List.eq_nil_or_concat init with rfl | ⟨before, next, rfl⟩
    · have hspell : spell slashes [last] = List.replicate (slashes - 1) '/' ++ '/' :: last := by
        rcases hslashes with rfl | rfl <;> simp [spell, Text.joinWith]
      rw [List.nil_append, hspell, directory_append hlast]
      rcases hslashes with rfl | rfl <;> rfl
    · rw [List.concat_eq_append] at hnames ⊢
      have hnext := hnames next (by simp)
      obtain ⟨init, character, rfl⟩ : ∃ init character, next = init ++ [character] :=
        ⟨_, _, (List.dropLast_append_getLast hnext.naming.1).symm⟩
      have hcharacter : isSlash character = false := by
        rw [isSlash, beq_eq_false_iff_ne]
        rintro rfl
        exact hnext.not_slash (by simp)
      obtain ⟨front, hfront⟩ : ∃ front, spell slashes (before ++ [init ++ [character]]) =
          front ++ [character] := by
        by_cases hbefore : before = []
        · exact ⟨List.replicate slashes '/' ++ init, by simp [spell, hbefore, Text.joinWith]⟩
        · exact ⟨List.replicate slashes '/' ++ (Text.joinWith "/" before ++ "/" ++ init), by
            simp [spell, Text.joinWith_concat _ hbefore]⟩
      have hspell : spell slashes (before ++ [init ++ [character]] ++ [last]) =
          spell slashes (before ++ [init ++ [character]]) ++ '/' :: last := by
        rw [spell, Text.joinWith_concat "/" (by simp)]
        simp [spell]
      rw [hspell, directory_append hlast, hfront, Text.trimEndWhere_concat hcharacter,
        List.dropLast_concat, hfront]
      simp [hcharacter]

theorem Normal.directory {path : Text} (hpath : Normal path) : Normal (directory path) := by
  have hslashes := leadingSlashes_eq hpath.isAbsolute
  have hnames : ∀ name ∈ components path, IsName name := fun _ =>
    isName_of_mem_components hpath.isAbsolute
  have hspell : path = spell (leadingSlashes path) (components path) := by
    rw [← normalize_eq hpath.isAbsolute, hpath.normalize]
  rw [hspell, directory_spell hslashes hnames]
  exact normal_spell hslashes fun name hmem => hnames name (List.dropLast_subset _ hmem)

end LineShell.Path
