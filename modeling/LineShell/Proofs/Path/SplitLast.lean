import LineShell.Proofs.Path.Joined
import LineShell.Text.Utf8

/-!
# What precedes the last component

The directory of a path is a beginning of it.  It has the components before the last name, up to the
slashes between them and the name, which stand for empty components.
-/

namespace LineShell

theorem Text.utf8Size_append (left right : Text) :
    Text.utf8Size (left ++ right) = left.utf8Size + right.utf8Size := by
  induction left with
  | nil => simp [utf8Size]
  | cons first rest ih => simp [utf8Size, ih, Nat.add_assoc]

/-- A list ends in one way in something that is not empty and then nothing but empty pieces. -/
theorem Text.append_cons_inj {front front' trailing trailing' : List Text} {name name' : Text}
    (h : front ++ name :: trailing = front' ++ name' :: trailing') (hname : name ≠ [])
    (hname' : name' ≠ []) (htrailing : trailing.all List.isEmpty = true)
    (htrailing' : trailing'.all List.isEmpty = true) :
    front = front' ∧ name = name' ∧ trailing = trailing' := by
  rcases List.append_eq_append_iff.mp h with ⟨more, hfront, htail⟩ | ⟨more, hfront, htail⟩
  · cases more with
    | nil =>
        obtain ⟨rfl, rfl⟩ := List.cons.inj htail
        exact ⟨by simpa using hfront.symm, rfl, rfl⟩
    | cons first more =>
        obtain ⟨-, rfl⟩ : name = first ∧ trailing = more ++ name' :: trailing' :=
          List.cons.inj htail
        have hempty : name' = [] := by simpa using (List.all_eq_true.mp htrailing) name' (by simp)
        exact absurd hempty hname'
  · cases more with
    | nil =>
        obtain ⟨rfl, rfl⟩ := List.cons.inj htail
        exact ⟨by simpa using hfront, rfl, rfl⟩
    | cons first more =>
        obtain ⟨-, rfl⟩ : name' = first ∧ trailing' = more ++ name :: trailing :=
          List.cons.inj htail
        have hempty : name = [] := by simpa using (List.all_eq_true.mp htrailing') name (by simp)
        exact absurd hempty hname

/-- Pieces that are not all empty end in one that is not, and then empty ones. -/
theorem Text.exists_append_cons {pieces : List Text} (h : pieces.all List.isEmpty = false) :
    ∃ front name trailing, pieces = front ++ name :: trailing ∧ name ≠ [] ∧
      trailing.all List.isEmpty = true := by
  induction pieces with
  | nil => simp at h
  | cons first rest ih =>
      cases hrest : rest.all List.isEmpty with
      | true => exact ⟨[], first, rest, rfl, by simpa [hrest] using h, hrest⟩
      | false =>
          obtain ⟨front, name, trailing, rfl, hname, htrailing⟩ := ih hrest
          exact ⟨first :: front, name, trailing, rfl, hname, htrailing⟩

namespace Path

/-! ### Beginnings of a path -/

theorem trimEndWhere_prefix_self (trims : Char → Bool) (text : Text) :
    Text.trimEndWhere trims text <+: text := by
  obtain ⟨tail, htail, -⟩ := Text.exists_eq_trimEndWhere_append trims text
  exact ⟨tail, htail.symm⟩

theorem directory_prefix_self (path : Text) : directory path <+: path := by
  have hhead : (path.reverse.dropWhile (!isSlash ·)).reverse <+: path := by
    rw [← List.reverse_suffix, List.reverse_reverse]
    exact List.dropWhile_suffix _
  unfold directory
  dsimp only
  split
  · exact hhead
  · exact (trimEndWhere_prefix_self isSlash _).trans hhead

theorem splitLast_prefix_self (path : Text) : (splitLast path).1 <+: path := by
  unfold splitLast
  split
  · exact (directory_prefix_self _).trans (directory_prefix_self path)
  · exact directory_prefix_self path

/-! ### The last component -/

variable {front name : Text}

theorem not_isSlash_of_mem (hname : '/' ∉ name) {character : Char} (hmem : character ∈ name) :
    isSlash character = false := by
  rw [isSlash, beq_eq_false_iff_ne]
  rintro rfl
  exact hname hmem

/-- What follows the last slash has none. -/
theorem exists_name (path : Text) :
    '/' ∉ path ∨ ∃ front name, path = front ++ '/' :: name ∧ '/' ∉ name := by
  by_cases hslash : '/' ∈ path
  · obtain ⟨name, front, hreverse, hname⟩ :=
      List.eq_append_cons_of_mem (List.mem_reverse.mpr hslash)
    refine .inr ⟨front.reverse, name.reverse, ?_, by simpa using hname⟩
    rw [← List.reverse_reverse path, hreverse]
    simp
  · exact .inl hslash

theorem lastComponent_append (hname : '/' ∉ name) : lastComponent (front ++ '/' :: name) = name := by
  have hstays : ∀ character ∈ name.reverse, (!isSlash character) = true := fun character hmem => by
    rw [not_isSlash_of_mem hname (List.mem_reverse.mp hmem)]
    rfl
  rw [lastComponent, List.reverse_append, List.reverse_cons, List.append_assoc,
    List.takeWhile_append_of_pos hstays]
  simp [isSlash]

/-- A path without slashes is its own last component, and nothing precedes it. -/
theorem lastComponent_of_not_slash (hname : '/' ∉ name) :
    lastComponent name = name ∧ directory name = [] := by
  have hstays : ∀ character ∈ name.reverse, (!isSlash character) = true := fun character hmem => by
    rw [not_isSlash_of_mem hname (List.mem_reverse.mp hmem)]
    rfl
  have htake : name.reverse.takeWhile (!isSlash ·) = name.reverse :=
    List.takeWhile_eq_self_iff.mpr hstays
  have hdrop : name.reverse.dropWhile (!isSlash ·) = [] := List.dropWhile_eq_nil_iff.mpr hstays
  exact ⟨by simp [lastComponent, htake], by simp [directory, hdrop]⟩

theorem not_slash_lastComponent (path : Text) : '/' ∉ lastComponent path := by
  rcases exists_name path with hpath | ⟨front, name, rfl, hname⟩
  · rwa [(lastComponent_of_not_slash hpath).1]
  · rwa [lastComponent_append hname]

/-- The last component is the last piece between slashes. -/
theorem exists_splitOn_lastComponent (path : Text) :
    ∃ front, Text.splitOn '/' path = front ++ [lastComponent path] := by
  rcases exists_name path with hpath | ⟨front, name, rfl, hname⟩
  · exact ⟨[], by rw [splitOn_of_not_slash hpath, (lastComponent_of_not_slash hpath).1]; rfl⟩
  · exact ⟨Text.splitOn '/' front, by
      rw [splitOn_append_slash, splitOn_of_not_slash hname, lastComponent_append hname]⟩

theorem lastComponent_of_splitOn {path : Text} {before : List Text}
    (hsplit : Text.splitOn '/' path = before ++ [name]) : lastComponent path = name := by
  obtain ⟨others, hothers⟩ := exists_splitOn_lastComponent path
  exact List.singleton_inj.mp (List.append_inj' (hothers.symm.trans hsplit) rfl).2

/-- What precedes a slash does not matter. -/
theorem lastComponent_append_slash (left right : Text) :
    lastComponent (left ++ '/' :: right) = lastComponent right := by
  obtain ⟨before, hbefore⟩ := exists_splitOn_lastComponent right
  exact lastComponent_of_splitOn (by rw [splitOn_append_slash, hbefore, ← List.append_assoc])

/-- A path keeps its last component when it is joined to another one. -/
theorem lastComponent_join (base path : Text) :
    lastComponent (join base path) = lastComponent path := by
  unfold join
  split
  · rfl
  split
  · rename_i hbase
    rcases (Bool.or_eq_true _ _).mp hbase with hempty | hslash
    · rw [List.isEmpty_iff.mp hempty, List.nil_append]
    · obtain ⟨before, rfl⟩ := List.isSuffixOf_iff_suffix.mp hslash
      have hjoin : (before ++ "/" ++ path : Text) = before ++ '/' :: path := by simp
      rw [hjoin, lastComponent_append_slash]
  · have hjoin : (base ++ "/" ++ path : Text) = base ++ '/' :: path := by simp
    rw [hjoin, lastComponent_append_slash]

/-- A last component that names is the one of the normal form as well. -/
theorem lastComponent_normalize {path : Text} (hlast : Naming (lastComponent path)) :
    lastComponent (normalize path) = lastComponent path := by
  obtain ⟨before, hbefore⟩ := exists_splitOn_lastComponent path
  obtain ⟨names, hnames⟩ : ∃ names, components path = names ++ [lastComponent path] := by
    refine ⟨(before.foldl (push (isAbsolute path)) []).reverse, ?_⟩
    rw [components, hbefore, List.foldl_append, List.foldl_cons, List.foldl_nil,
      push_of_naming hlast, List.reverse_cons]
  have hjoined : lastComponent (Text.joinWith "/" (components path)) = lastComponent path := by
    rw [hnames]
    by_cases hempty : names = []
    · rw [hempty]
      simp [Text.joinWith, lastComponent_of_not_slash (not_slash_lastComponent path)]
    · have hjoin : (Text.joinWith "/" names ++ "/" ++ lastComponent path : Text) =
          Text.joinWith "/" names ++ '/' :: lastComponent path := by simp
      rw [Text.joinWith_concat _ hempty, hjoin,
        lastComponent_append (not_slash_lastComponent path)]
  have hspelled : lastComponent (List.replicate (leadingSlashes path) '/' ++
      Text.joinWith "/" (components path)) = lastComponent path := by
    cases leadingSlashes path with
    | zero => exact hjoined
    | succ count =>
        rw [List.replicate_succ', List.append_assoc]
        exact (lastComponent_append_slash _ _).trans hjoined
  unfold normalize
  dsimp only
  rw [if_neg, hspelled]
  intro hempty
  rw [List.isEmpty_iff.mp hempty] at hspelled
  exact hlast.1 hspelled.symm

/-- A path with a last component ends in a character of it. -/
theorem exists_concat_of_lastComponent {path : Text} (hlast : lastComponent path ≠ []) :
    ∃ init character, path = init ++ [character] ∧ isSlash character = false := by
  have hend : ∀ {name : Text}, '/' ∉ name → name ≠ [] → ∀ front : Text,
      ∃ init character, front ++ name = init ++ [character] ∧ isSlash character = false := by
    intro name hname hne front
    rcases List.eq_nil_or_concat name with rfl | ⟨init, character, rfl⟩
    · exact absurd rfl hne
    · exact ⟨front ++ init, character, by simp, not_isSlash_of_mem hname (by simp)⟩
  rcases exists_name path with hpath | ⟨front, name, rfl, hname⟩
  · rw [(lastComponent_of_not_slash hpath).1] at hlast
    simpa using hend hpath hlast []
  · rw [lastComponent_append hname] at hlast
    rw [List.append_cons]
    exact hend hname hlast _

/-- Slashes that end a path do not count when its last component is split off. -/
theorem splitLast_append_slashes {path : Text} (hlast : lastComponent path ≠ []) (count : Nat) :
    splitLast (path ++ List.replicate count '/') = (directory path, lastComponent path) := by
  have hkept : (lastComponent path).isEmpty = false := by simpa using hlast
  cases count with
  | zero => simp [splitLast, hkept]
  | succ count =>
      obtain ⟨init, character, hpath, hcharacter⟩ := exists_concat_of_lastComponent hlast
      have hslashes : ∀ other ∈ List.replicate count '/', isSlash other = true := by
        simp [isSlash]
      have htrim : Text.trimEndWhere isSlash (path ++ List.replicate count '/') = path := by
        rw [Text.trimEndWhere_append_of_all hslashes, hpath, Text.trimEndWhere_concat hcharacter]
      have hall : (path ++ List.replicate count '/').all isSlash = false := by
        simp [hpath, hcharacter]
      have hdirectory : directory (path ++ List.replicate (count + 1) '/') = path := by
        rw [List.replicate_succ', ← List.append_assoc, directory_append (by simp), hall, htrim]
        rfl
      have hempty : lastComponent (path ++ List.replicate (count + 1) '/') = [] := by
        rw [List.replicate_succ', ← List.append_assoc, lastComponent_append (by simp)]
      simp [splitLast, hempty, hdirectory]

theorem eq_replicate_of_isSlash {text : Text} (h : ∀ character ∈ text, isSlash character = true) :
    text = List.replicate text.length '/' :=
  List.eq_replicate_iff.mpr ⟨rfl, fun character hmem => beq_iff_eq.mp (h character hmem)⟩

/-- What is written behind a path does not make it absolute. -/
theorem isAbsolute_append {left : Text} (hne : left ≠ []) (right : Text) :
    isAbsolute (left ++ right) = isAbsolute left := by
  obtain ⟨first, rest, rfl⟩ := List.exists_cons_of_ne_nil hne
  simp [isAbsolute, Text.startsWith, List.isPrefixOf]

theorem splitOn_append_slashes (path : Text) (count : Nat) :
    Text.splitOn '/' (path ++ List.replicate count '/') =
      Text.splitOn '/' path ++ List.replicate count [] := by
  induction count with
  | zero => simp
  | succ count ih =>
      rw [List.replicate_succ', ← List.append_assoc, splitOn_append_slash, ih, List.append_assoc,
        List.replicate_succ']
      rfl

/-- A path that ends in some text behind a slash, without slashes, is split before that slash; the
slashes before it go as well, unless there is nothing else. -/
theorem splitOn_directory (hname : '/' ∉ name) :
    isAbsolute (directory (front ++ '/' :: name)) = isAbsolute (front ++ '/' :: name) ∧
      ∃ empties, empties.all List.isEmpty = true ∧
        (Text.splitOn '/' (directory (front ++ '/' :: name)) = Text.splitOn '/' front ++ empties ∨
          Text.splitOn '/' front =
            Text.splitOn '/' (directory (front ++ '/' :: name)) ++ empties) := by
  have hparts : (front ++ '/' :: name : Text) = (front ++ ['/']) ++ name := by simp
  rw [directory_append hname]
  split
  · refine ⟨?_, [[]], rfl, .inl ?_⟩
    · rw [hparts]
      exact (isAbsolute_append (by simp) name).symm
    · rw [splitOn_append_slash]
      rfl
  · rename_i hall
    obtain ⟨tail, htail, hslashes⟩ := Text.exists_eq_trimEndWhere_append isSlash front
    have hkept : Text.trimEndWhere isSlash front ≠ [] := by
      intro hnil
      rw [hnil, List.nil_append] at htail
      exact hall (htail ▸ List.all_eq_true.mpr hslashes)
    refine ⟨?_, List.replicate tail.length [], by simp, .inr ?_⟩
    · rw [← isAbsolute_append hkept (tail ++ '/' :: name), ← List.append_assoc, ← htail]
    · rw [← splitOn_append_slashes, ← eq_replicate_of_isSlash hslashes, ← htail]

/-- The last component that is not empty is split off, and what precedes it has the components before
it, but for empty ones at the end. -/
theorem splitLast_of_splitOn {path : Text} {before trailing : List Text}
    (hsplit : Text.splitOn '/' path = before ++ name :: trailing) (hname : name ≠ [])
    (htrailing : trailing.all List.isEmpty = true) :
    (splitLast path).2 = name ∧ (before = [] ∧ (splitLast path).1 = [] ∨
      isAbsolute (splitLast path).1 = isAbsolute path ∧
        ∃ empties, empties.all List.isEmpty = true ∧
          (Text.splitOn '/' (splitLast path).1 = before ++ empties ∨
            before = Text.splitOn '/' (splitLast path).1 ++ empties)) := by
  obtain ⟨slashes, hpath, hslashes⟩ := Text.exists_eq_trimEndWhere_append isSlash path
  have hend : ∀ {init : Text}, Text.trimEndWhere isSlash path ≠ init ++ ['/'] := by
    intro init hinit
    have hslash := Text.not_trims_of_trimEndWhere hinit
    simp [isSlash] at hslash
  rw [eq_replicate_of_isSlash hslashes] at hpath
  generalize Text.trimEndWhere isSlash path = kept at hpath hend
  have hempties : (List.replicate slashes.length ([] : Text)).all List.isEmpty = true := by simp
  rw [hpath, splitOn_append_slashes] at hsplit
  rcases exists_name kept with hkept | ⟨front, last, rfl, hlast⟩
  · obtain ⟨hcomponent, hdirectory⟩ := lastComponent_of_not_slash hkept
    have hpieces : Text.splitOn '/' kept = [kept] :=
      Text.splitWhere_of_none fun character hmem => not_isSlash_of_mem hkept hmem
    have hne : kept ≠ [] := by
      rintro rfl
      rw [hpieces] at hsplit
      have hmem : name ∈ List.replicate (slashes.length + 1) ([] : Text) := by
        rw [List.cons_append, List.nil_append] at hsplit
        simp [List.replicate_succ, hsplit]
      exact hname (List.eq_of_mem_replicate hmem)
    rw [hpieces] at hsplit
    have hpieces' : [] ++ kept :: List.replicate slashes.length [] = before ++ name :: trailing :=
      hsplit
    obtain ⟨hbefore, hlast, -⟩ := Text.append_cons_inj hpieces' hne hname hempties htrailing
    rw [hpath, splitLast_append_slashes (by rw [hcomponent]; exact hne)]
    exact ⟨hcomponent.trans hlast, .inl ⟨hbefore.symm, hdirectory⟩⟩
  · have hne : last ≠ [] := by
      rintro rfl
      exact hend rfl
    have hcomponent : lastComponent (front ++ '/' :: last) = last := lastComponent_append hlast
    have hpieces : Text.splitOn '/' last = [last] :=
      Text.splitWhere_of_none fun character hmem => not_isSlash_of_mem hlast hmem
    rw [splitOn_append_slash, hpieces, List.append_assoc] at hsplit
    obtain ⟨hbefore, hsame, -⟩ := Text.append_cons_inj hsplit hne hname hempties htrailing
    rw [hpath, splitLast_append_slashes (by rw [hcomponent]; exact hne),
      isAbsolute_append (by simp), ← hbefore]
    exact ⟨hcomponent.trans hsame, .inr (splitOn_directory hlast)⟩

theorem splitLast_join (path : Text) (hname : IsName name) :
    (splitLast (join path name)).2 = name := by
  obtain ⟨front, -, hsplit⟩ := splitOn_join path hname.not_slash
  exact (splitLast_of_splitOn hsplit hname.naming.1 rfl).1

/-- A path with nothing but empty components has no last one. -/
theorem splitLast_of_all_empty {path : Text}
    (hpieces : (Text.splitOn '/' path).all List.isEmpty = true) : (splitLast path).2 = [] := by
  have hlast : ∀ {path : Text}, (Text.splitOn '/' path).all List.isEmpty = true →
      lastComponent path = [] := by
    intro path hpieces
    obtain ⟨front, hfront⟩ := exists_splitOn_lastComponent path
    exact List.isEmpty_iff.mp (List.all_eq_true.mp hpieces _ (by simp [hfront]))
  have hdirectory : (Text.splitOn '/' (directory path)).all List.isEmpty = true := by
    rcases exists_name path with hpath | ⟨front, name, rfl, hname⟩
    · rw [(lastComponent_of_not_slash hpath).2]
      rfl
    · obtain ⟨-, empties, hempties, hfront | hfront⟩ := @splitOn_directory front name hname
      · rw [splitOn_append_slash, List.all_append, Bool.and_eq_true] at hpieces
        rw [hfront, List.all_append, hpieces.1, hempties]
        rfl
      · rw [splitOn_append_slash, List.all_append, Bool.and_eq_true, hfront, List.all_append,
          Bool.and_eq_true] at hpieces
        exact hpieces.1.1
  rw [splitLast, hlast hpieces]
  exact hlast hdirectory

/-- The last component, if there is one, is among all of them. -/
theorem splitLast_snd_mem {path : Text} (hlast : (splitLast path).2 ≠ []) :
    (splitLast path).2 ∈ Text.splitOn '/' path := by
  cases hpieces : (Text.splitOn '/' path).all List.isEmpty with
  | true => exact absurd (splitLast_of_all_empty hpieces) hlast
  | false =>
      obtain ⟨before, name, trailing, hsplit, hname, htrailing⟩ := Text.exists_append_cons hpieces
      rw [(splitLast_of_splitOn hsplit hname htrailing).1, hsplit]
      simp

/-- What precedes the last component has one itself, unless it is nothing but slashes. -/
theorem lastComponent_directory (path : Text) :
    (Text.splitOn '/' (directory path)).all List.isEmpty = true ∨
      lastComponent (directory path) ≠ [] := by
  rcases exists_name path with hpath | ⟨front, name, rfl, hname⟩
  · rw [(lastComponent_of_not_slash hpath).2]
    exact .inl rfl
  rw [directory_append hname]
  split
  · rename_i hall
    left
    rw [eq_replicate_of_isSlash (List.all_eq_true.mp hall), ← List.replicate_succ',
      ← List.nil_append (List.replicate _ '/'), splitOn_append_slashes]
    simp [Text.splitOn, Text.splitWhere]
  · rename_i hall
    obtain ⟨tail, htail, hslashes⟩ := Text.exists_eq_trimEndWhere_append isSlash front
    rcases List.eq_nil_or_concat (Text.trimEndWhere isSlash front) with hnil | ⟨init, last, hkept⟩
    · rw [hnil, List.nil_append] at htail
      exact absurd (htail ▸ List.all_eq_true.mpr hslashes) hall
    · right
      intro hempty
      rw [List.concat_eq_append] at hkept
      rw [hkept] at hempty
      have hlast := Text.not_trims_of_trimEndWhere hkept
      rcases exists_name (init ++ [last]) with hplain | ⟨others, rest, hothers, hrest⟩
      · rw [(lastComponent_of_not_slash hplain).1] at hempty
        simp at hempty
      · rw [hothers, lastComponent_append hrest] at hempty
        subst hempty
        obtain ⟨-, hslash⟩ := List.append_inj' hothers rfl
        simp [isSlash, List.cons.inj hslash] at hlast

/-- What precedes the last component has one itself, unless it is nothing but slashes. -/
theorem lastComponent_splitLast (path : Text) :
    (Text.splitOn '/' (splitLast path).1).all List.isEmpty = true ∨
      lastComponent (splitLast path).1 ≠ [] := by
  unfold splitLast
  split
  · exact lastComponent_directory (directory path)
  · exact lastComponent_directory path

end Path

end LineShell
