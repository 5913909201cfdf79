import LineShell.FileSystem.Removal
import LineShell.Proofs.FileSystem.Copies
import LineShell.Proofs.FileSystem.Performed

/-!
# Sweeping a tree

The removal of a tree first sweeps it of everything that is no directory and lists the directories,
each before those below it.  What is in the tree is found by paths that continue the path of the
tree.  These lead to their entries as long as nothing that they go through is removed, so all depends
on how the path of the tree is spelled: it must keep out of the tree on its way there.
-/

namespace LineShell

/-- All that is no directory at certain places was removed, and nothing else has changed. -/
structure Swept (host : Host) (within : Place → Prop) (now after : FileSystem) : Prop where
  valid : after.Valid host
  distinct : after.Distinct
  working : after.working = now.working
  inside : ∀ other, within other → after.kind? other =
    if now.kind? other = some .directory then some .directory else none
  outside : ∀ other, ¬ within other → after.kind? other = now.kind? other

namespace Swept

variable {host : Host} {within within' : Place → Prop} {now middle after : FileSystem}

theorem refl (hnow : now.Valid host) (hdistinct : now.Distinct) :
    Swept host (fun _ => False) now now :=
  ⟨hnow, hdistinct, rfl, fun _ h => h.elim, fun _ _ => rfl⟩

theorem directories (h : Swept host within now after) (other : Place) :
    after.kind? other = some .directory ↔ now.kind? other = some .directory := by
  by_cases hother : within other
  · rw [h.inside other hother]
    split <;> simp [*]
  · rw [h.outside other hother]

theorem fewer (h : Swept host within now after) {other : Place} {kind : Kind}
    (hkind : after.kind? other = some kind) : now.kind? other = some kind := by
  by_cases hother : within other
  · rw [h.inside other hother] at hkind
    split at hkind
    · obtain rfl := Option.some.inj hkind
      assumption
    · cases hkind
  · rwa [h.outside other hother] at hkind

theorem trans (h : Swept host within now middle) (h' : Swept host within' middle after) :
    Swept host (fun other => within other ∨ within' other) now after := by
  refine ⟨h'.valid, h'.distinct, h'.working.trans h.working, fun other hother => ?_,
    fun other hother => ?_⟩
  · by_cases hinside : within' other
    · rw [h'.inside other hinside]
      simp only [h.directories]
    · rw [h'.outside other hinside, h.inside other (hother.resolve_right hinside)]
  · rw [h'.outside other fun hinside => hother (.inr hinside),
      h.outside other fun hinside => hother (.inl hinside)]

theorem of_iff (h : Swept host within now after) (hiff : ∀ other, within' other ↔ within other) :
    Swept host within' now after :=
  ⟨h.valid, h.distinct, h.working, fun other hother => h.inside other ((hiff other).mp hother),
    fun other hother => h.outside other fun hinside => hother ((hiff other).mpr hinside)⟩

/-- The names of a directory hold all that is below it. -/
theorem of_names {place : Place} {names : List Name}
    (h : Swept host (fun other => ∃ name ∈ names, place ++ [name] <+: other) now after)
    (hkind : now.kind? place = some .directory)
    (hnames : ∀ name, name ∈ names ↔ ∃ kind, now.kind? (place ++ [name]) = some kind) :
    Swept host (place <+: ·) now after := by
  refine ⟨h.valid, h.distinct, h.working, fun other hother => ?_, fun other hother => ?_⟩
  · obtain ⟨rest, rfl⟩ := hother
    by_cases hinside : ∃ name ∈ names, place ++ [name] <+: place ++ rest
    · exact h.inside _ hinside
    · rw [h.outside _ hinside]
      cases rest with
      | nil => rw [List.append_nil, hkind, if_pos rfl]
      | cons name more =>
          have hnone : now.kind? (place ++ [name]) = none := by
            by_contra hsome
            have hmem := (hnames name).mpr (Option.ne_none_iff_exists'.mp hsome)
            exact hinside ⟨name, hmem, more, by simp⟩
          have habsent := FileSystem.kind?_append_eq_none hnone more
          rw [List.append_assoc, List.singleton_append] at habsent
          rw [habsent, if_neg (by simp)]
  · apply h.outside
    rintro ⟨name, -, hbegins⟩
    exact hother ((List.prefix_append place [name]).trans hbegins)

end Swept

/-- A list of the directories in part of what is below a place, each before those below it. -/
structure ListsDirectories (files : FileSystem) (place : Place) (part : Place → Prop)
    (rests : List Place) : Prop where
  ordered : rests.Pairwise fun early late => ¬ late <+: early
  mem_iff : ∀ rest, rest ∈ rests ↔ part rest ∧ files.kind? (place ++ rest) = some .directory

namespace ListsDirectories

variable {files after : FileSystem} {place : Place} {names : List Name}

theorem congr {part : Place → Prop} {rests : List Place}
    (h : ListsDirectories files place part rests)
    (hsame : ∀ other, files.kind? other = some .directory ↔ after.kind? other = some .directory) :
    ListsDirectories after place part rests :=
  ⟨h.ordered, fun rest => (h.mem_iff rest).trans (and_congr_right' (hsame _))⟩

/-- There is no directory in what is none itself. -/
theorem of_leaf (hleaf : files.kind? place ≠ some .directory) :
    ListsDirectories files place (fun _ => True) [] := by
  refine ⟨.nil, fun rest => ?_⟩
  simp only [List.not_mem_nil, false_iff, true_and]
  intro hdirectory
  by_cases hrest : rest = []
  · rw [hrest, List.append_nil] at hdirectory
    exact hleaf hdirectory
  · rw [FileSystem.kind?_below_eq_none hleaf hrest] at hdirectory
    cases hdirectory

/-- A directory goes before all that its entries hold. -/
theorem of_entries {rests : List Place}
    (h : ListsDirectories files place (fun rest => ∃ name ∈ names, [name] <+: rest) rests)
    (hkind : files.kind? place = some .directory)
    (hnames : ∀ name, name ∈ names ↔ ∃ kind, files.kind? (place ++ [name]) = some kind) :
    ListsDirectories files place (fun _ => True) ([] :: rests) := by
  refine ⟨List.pairwise_cons.mpr ⟨fun rest hrest hbegins => ?_, h.ordered⟩, fun rest => ?_⟩
  · obtain ⟨⟨name, -, hname⟩, -⟩ := (h.mem_iff rest).mp hrest
    rw [List.prefix_nil.mp hbegins] at hname
    simp at hname
  · rw [List.mem_cons, h.mem_iff]
    constructor
    · rintro (rfl | ⟨-, hdirectory⟩)
      · exact ⟨trivial, by rw [List.append_nil]; exact hkind⟩
      · exact ⟨trivial, hdirectory⟩
    · rintro ⟨-, hdirectory⟩
      cases rest with
      | nil => exact .inl rfl
      | cons name more =>
          refine .inr ⟨⟨name, ?_, more, rfl⟩, hdirectory⟩
          rw [List.append_cons] at hdirectory
          exact (hnames name).mpr (FileSystem.exists_kind?_of_below hdirectory)

/-- The directories in one entry go before those in the entries under other names. -/
theorem cons_entry {name : Name} {first others : List Place} (hname : name ∉ names)
    (hfirst : ListsDirectories files (place ++ [name]) (fun _ => True) first)
    (hothers : ListsDirectories files place (fun rest => ∃ next ∈ names, [next] <+: rest) others) :
    ListsDirectories files place (fun rest => ∃ next ∈ name :: names, [next] <+: rest)
      (first.map (name :: ·) ++ others) := by
  constructor
  case ordered =>
    refine List.pairwise_append.mpr ⟨?_, hothers.ordered, fun early hearly late hlate => ?_⟩
    · rw [List.pairwise_map]
      apply hfirst.ordered.imp
      intro early late hordered hbegins
      exact hordered (List.cons_prefix_cons.mp hbegins).2
    · obtain ⟨inner, -, rfl⟩ := List.mem_map.mp hearly
      obtain ⟨⟨next, hnext, more, rfl⟩, -⟩ := (hothers.mem_iff late).mp hlate
      intro hbegins
      rw [List.singleton_append, List.cons_prefix_cons] at hbegins
      exact hname (hbegins.1 ▸ hnext)
  case mem_iff =>
    intro other
    rw [List.mem_append, List.mem_map, hothers.mem_iff]
    constructor
    · rintro (⟨inner, hinner, rfl⟩ | ⟨⟨next, hnext, hbegins⟩, hdirectory⟩)
      · refine ⟨⟨name, List.mem_cons_self, inner, rfl⟩, ?_⟩
        rw [List.append_cons]
        exact ((hfirst.mem_iff inner).mp hinner).2
      · exact ⟨⟨next, List.mem_cons_of_mem name hnext, hbegins⟩, hdirectory⟩
    · rintro ⟨⟨next, hnext, inner, rfl⟩, hdirectory⟩
      rcases List.mem_cons.mp hnext with rfl | hnext
      · refine .inl ⟨inner, (hfirst.mem_iff inner).mpr ⟨trivial, ?_⟩, rfl⟩
        rw [List.append_assoc]
        exact hdirectory
      · exact .inr ⟨⟨next, hnext, inner, rfl⟩, hdirectory⟩

end ListsDirectories

namespace Disk

variable {host : Host} {now after : FileSystem} {path : Text} {place : Place}

/-- A tree can be removed: its path leads to it and keeps out of it on the way, and no path of what
is in it is too long. -/
structure Removable (host : Host) (now : FileSystem) (path : Text) (place : Place) : Prop where
  valid : now.Valid host
  distinct : now.Distinct
  there : ∃ kind, now.kind? place = some kind
  aims : ∃ directory name slashed, place = directory ++ [name] ∧
    (slashed = true → now.kind? place = some .directory) ∧
    Aims host now .never path directory name slashed
  keepsOut : now.KeepsOut path place
  fits : ∀ rest kind, now.kind? (place ++ rest) = some kind → Path.Fits host (Path.below path rest)

namespace Removable

theorem size (h : Removable host now path place) : path.utf8Size ≤ host.pathLimit := by
  obtain ⟨_, _, _, _, _, haims⟩ := h.aims
  exact haims.fits.size

/-- A tree can be removed also after something inside of it was removed. -/
theorem kept (h : Removable host now path place) (hvalid : after.Valid host)
    (hdistinct : after.Distinct)
    (hfewer : ∀ {other kind}, after.kind? other = some kind → now.kind? other = some kind)
    (hsame : ∀ other, (place <+: other → other = place) → after.kind? other = now.kind? other)
    (hworking : after.working = now.working ∨ ∃ removed,
      after.working = now.working.afterRemoval removed ∧ after.kind? removed = none) :
    Removable host after path place := by
  obtain ⟨directory, name, slashed, hplace, hslashed, haims⟩ := h.aims
  have hhere : after.kind? place = now.kind? place := hsame place fun _ => rfl
  have hdirectory : after.kind? directory = some .directory := by
    rw [hsame, (haims.isName h.valid).1]
    intro hbegins
    have hlonger := hbegins.length_le
    simp [hplace] at hlonger
  have hkept := haims.kept h.valid hvalid (fun entry hentry => hsame entry (h.keepsOut entry hentry))
    hdirectory hworking
  have hstart : now.startOf path = after.startOf path := by
    have hpath : after.working.place = now.working.place := by
      rcases hworking with hworking | ⟨removed, hworking, -⟩
      · rw [hworking]
      · rw [hworking, WorkingDirectory.afterRemoval]
        split <;> rfl
    exact FileSystem.startOf_congr hpath.symm path
  refine ⟨hvalid, hdistinct, hhere ▸ h.there,
    ⟨directory, name, slashed, hplace, fun h => hhere.trans (hslashed h), hkept⟩, ?_,
    fun rest kind hkind => h.fits rest kind (hfewer hkind)⟩
  intro entry hentry hbegins
  have hthrough := hkept.goesThrough_of_fewer hvalid hstart hfewer
    (fun h => hplace ▸ hhere.trans (hslashed h)) hentry
  rcases hthrough with hthrough | rfl
  · exact h.keepsOut entry hthrough hbegins
  · exact hplace.symm

variable (h : Removable host now path place)
include h

/-- What is in a directory can be removed. -/
theorem join {name : Name} {kind : Kind} (hthere : now.kind? (place ++ [name]) = some kind) :
    Removable host now (Path.join path name) (place ++ [name]) := by
  obtain ⟨directory, last, slashed, rfl, hslashed, haims⟩ := h.aims
  have hkind := FileSystem.kind?_eq_directory_of_below hthere (by simp)
  have hname := h.valid.isName hthere
  refine ⟨h.valid, h.distinct, ⟨kind, hthere⟩, ⟨_, name, false, rfl, by simp,
    haims.join h.valid hkind hname (h.fits [name] kind hthere)⟩, ?_, fun rest inner hrest => ?_⟩
  · intro entry hentry hbegins
    have habove : directory ++ [last] <+: entry := (List.prefix_append _ [name]).trans hbegins
    have heq : entry = directory ++ [last] := by
      rcases haims.goesThrough_of_join h.valid hkind hname hentry with hthrough | heq
      · exact h.keepsOut entry hthrough habove
      · exact heq
    have hlonger := hbegins.length_le
    simp [heq] at hlonger
  · rw [List.append_assoc] at hrest
    exact h.fits (name :: rest) inner hrest

/-- So can all that is below it. -/
theorem below {rest : Place} {kind : Kind} (hthere : now.kind? (place ++ rest) = some kind) :
    Removable host now (Path.below path rest) (place ++ rest) := by
  induction rest using List.reverseRecOn generalizing kind with
  | nil =>
      rw [List.append_nil]
      exact h
  | append_singleton front name ih =>
      rw [← List.append_assoc] at hthere ⊢
      rw [Path.below_concat]
      exact (ih (FileSystem.kind?_eq_directory_of_below hthere (by simp))).join hthere

/-- What is no directory is swept away. -/
theorem completes_stripTree_leaf {depth : Nat} (hleaf : now.kind? place ≠ some .directory) :
    Completes (stripTree host (depth + 1) path) now fun directories after =>
      Swept host (place <+: ·) now after ∧ directories = [] := by
  obtain ⟨kind, hkind⟩ := h.there
  obtain ⟨directory, name, slashed, rfl, hslashed, haims⟩ := h.aims
  obtain rfl : slashed = false := by
    by_contra hne
    exact hleaf (hslashed (by simpa using hne))
  obtain ⟨node, hnode, rfl⟩ := FileSystem.exists_at?_of_kind? hkind
  have hne : node.kind ≠ .directory := fun heq => hleaf (heq ▸ hkind)
  have htest := haims.isDirectory_and_not_isLink h.valid hnode (by simp)
  simp only [Completes, stripTree, ends_bind, ends_get, htest, Node.isDirectory_iff, if_neg hne]
  apply (completes_removeEntry h.valid haims hkind hne).ends
  intro _ after hafter
  refine ⟨⟨hafter.valid, hafter.distinct h.distinct, hafter.working, fun other hother => ?_,
    fun other hother => ?_⟩, rfl⟩
  · obtain ⟨rest, rfl⟩ := hother
    rw [hafter.kinds]
    cases rest with
    | nil => simp [hleaf]
    | cons next more =>
        rw [FileSystem.kind?_below_eq_none hleaf (List.cons_ne_nil next more)]
        simp
  · rw [hafter.kinds, if_neg]
    exact fun heq => hother (heq ▸ List.prefix_rfl)

/-- A directory can be removed also after part of the tree was swept. -/
theorem swept {within : Place → Prop} (hafter : Swept host within now after)
    (hwithin : ∀ other, within other → place <+: other ∧ other ≠ place) :
    Removable host after path place := by
  refine h.kept hafter.valid hafter.distinct hafter.fewer (fun other hother => ?_)
    (.inl hafter.working)
  refine hafter.outside other fun hinside => ?_
  obtain ⟨hbegins, hne⟩ := hwithin other hinside
  exact hne (hother hbegins)

omit h in
/-- What is in a directory is swept name by name, and its directories are listed. -/
theorem completes_stripListed {depth : Nat} {names : List Name} (h : Removable host now path place)
    (hnames : names.Nodup)
    (hlisted : ∀ name ∈ names, ∃ kind, now.kind? (place ++ [name]) = some kind)
    (hstrip : ∀ {now name}, Path.IsName name →
      Removable host now (Path.join path name) (place ++ [name]) →
      Completes (stripTree host depth (Path.join path name)) now fun directories after =>
        Swept host (place ++ [name] <+: ·) now after ∧
          ∃ rests, directories = rests.map (Path.below (Path.join path name)) ∧
            ListsDirectories now (place ++ [name]) (fun _ => True) rests) :
    Completes (names.mapM fun name => stripTree host depth (Path.join path name)) now
      fun lists after =>
        Swept host (fun other => ∃ name ∈ names, place ++ [name] <+: other) now after ∧
        ∃ rests, lists.flatten = rests.map (Path.below path) ∧
          ListsDirectories now place (fun rest => ∃ name ∈ names, [name] <+: rest) rests := by
  induction names generalizing now with
  | nil =>
      refine ⟨(Swept.refl h.valid h.distinct).of_iff (by simp), [], rfl, .nil, by simp⟩
  | cons name rest ih =>
      obtain ⟨hname, hrest⟩ := List.nodup_cons.mp hnames
      obtain ⟨kind, hthere⟩ := hlisted name List.mem_cons_self
      rw [Completes, List.mapM_cons, ends_bind]
      apply (hstrip (h.valid.isName hthere) (h.join hthere)).ends
      rintro _ middle ⟨hmiddle, first, rfl, hfirst⟩
      have hlisted' : ∀ next ∈ rest, ∃ kind, middle.kind? (place ++ [next]) = some kind := by
        intro next hnext
        rw [hmiddle.outside]
        · exact hlisted next (List.mem_cons_of_mem name hnext)
        · rw [List.prefix_append_right_inj]
          rintro ⟨_, heq⟩
          simp only [List.cons_append, List.nil_append, List.cons.injEq] at heq
          exact hname (heq.1 ▸ hnext)
      have hstill : Removable host middle path place := by
        refine h.swept hmiddle fun other hbegins => ⟨(List.prefix_append _ _).trans hbegins, ?_⟩
        rintro rfl
        have hlonger := hbegins.length_le
        simp at hlonger
      rw [ends_bind]
      apply (ih hstill hrest hlisted').ends
      rintro lists after ⟨hafter, others, hothers, hlists⟩
      refine ⟨(hmiddle.trans hafter).of_iff (by simp), first.map (name :: ·) ++ others, ?_,
        hfirst.cons_entry hname (hlists.congr hmiddle.directories)⟩
      rw [List.flatten_cons, hothers, List.map_append, List.map_map]
      rfl

omit h in
/-- A tree is swept of all that is no directory, and its directories are listed. -/
theorem completes_stripTree {depth : Nat} (h : Removable host now path place)
    (hdepth : host.pathLimit < depth + path.utf8Size) :
    Completes (stripTree host depth path) now fun directories after =>
      Swept host (place <+: ·) now after ∧ ∃ rests, directories = rests.map (Path.below path) ∧
        ListsDirectories now place (fun _ => True) rests := by
  induction depth generalizing now path place with
  | zero => exact absurd h.size (by omega)
  | succ depth ih =>
      by_cases hkind : now.kind? place = some .directory
      · obtain ⟨entries, hentries⟩ := FileSystem.exists_entries_of_kind? hkind
        obtain ⟨above, last, slashed, rfl, -, haims⟩ := h.aims
        have htest : (now.isDirectory host path && !now.isLink host path) = true :=
          haims.isDirectory_and_not_isLink h.valid hentries fun _ => rfl
        simp only [Completes, stripTree, ends_bind, ends_get, htest, if_true]
        apply (completes_listNames h.valid haims hkind).ends
        rintro names now ⟨rfl, hnames, hlisted⟩
        have hentered : ∀ name, name ∈ names.reverse ↔
            ∃ kind, now.kind? (above ++ [last] ++ [name]) = some kind := by
          simpa using hlisted
        have hstripped := h.completes_stripListed (List.nodup_reverse.mpr (hnames h.distinct))
          (fun name hname => (hentered name).mp hname) fun hname hchild => ih hchild (by
            have hlonger := Path.utf8Size_lt_join path hname
            omega)
        apply hstripped.ends
        rintro lists after ⟨hafter, rests, hrests, hlists⟩
        refine ⟨hafter.of_names hkind hentered, [] :: rests, ?_, hlists.of_entries hkind hentered⟩
        rw [hrests]
        rfl
      · apply (h.completes_stripTree_leaf hkind).ends
        rintro directories after ⟨hafter, rfl⟩
        exact ⟨hafter, [], rfl, .of_leaf hkind⟩

end Removable

end Disk

end LineShell
