import LineShell.Proofs.FileSystem.Ways

/-!
# Paths that find their entries

A path finds an entry if what precedes its last name leads to a directory and it is not too long.
So it keeps finding the entry as long as what it goes through stays, and names can be joined to it
while there are directories to go into.
-/

namespace LineShell

namespace FileSystem

variable {host : Host} {files after : FileSystem} {path other : Text} {place last : Place}
variable {front rest : List Text}

/-- A path starts from the root, or from a working directory that was not removed. -/
def Rooted (files : FileSystem) (path : Text) : Prop :=
  Path.isAbsolute path = true ∨ files.working.removed = false

theorem Rooted.lasting_eq (h : files.Rooted path) (hpath : Path.isAbsolute path = false) :
    files.working.gone = 0 ∧ files.working.lasting = files.working.place := by
  have hgone : files.working.gone = 0 := by
    simpa [Rooted, hpath, WorkingDirectory.removed] using h
  exact ⟨hgone, by simp [WorkingDirectory.lasting, hgone]⟩

theorem Rooted.kind?_startOf (h : files.Rooted path) (hfiles : files.Valid host) :
    files.kind? (files.startOf path) = some .directory := by
  unfold startOf
  split
  · rfl
  · rename_i hpath
    rw [← (h.lasting_eq (by simpa using hpath)).2]
    exact hfiles.lasting

theorem Rooted.placed (h : files.Rooted path) : files.Placed path :=
  h.imp_right .inl

theorem Rooted.join (h : files.Rooted path) {name : Name} (hname : Path.IsName name) :
    files.Rooted (Path.join path name) := by
  rw [Rooted, Path.isAbsolute_join_of_not_slash hname.not_slash]
  exact h

/-! ### Ways of a path -/

/-- Components lead to a directory from where a path starts. -/
def Way (host : Host) (files : FileSystem) (path : Text) (front : List Text) (place : Place) :
    Prop :=
  if Path.isAbsolute path then Arrives files host.linkLimit [] front place
  else Departs files host.linkLimit files.working.gone front place

namespace Way

variable (h : files.Way host path front place)
include h

theorem kind?_eq : files.kind? place = some .directory := by
  unfold Way at h
  split at h
  · exact h.kind?_last
  · exact h.kind?_last

theorem leads : Leads files (files.startOf path) front place := by
  unfold Way at h
  unfold startOf
  split at h
  · rw [if_pos ‹_›]
    exact h.leads
  · rw [if_neg ‹_›]
    exact h.leads rfl

theorem append (hrest : Arrives files 0 place rest last) :
    files.Way host path (front ++ rest) last := by
  unfold Way at h ⊢
  split at h
  · rw [if_pos ‹_›]
    exact h.append hrest
  · rw [if_neg ‹_›]
    exact h.append hrest

theorem of_isAbsolute (hpath : Path.isAbsolute other = Path.isAbsolute path) :
    files.Way host other front place := by
  rw [Way, hpath]
  exact h

/-- What a way passes through are directories and links. -/
theorem kind?_of_passes {entry : Place} (hpasses : Passes files (files.startOf path) front entry) :
    files.kind? entry = some .directory ∨ ∃ target, files.kind? entry = some (.link target) := by
  unfold Way at h
  unfold startOf at hpasses
  split at h
  · rw [if_pos ‹_›] at hpasses
    exact h.kind?_of_passes hpasses
  · rw [if_neg ‹_›] at hpasses
    exact h.kind?_of_passes rfl hpasses

/-- A way stays as it is while all that it passes through does, also when the working directory is
removed meanwhile. -/
theorem kept
    (hkept : ∀ entry, Passes files (files.startOf path) front entry →
      after.kind? entry = files.kind? entry)
    (hplace : after.kind? place = some .directory)
    (hworking : after.working = files.working ∨ ∃ removed,
      after.working = files.working.afterRemoval removed ∧ after.kind? removed = none) :
    after.Way host path front place := by
  unfold Way at h ⊢
  unfold startOf at hkept
  split at h
  · rename_i hpath
    rw [if_pos hpath] at hkept ⊢
    exact h.kept hkept hplace
  rename_i hpath
  rw [if_neg hpath] at hkept ⊢
  have hsame : after.working = files.working →
      Departs after host.linkLimit after.working.gone front place := by
    intro hsame
    rw [hsame, ← Nat.add_zero files.working.gone]
    exact h.kept rfl (by rw [hsame, Nat.sub_zero, List.take_length]) (by simp) hkept hplace
  rcases hworking with hworking | ⟨removed, hworking, hremoved⟩
  · exact hsame hworking
  by_cases hlasting : files.working.lasting = removed
  · have hgone : after.working.gone = files.working.gone + 1 := by
      rw [hworking, WorkingDirectory.afterRemoval, if_pos hlasting]
    have hnext : after.working.lasting = files.working.lasting.dropLast := by
      rw [hworking, lasting_afterRemoval, if_pos hlasting, hlasting]
    rw [hgone]
    refine h.kept rfl ?_ (fun count hcount => ?_) hkept hplace
    · rw [hnext, List.dropLast_eq_take]
    · obtain rfl : count = 0 := by omega
      rw [Nat.sub_zero, List.take_length, hlasting, hremoved]
  · rw [WorkingDirectory.afterRemoval, if_neg hlasting] at hworking
    exact hsame hworking

/-- Without links, the directories on a way are all that matters. -/
theorem of_directories (hlinks : files.LinkFree) (hworking : after.working = files.working)
    (hkept : ∀ other, files.kind? other = some .directory → after.kind? other = some .directory) :
    after.Way host path front place := by
  refine h.kept (fun entry hpasses => ?_) (hkept _ h.kind?_eq) (.inl hworking)
  rcases h.kind?_of_passes hpasses with hdirectory | ⟨target, hlink⟩
  · rw [hkept entry hdirectory, hdirectory]
  · exact absurd hlink (hlinks entry target)

/-- What is left of a way in a file system with less in it was passed through before. -/
theorem passes_of_fewer {before : FileSystem} (hstart : before.startOf path = files.startOf path)
    (hfewer : ∀ {entry kind}, files.kind? entry = some kind → before.kind? entry = some kind)
    {entry : Place} : Passes before (before.startOf path) front entry ↔
      Passes files (files.startOf path) front entry := by
  rw [hstart]
  unfold Way at h
  unfold startOf
  split at h
  · rw [if_pos ‹_›]
    exact h.passes_of_fewer hfewer
  · rw [if_neg ‹_›]
    exact h.passes_of_fewer rfl hfewer

/-- Empty components at the end of a way make no difference. -/
theorem of_append_empty {empties : List Text} (hfiles : files.Valid host)
    (hempties : empties.all List.isEmpty = true) (hfront : front = rest ++ empties) :
    files.Way host path rest place := by
  subst hfront
  unfold Way at h ⊢
  split at h
  · rw [if_pos ‹_›]
    exact h.of_append_empty rfl hempties
  · rw [if_neg ‹_›]
    exact h.of_append_empty hfiles.lasting hempties

/-- A directory that a path leads to is looked up. -/
theorem lookup_eq (hfiles : files.Valid host) (hne : path ≠ []) (hfits : Path.Fits host path)
    (hpath : Text.splitOn '/' path = front) {node : Node} (hnode : files.at? place = some node) :
    files.lookup host .always path = .ok (place, node) := by
  have hspot : ∃ spot, files.locate host .always path = .ok spot ∧
      ∀ node, files.at? place = some node → files.atSpot host spot = .ok (place, node) := by
    unfold Way at h
    unfold locate
    rw [if_neg (by simpa using hne), if_neg (Nat.not_lt.mpr hfits.size), hpath]
    split at h
    · rw [if_pos ‹_›]
      exact h.exists_spot hfiles
    · rw [if_neg ‹_›]
      exact h.exists_spot hfiles
  obtain ⟨spot, hlocate, hspot⟩ := hspot
  rw [lookup, hlocate]
  exact hspot node hnode

end Way

/-! ### What a path goes through -/

/-- On the way to its last component a path goes through an entry. -/
def GoesThrough (files : FileSystem) (path : Text) (entry : Place) : Prop :=
  Passes files (files.startOf path) (Text.splitOn '/' path).dropLast entry

/-- A path goes through no entry inside of a place. -/
def KeepsOut (files : FileSystem) (path : Text) (place : Place) : Prop :=
  ∀ entry, files.GoesThrough path entry → place <+: entry → entry = place

/-- A path ends in the name of an entry, and what precedes it leads to the directory of the entry. -/
structure Ahead (host : Host) (files : FileSystem) (path : Text) (place : Place) (name : Name)
    (front trailing : List Text) : Prop where
  split : Text.splitOn '/' path = front ++ name :: trailing
  naming : Path.Naming name
  empty : trailing.all List.isEmpty = true
  way : files.Way host path front place

namespace Ahead

variable {name : Name} {trailing : List Text} {entry : Place}
variable (h : Ahead host files path place name front trailing)
include h

theorem goesThrough (hentry : Passes files (files.startOf path) front entry) :
    files.GoesThrough path entry := by
  rw [GoesThrough, h.split, List.dropLast_append_of_ne_nil (List.cons_ne_nil name trailing)]
  exact hentry.append_right _

/-- Nothing else is gone through, but for the entry itself if slashes follow. -/
theorem passes_of_goesThrough
    (hlink : ∀ target, files.kind? (place ++ [name]) = some (.link target) → trailing = [])
    (hentry : files.GoesThrough path entry) :
    Passes files (files.startOf path) front entry ∨ trailing ≠ [] ∧ entry = place ++ [name] := by
  rw [GoesThrough, h.split, List.dropLast_append_of_ne_nil (List.cons_ne_nil name trailing)] at hentry
  cases trailing with
  | nil =>
      rw [List.dropLast_singleton, List.append_nil] at hentry
      exact .inl hentry
  | cons first others =>
      have hempty : ((first :: others).dropLast).all List.isEmpty = true :=
        List.all_eq_true.mpr fun component hmem =>
          List.all_eq_true.mp h.empty component (List.mem_of_mem_dropLast hmem)
      rw [List.dropLast_cons_of_ne_nil (List.cons_ne_nil first others),
        Passes.append_iff h.way.leads,
        Passes.naming_iff h.naming (fun target hkind => by simpa using hlink target hkind)
          hempty] at hentry
      exact hentry.imp_right fun heq => ⟨List.cons_ne_nil first others, heq⟩

/-- A name joined to the path of a directory is the name of the entry in the directory. -/
theorem join (hkind : files.kind? (place ++ [name]) = some .directory) {child : Name}
    (hchild : Path.IsName child) :
    ∃ others, others.all List.isEmpty = true ∧
      Ahead host files (Path.join path child) (place ++ [name]) child (front ++ name :: others)
        [] := by
  obtain ⟨before, hbefore, hsplit⟩ := Path.splitOn_join path hchild.not_slash
  have hothers : ∃ others, others.all List.isEmpty = true ∧ before = front ++ name :: others := by
    rcases hbefore with hbefore | hbefore
    · exact ⟨trailing, h.empty, hbefore.symm.trans h.split⟩
    · have heq := congrArg List.dropLast (hbefore.symm.trans h.split)
      cases trailing with
      | nil =>
          rw [h.split] at hbefore
          have hlast := congrArg List.getLast? hbefore
          simp only [List.getLast?_append, List.getLast?_singleton, Option.some_or,
            Option.some.injEq] at hlast
          exact absurd hlast h.naming.1
      | cons first others =>
          refine ⟨(first :: others).dropLast, List.all_eq_true.mpr fun component hmem =>
            List.all_eq_true.mp h.empty component (List.mem_of_mem_dropLast hmem), ?_⟩
          rw [List.dropLast_concat, List.dropLast_append_of_ne_nil (List.cons_ne_nil name _),
            List.dropLast_cons_of_ne_nil (List.cons_ne_nil first others)] at heq
          exact heq
  obtain ⟨others, hempty, rfl⟩ := hothers
  refine ⟨others, hempty, hsplit, hchild.naming, rfl, ?_⟩
  exact (h.way.append (.enter h.naming hkind (.of_all_empty hkind hempty))).of_isAbsolute
    (Path.isAbsolute_join_of_not_slash hchild.not_slash)

end Ahead

end FileSystem

open FileSystem (Ahead)

namespace Disk

variable {host : Host} {files after : FileSystem} {rule : LinkRule} {path : Text} {place : Place}
variable {name : Name} {slashed : Bool} {front trailing : List Text} {node : Node}

/-! ### Paths that lead to an entry -/

/-- The entry is what the system comes to, unless it is a link to be followed. -/
theorem aims_of_ahead (h : Ahead host files path place name front trailing)
    (hfiles : files.Valid host) (hfits : Path.Fits host path)
    (hrule : ∀ target, files.kind? (place ++ [name]) = some (.link target) →
      rule.follows (!trailing.isEmpty) = false) :
    Aims host files rule path place name (!trailing.isEmpty) := by
  obtain ⟨hsplit, hname, htrailing, hway⟩ := h
  refine ⟨hfits.hasNull, ?_⟩
  have hne : ¬ path.isEmpty = true := by
    intro hempty
    rw [List.isEmpty_iff.mp hempty] at hsplit
    have hall := hname.not_all_empty front trailing
    rw [← hsplit] at hall
    cases hall
  unfold FileSystem.Way at hway
  unfold FileSystem.locate
  rw [if_neg hne, if_neg (Nat.not_lt.mpr hfits.size), hsplit]
  split at hway
  · rw [if_pos ‹_›]
    exact hway.walk_eq hfiles hname htrailing hrule
  · rw [if_neg ‹_›]
    exact hway.fromRemoved_eq hfiles hname htrailing hrule

/-- Under a rule that does not follow its last link a path comes to the entry of its last name. -/
theorem exists_ahead_of_locate (hfiles : files.Valid host)
    (hsplit : Text.splitOn '/' path = front ++ name :: trailing) (hname : Path.Naming name)
    (htrailing : trailing.all List.isEmpty = true)
    (hrule : rule.follows (!trailing.isEmpty) = false) {spot : Spot}
    (h : files.locate host rule path = .ok spot) :
    ∃ place, spot = .entry place name (!trailing.isEmpty) ∧
      Ahead host files path place name front trailing := by
  unfold FileSystem.locate at h
  split at h
  · cases h
  split at h
  · cases h
  rw [hsplit] at h
  have hway : ∃ place, spot = .entry place name (!trailing.isEmpty) ∧
      files.Way host path front place := by
    unfold FileSystem.Way
    split at h
    · simp only [if_pos ‹Path.isAbsolute path = true›]
      exact Walk.exists_arrives_of_walk hname htrailing hrule rfl h
    · simp only [if_neg ‹¬ Path.isAbsolute path = true›]
      exact Walk.exists_departs_of_fromRemoved hname htrailing hrule hfiles.lasting h
  obtain ⟨place, hspot, hway⟩ := hway
  exact ⟨place, hspot, hsplit, hname, htrailing, hway⟩

namespace Aims

theorem fits (haims : Aims host files rule path place name slashed) : Path.Fits host path :=
  .of_locate haims.hasNull haims.locate

variable (haims : Aims host files .never path place name slashed) (hfiles : files.Valid host)
include haims hfiles

theorem exists_ahead : ∃ front trailing, slashed = !trailing.isEmpty ∧
    Ahead host files path place name front trailing := by
  obtain ⟨front, trailing, hsplit, hname, htrailing, rfl, -⟩ :=
    (haims.walks hfiles).exists_front_of_not_followed rfl rfl
  obtain ⟨found, hfound, hahead⟩ :=
    exists_ahead_of_locate hfiles hsplit hname htrailing rfl haims.locate
  obtain rfl : place = found := (Spot.entry.inj hfound).1
  exact ⟨front, trailing, rfl, hahead⟩

/-- Whether a link is followed matters only where there is one. -/
theorem of_not_followed (hrule : ∀ target, files.kind? (place ++ [name]) = some (.link target) →
    rule.follows slashed = false) : Aims host files rule path place name slashed := by
  obtain ⟨front, trailing, rfl, hahead⟩ := haims.exists_ahead hfiles
  exact aims_of_ahead hahead hfiles haims.fits hrule

/-- A path leads to its entry as long as what it goes through stays, also when the working directory
was removed meanwhile. -/
theorem kept (hafter : after.Valid host)
    (hkept : ∀ entry, files.GoesThrough path entry → after.kind? entry = files.kind? entry)
    (hplace : after.kind? place = some .directory)
    (hworking : after.working = files.working ∨ ∃ removed,
      after.working = files.working.afterRemoval removed ∧ after.kind? removed = none) :
    Aims host after .never path place name slashed := by
  obtain ⟨front, trailing, rfl, hahead⟩ := haims.exists_ahead hfiles
  refine aims_of_ahead ⟨hahead.split, hahead.naming, hahead.empty, ?_⟩ hafter haims.fits
    fun _ _ => rfl
  exact hahead.way.kept (fun entry h => hkept entry (hahead.goesThrough h)) hplace hworking

/-- The same without links: the directories on the way are all that matters. -/
theorem of_directories (hlinks : files.LinkFree) (hafter : after.Valid host)
    (hworking : after.working = files.working)
    (hkept : ∀ other, files.kind? other = some .directory → after.kind? other = some .directory) :
    Aims host after .never path place name slashed := by
  obtain ⟨front, trailing, rfl, hahead⟩ := haims.exists_ahead hfiles
  exact aims_of_ahead ⟨hahead.split, hahead.naming, hahead.empty,
    hahead.way.of_directories hlinks hworking hkept⟩ hafter haims.fits fun _ _ => rfl

/-- A name joined to the path of a directory leads to the entry in the directory. -/
theorem join (hkind : files.kind? (place ++ [name]) = some .directory) {child : Name}
    (hchild : Path.IsName child) (hfits : Path.Fits host (Path.join path child)) :
    Aims host files .never (Path.join path child) (place ++ [name]) child false := by
  obtain ⟨front, trailing, -, hahead⟩ := haims.exists_ahead hfiles
  obtain ⟨others, -, hjoined⟩ := hahead.join hkind hchild
  exact aims_of_ahead hjoined hfiles hfits fun _ _ => rfl

/-- On its way further down a path goes through the directory as well. -/
theorem goesThrough_of_join (hkind : files.kind? (place ++ [name]) = some .directory) {child : Name}
    (hchild : Path.IsName child) {entry : Place}
    (hentry : files.GoesThrough (Path.join path child) entry) :
    files.GoesThrough path entry ∨ entry = place ++ [name] := by
  obtain ⟨front, trailing, -, hahead⟩ := haims.exists_ahead hfiles
  obtain ⟨others, hothers, hjoined⟩ := hahead.join hkind hchild
  have hpasses := (hjoined.passes_of_goesThrough (fun _ _ => rfl) hentry).resolve_right
    fun h => h.1 rfl
  rw [FileSystem.startOf_join files path hchild.not_slash, Passes.append_iff hahead.way.leads,
    Passes.naming_iff hahead.naming (by simp [hkind]) hothers] at hpasses
  exact hpasses.imp_left hahead.goesThrough

/-- What a path goes through in a file system with less in it, it went through before. -/
theorem goesThrough_of_fewer {before : FileSystem} (hstart : before.startOf path = files.startOf path)
    (hfewer : ∀ {entry kind}, files.kind? entry = some kind → before.kind? entry = some kind)
    (hslashed : slashed = true → files.kind? (place ++ [name]) = some .directory) {entry : Place}
    (hentry : files.GoesThrough path entry) :
    before.GoesThrough path entry ∨ entry = place ++ [name] := by
  obtain ⟨front, trailing, rfl, hahead⟩ := haims.exists_ahead hfiles
  have hlink : ∀ target, files.kind? (place ++ [name]) = some (.link target) → trailing = [] := by
    intro target hkind
    by_contra hne
    simp [hslashed (by simpa using hne)] at hkind
  refine (hahead.passes_of_goesThrough hlink hentry).imp (fun hpasses => ?_) fun h => h.2
  rw [FileSystem.GoesThrough, hahead.split,
    List.dropLast_append_of_ne_nil (List.cons_ne_nil name trailing)]
  exact ((hahead.way.passes_of_fewer hstart hfewer).mpr hpasses).append_right _

/-- What precedes the last name of a path, if anything does, leads to the directory of its entry. -/
theorem reaches_splitLast (hhead : (Path.splitLast path).1 ≠ []) :
    files.reaches host (Path.splitLast path).1 = true := by
  obtain ⟨front, trailing, -, hahead⟩ := haims.exists_ahead hfiles
  obtain ⟨habsolute, empties, hempties, hpieces⟩ :=
    (Path.splitLast_of_splitOn hahead.split hahead.naming.1 hahead.empty).2.resolve_left
      fun h => hhead h.2
  have hway : files.Way host (Path.splitLast path).1 (Text.splitOn '/' (Path.splitLast path).1)
      place := by
    have hfront := hahead.way.of_isAbsolute habsolute
    rcases hpieces with hpieces | hpieces
    · rw [hpieces]
      exact hfront.append (.of_all_empty hfront.kind?_eq hempties)
    · exact hfront.of_append_empty hfiles hempties hpieces
  have hfits := haims.fits.of_beginning (Path.splitLast_prefix_self path)
  obtain ⟨node, hnode, -⟩ := FileSystem.exists_at?_of_kind? hway.kind?_eq
  have hlookup := hway.lookup_eq hfiles hhead hfits rfl hnode
  rw [FileSystem.reaches, FileSystem.target?_eq_some_iff.mpr ⟨hfits.hasNull, hlookup⟩]
  rfl

end Aims

/-! ### What is found -/

namespace Aims

/-- Where a path leads to an entry that is missing, with links followed, it finds nothing. -/
theorem not_found (haims : Aims host files .always path place name slashed)
    (hnone : files.kind? (place ++ [name]) = none) : files.target? host path = none := by
  have hlookup : ∀ found, files.lookup host .always path ≠ .ok found := by
    rintro ⟨found, node⟩ hfound
    obtain ⟨spot, hspot, hat⟩ := FileSystem.exists_spot_of_lookup hfound
    obtain rfl : Spot.entry place name slashed = spot :=
      Except.ok.inj (haims.locate.symm.trans hspot)
    obtain ⟨rfl, hnode, -⟩ := FileSystem.at?_of_atSpot_entry hat
    rw [FileSystem.at?_eq_none_iff.mpr hnone] at hnode
    cases hnode
  by_contra hsome
  obtain ⟨found, hfound⟩ := Option.ne_none_iff_exists'.mp hsome
  exact hlookup found (FileSystem.target?_eq_some_iff.mp hfound).2

section

variable (haims : Aims host files rule path place name slashed)
include haims

/-- The system finds what stands at an entry, if the path is not spelled as a directory's or a
directory stands there. -/
theorem lookup_eq (hfiles : files.Valid host) (hnode : files.at? (place ++ [name]) = some node)
    (hslashed : slashed = true → node.isDirectory = true) :
    files.lookup host rule path = .ok (place ++ [name], node) := by
  have hfits : ¬ host.nameLimit < name.utf8Size :=
    Nat.not_lt.mpr (hfiles.size (FileSystem.kind?_of_at? hnode))
  rw [FileSystem.lookup, haims.locate]
  cases slashed with
  | false => simp [bind, Except.bind, FileSystem.atSpot, hfits, hnode]
  | true => simp [bind, Except.bind, FileSystem.atSpot, hfits, hnode, hslashed rfl]

end

variable (haims : Aims host files .never path place name slashed) (hfiles : files.Valid host)
include haims hfiles

section

variable (hnode : files.at? (place ++ [name]) = some node)
  (hslashed : slashed = true → node.isDirectory = true)
include hnode hslashed

theorem entry?_eq : files.entry? host path = some (place ++ [name], node) := by
  have hentry : Aims host files .whenSlashed path place name slashed := by
    refine haims.of_not_followed hfiles fun target hkind => ?_
    rw [FileSystem.kind?_of_at? hnode] at hkind
    cases slashed with
    | false => rfl
    | true =>
        have hdirectory := Node.isDirectory_iff.mp (hslashed rfl)
        rw [hdirectory] at hkind
        cases hkind
  exact FileSystem.entry?_eq_some_iff.mpr ⟨haims.hasNull, hentry.lookup_eq hfiles hnode hslashed⟩

theorem hasEntry : files.hasEntry host path = true := by
  rw [FileSystem.hasEntry, haims.entry?_eq hfiles hnode hslashed]
  rfl

theorem target?_eq (hlink : ∀ target, files.kind? (place ++ [name]) ≠ some (.link target)) :
    files.target? host path = some (place ++ [name], node) := by
  have htarget : Aims host files .always path place name slashed :=
    haims.of_not_followed hfiles fun target hkind => absurd hkind (hlink target)
  exact FileSystem.target?_eq_some_iff.mpr
    ⟨haims.hasNull, htarget.lookup_eq hfiles hnode hslashed⟩

/-- A tree to go into is told by what stands at the entry. -/
theorem isDirectory_and_not_isLink :
    (files.isDirectory host path && !files.isLink host path) = node.isDirectory := by
  have hentry := haims.entry?_eq hfiles hnode hslashed
  by_cases hlink : ∃ target, node = .link target
  · obtain ⟨target, rfl⟩ := hlink
    rw [FileSystem.isLink, hentry, Bool.not_true, Bool.and_false]
    rfl
  · have htarget := haims.target?_eq hfiles hnode hslashed fun target hkind =>
      hlink ⟨target, Option.some.inj (hnode.symm.trans (FileSystem.at?_link_iff.mpr hkind))⟩
    rw [FileSystem.isDirectory, FileSystem.isLink, htarget, hentry]
    cases node with
    | link target => exact absurd ⟨target, rfl⟩ hlink
    | _ => rfl

end

/-- Nothing is found where nothing stands. -/
theorem target?_eq_none (hnone : files.kind? (place ++ [name]) = none) :
    files.target? host path = none :=
  (haims.of_not_followed hfiles (by simp [hnone])).not_found hnone

end Aims

end Disk

end LineShell
