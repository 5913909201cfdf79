import LineShell.Proofs.FileSystem.Copies
import LineShell.Proofs.FileSystem.Parents

/-!
# Copies laid over what is there

A tree that is copied to a place apart from it, where there are no links, is laid over what is
there: its directories over directories and its files over files, or over nothing, and all else
stays.  Whether the copy comes to its end depends on the two trees, on the lengths of the paths and
on the room for each file only, not on the order that names come in: the first entry that does not
fit stops it, and whichever that is, there is one.
-/

namespace LineShell

/-- What a copy can be laid over: a directory over a directory, a file over a file, and both where
nothing is. -/
def Kind.Covers (kind : Kind) (old : Option Kind) : Prop :=
  match kind with
  | .directory => ∀ there, old = some there → there = .directory
  | .file _ => ∀ there, old = some there → ∃ content, there = .file content
  | .link _ | .pipe => False

theorem Kind.Covers.plain {kind : Kind} {old : Option Kind} (h : kind.Covers old) : kind.Plain := by
  cases kind with
  | directory => exact .inl rfl
  | file content => exact .inr ⟨content, rfl⟩
  | link => exact h.elim
  | pipe => exact h.elim

namespace FileSystem

variable {host : Host} {now middle after last : FileSystem} {source target : Text}
variable {place inner : Place} {name : Name} {names others : List Name}

/-- All that stands under a name in one directory can be copied to another one. -/
def CopyFits (host : Host) (now : FileSystem) (source target : Text) (place inner : Place)
    (name : Name) : Prop :=
  ∀ rest kind, now.kind? (place ++ name :: rest) = some kind →
    Path.Fits host (Path.below source (name :: rest)) ∧
      Path.Fits host (Path.below target (name :: rest)) ∧
      kind.Covers (now.kind? (inner ++ name :: rest)) ∧
      kind.FindsRoom host (inner ++ name :: rest)

/-- What stood under some names in one directory was laid over what stood under them in another one,
and nothing else has changed. -/
structure Overlaid (host : Host) (place inner : Place) (names : List Name)
    (now after : FileSystem) : Prop where
  valid : after.Valid host
  distinct : now.Distinct → after.Distinct
  working : after.working = now.working
  below : ∀ name ∈ names, ∀ rest, after.kind? (inner ++ name :: rest) =
    (now.kind? (place ++ name :: rest)).or (now.kind? (inner ++ name :: rest))
  apart : ∀ other, (∀ name ∈ names, ¬ inner ++ [name] <+: other) →
    after.kind? other = now.kind? other

namespace Overlaid

theorem refl (hnow : now.Valid host) : now.Overlaid host place inner [] now :=
  ⟨hnow, fun h => h, rfl, by simp, fun _ _ => rfl⟩

/-- A file that was written is laid over what was there. -/
theorem of_file {content : Bytes} (hsource : now.kind? (place ++ [name]) = some (.file content))
    (htarget : now.kind? (inner ++ [name]) ≠ some .directory)
    (hafter : now.Changed host (inner ++ [name]) (some (.file content)) after) :
    now.Overlaid host place inner [name] after := by
  refine ⟨hafter.valid, hafter.distinct, hafter.working, fun other hother rest => ?_,
    fun other hother => ?_⟩
  · obtain rfl := List.mem_singleton.mp hother
    rw [hafter.kinds]
    cases rest with
    | nil => rw [if_pos rfl, hsource, Option.some_or]
    | cons next more =>
        have hleaf : now.kind? (place ++ [other]) ≠ some .directory := by simp [hsource]
        have hnone := kind?_below_eq_none hleaf (List.cons_ne_nil next more)
        have hnone' := kind?_below_eq_none htarget (List.cons_ne_nil next more)
        rw [← List.append_cons] at hnone hnone'
        rw [if_neg (by simp), hnone, hnone']
        rfl
  · rw [hafter.kinds, if_neg]
    rintro rfl
    exact hother name List.mem_cons_self List.prefix_rfl

section

variable (h : now.Overlaid host place inner names after)
include h

/-- Names that nothing was copied under hold what they held. -/
theorem outside (hname : name ∉ names) (rest : Place) :
    after.kind? (inner ++ name :: rest) = now.kind? (inner ++ name :: rest) := by
  apply h.apart
  intro other hother hbegins
  rw [List.prefix_append_right_inj, List.cons_prefix_cons] at hbegins
  exact hname (hbegins.1 ▸ hother)

/-- All that a directory holds was laid over the other one once all its names were copied. -/
theorem below_of_listed
    (hnames : ∀ name kind, now.kind? (place ++ [name]) = some kind → name ∈ names) (name : Name)
    (rest : Place) : after.kind? (inner ++ name :: rest) =
      (now.kind? (place ++ name :: rest)).or (now.kind? (inner ++ name :: rest)) := by
  by_cases hname : name ∈ names
  · exact h.below name hname rest
  · have hnone : now.kind? (place ++ [name]) = none := by
      by_contra hsome
      obtain ⟨kind, hkind⟩ := Option.ne_none_iff_exists'.mp hsome
      exact hname (hnames name kind hkind)
    have hbelow := kind?_append_eq_none hnone rest
    rw [← List.append_cons] at hbelow
    rw [h.outside hname, hbelow, Option.none_or]

/-- What stands at a place was there, or was laid there. -/
theorem kind?_cases (other : Place) : after.kind? other = now.kind? other ∨
    ∃ name ∈ names, ∃ rest, other = inner ++ name :: rest ∧
      after.kind? other = now.kind? (place ++ name :: rest) := by
  by_cases hbelow : ∃ name ∈ names, inner ++ [name] <+: other
  · obtain ⟨name, hname, rest, rfl⟩ := hbelow
    rw [← List.append_cons, h.below name hname]
    cases hkind : now.kind? (place ++ name :: rest) with
    | none => exact .inl (Option.none_or)
    | some kind => exact .inr ⟨name, hname, rest, rfl, by rw [hkind, Option.some_or]⟩
  · exact .inl (h.apart other fun name hname hbegins => hbelow ⟨name, hname, hbegins⟩)

theorem linkFree (hlinks : now.LinkFree) : after.LinkFree := by
  intro other link hlink
  rcases h.kind?_cases other with hsame | ⟨name, -, rest, -, hsame⟩
  · exact hlinks _ link (hsame.symm.trans hlink)
  · exact hlinks _ link (hsame.symm.trans hlink)

/-- No directory was covered by anything else. -/
theorem directories (hfits : ∀ name ∈ names, now.CopyFits host source target place inner name)
    {other : Place} (hother : now.kind? other = some .directory) :
    after.kind? other = some .directory := by
  rcases h.kind?_cases other with hsame | ⟨name, hname, rest, rfl, hsame⟩
  · exact hsame.trans hother
  · cases hkind : now.kind? (place ++ name :: rest) with
    | none => rw [h.below name hname, hkind, Option.none_or, hother]
    | some kind =>
        obtain ⟨-, -, hcovers, -⟩ := hfits name hname rest kind hkind
        rw [hother] at hcovers
        cases kind with
        | directory => rw [hsame, hkind]
        | file content =>
            obtain ⟨old, hold⟩ := hcovers _ rfl
            cases hold
        | link => exact hcovers.elim
        | pipe => exact hcovers.elim

theorem at_target : after.kind? inner = now.kind? inner := by
  apply h.apart
  intro name _ hbegins
  have hlength := hbegins.length_le
  simp at hlength

variable (hapart : place.Apart inner)
include hapart

theorem at_source (rest : Place) : after.kind? (place ++ rest) = now.kind? (place ++ rest) :=
  h.apart _ fun name _ => hapart.not_below [name] rest

/-- Other names can be copied as they could. -/
theorem copyFits_iff (hname : name ∉ names) :
    after.CopyFits host source target place inner name ↔
      now.CopyFits host source target place inner name := by
  unfold CopyFits
  simp only [h.at_source hapart, h.outside hname]

/-- More names may follow. -/
theorem trans (h' : after.Overlaid host place inner others last)
    (hdisjoint : ∀ name ∈ names, name ∉ others) :
    now.Overlaid host place inner (names ++ others) last := by
  refine ⟨h'.valid, fun hdistinct => h'.distinct (h.distinct hdistinct),
    h'.working.trans h.working, fun name hname rest => ?_, fun other hother => ?_⟩
  · rcases List.mem_append.mp hname with hname | hname
    · rw [h'.outside (hdisjoint name hname), h.below name hname]
    · rw [h'.below name hname, h.at_source hapart, h.outside fun hmem => hdisjoint name hmem hname]
  · rw [h'.apart other fun name hname => hother name (List.mem_append_right _ hname),
      h.apart other fun name hname => hother name (List.mem_append_left _ hname)]

end

/-- Where a directory was made and all that it holds was laid over what was there, it was copied. -/
theorem of_directory (hapart : place.Apart inner)
    (hkind : now.kind? (place ++ [name]) = some .directory)
    (hmade : now.Changed host (inner ++ [name]) (some .directory) middle)
    (hafter : middle.Overlaid host (place ++ [name]) (inner ++ [name]) names after)
    (hnames : ∀ next kind, middle.kind? (place ++ [name] ++ [next]) = some kind → next ∈ names) :
    now.Overlaid host place inner [name] after := by
  refine ⟨hafter.valid, fun hdistinct => hafter.distinct (hmade.distinct hdistinct),
    hafter.working.trans hmade.working, fun other hother rest => ?_, fun other hother => ?_⟩
  · obtain rfl := List.mem_singleton.mp hother
    cases rest with
    | nil => rw [hafter.at_target, hmade.kinds, if_pos rfl, hkind, Option.some_or]
    | cons next more =>
        rw [List.append_cons, List.append_cons place, hafter.below_of_listed hnames,
          List.append_assoc place, hmade.at_source hapart,
          hmade.at_below (List.cons_ne_nil next more)]
  · have hother := hother name List.mem_cons_self
    rw [hafter.apart other fun next _ hbegins =>
      hother ((List.prefix_append _ [next]).trans hbegins), hmade.kinds, if_neg]
    exact fun heq => hother (heq ▸ List.prefix_rfl)

end Overlaid

end FileSystem

namespace Disk

variable {host : Host} {files now after : FileSystem} {source target : Text} {place inner : Place}
variable {name : Name} {names : List Name}

/-- A directory is being copied to another one apart from it, and both are there. -/
structure Merging (host : Host) (now : FileSystem) (source target : Text) (place inner : Place) :
    Prop where
  valid : now.Valid host
  linkFree : now.LinkFree
  distinct : now.Distinct
  entersSource : now.Enters host source place
  entersTarget : now.Enters host target inner
  apart : place.Apart inner

namespace Merging

variable (h : Merging host now source target place inner)
include h

theorem of_directories (hvalid : after.Valid host) (hlinks : after.LinkFree)
    (hdistinct : after.Distinct) (hworking : after.working = now.working)
    (hkept : ∀ other, now.kind? other = some .directory → after.kind? other = some .directory) :
    Merging host after source target place inner where
  valid := hvalid
  linkFree := hlinks
  distinct := hdistinct
  entersSource := h.entersSource.of_directories h.linkFree hworking hkept
  entersTarget := h.entersTarget.of_directories h.linkFree hworking hkept
  apart := h.apart

theorem overlaid (hafter : now.Overlaid host place inner names after)
    (hfits : ∀ name ∈ names, now.CopyFits host source target place inner name) :
    Merging host after source target place inner :=
  h.of_directories hafter.valid (hafter.linkFree h.linkFree) (hafter.distinct h.distinct)
    hafter.working fun _ => hafter.directories hfits

/-- The same of a directory in each of the two. -/
theorem join (hsource : now.kind? (place ++ [name]) = some .directory)
    (htarget : now.kind? (inner ++ [name]) = some .directory) :
    Merging host now (Path.join source name) (Path.join target name) (place ++ [name])
      (inner ++ [name]) :=
  have hname := h.valid.isName hsource
  ⟨h.valid, h.linkFree, h.distinct, h.entersSource.join h.valid hname hsource,
    h.entersTarget.join h.valid hname htarget, h.apart.append [name] [name]⟩

end Merging

/-- Both paths of a file that is copied fit. -/
theorem ends_copyFile_fits :
    Ends (copyFile host source target) files
      (fun _ _ => Path.Fits host source ∧ Path.Fits host target) (fun _ _ => True) := by
  unfold copyFile
  simp only [ends_bind, ends_get, ends_guard]
  refine ⟨fun _ => trivial, fun _ => ⟨fun _ => trivial, fun _ => ⟨fun _ => trivial, fun _ =>
    ⟨fun _ => trivial, fun _ => ?_⟩⟩⟩⟩
  apply ends_readFile.mono _ fun _ _ _ => trivial
  rintro content _ ⟨-, hnull, found, hlookup⟩
  obtain ⟨spot, hlocate, -⟩ := FileSystem.exists_spot_of_lookup hlookup
  rw [ends_attempt]
  apply ends_changeFile.mono
  · rintro _ _ ⟨_, _, _, hopens, -⟩
    exact ⟨.of_locate hnull hlocate, hopens.aims.fits⟩
  · intro fault _ _
    split
    · trivial
    · split
      · cases ‹Except.error _ = Except.ok _›
      · trivial
      · split <;> trivial
      · trivial

namespace Merging

variable (h : Merging host now source target place inner)
include h

/-- One of its directories is being copied, once that is there as well. -/
theorem made (hkind : now.kind? (place ++ [name]) = some .directory)
    (hmade : now.Changed host (inner ++ [name]) (some .directory) after) :
    Merging host after (Path.join source name) (Path.join target name) (place ++ [name])
      (inner ++ [name]) := by
  have hkept : ∀ other, now.kind? other = some .directory →
      after.kind? other = some .directory := by
    intro other hother
    rw [hmade.kinds]
    split
    · rfl
    · exact hother
  exact (h.of_directories hmade.valid (hmade.linkFree h.linkFree (by simp))
    (hmade.distinct h.distinct) hmade.working hkept).join (hkept _ hkind)
      (by rw [hmade.kinds, if_pos rfl])

/-- What it holds can be copied then as it could be before. -/
theorem copyFits_made_iff (hkind : now.kind? (place ++ [name]) = some .directory)
    (hread : Path.Fits host (Path.join source name))
    (hfits : Path.Fits host (Path.join target name) ∧
      Kind.directory.Covers (now.kind? (inner ++ [name])))
    (hmade : now.Changed host (inner ++ [name]) (some .directory) after) :
    now.CopyFits host source target place inner name ↔
      ∀ next, after.CopyFits host (Path.join source name) (Path.join target name)
        (place ++ [name]) (inner ++ [name]) next := by
  have hsource : ∀ rest, after.kind? (place ++ [name] ++ rest) =
      now.kind? (place ++ [name] ++ rest) := by
    intro rest
    rw [List.append_assoc, hmade.at_source h.apart]
  have htarget : ∀ next more, after.kind? (inner ++ [name] ++ next :: more) =
      now.kind? (inner ++ [name] ++ next :: more) := fun next more =>
    hmade.at_below (List.cons_ne_nil next more)
  constructor
  · intro hall next rest kind hrest
    rw [hsource, ← List.append_cons] at hrest
    rw [htarget, ← List.append_cons]
    exact hall (next :: rest) kind hrest
  · intro hall rest kind hrest
    cases rest with
    | nil =>
        obtain rfl := Option.some.inj (hkind.symm.trans hrest)
        exact ⟨hread, hfits.1, hfits.2, trivial⟩
    | cons next more =>
        have hchild := hall next more kind
        rw [hsource, htarget, ← List.append_cons, ← List.append_cons] at hchild
        exact hchild hrest

/-- A directory is gone into if its path fits. -/
theorem entered_iff {kind : Kind} (hkind : now.kind? (place ++ [name]) = some kind) :
    (now.isDirectory host (Path.join source name) &&
        !now.isLink host (Path.join source name)) = true ↔
      kind = .directory ∧ Path.Fits host (Path.join source name) := by
  have hname := h.valid.isName hkind
  constructor
  · intro htest
    have hthere := (FileSystem.names_join h.entersSource.denotes hname).kind?_eq_directory h.valid
      htest
    rw [Bool.and_eq_true] at htest
    exact ⟨Option.some.inj (hkind.symm.trans hthere), FileSystem.fits_of_isDirectory htest.1⟩
  · rintro ⟨rfl, hfits⟩
    obtain ⟨entries, hentries⟩ := FileSystem.exists_entries_of_kind? hkind
    exact (h.entersSource.aims h.valid hname hfits).isDirectory_and_not_isLink h.valid hentries
      (by simp)

/-- A file in the directory is copied if it can be. -/
theorem ends_copyFile {kind : Kind} (hkind : now.kind? (place ++ [name]) = some kind)
    (hleaf : ¬ (kind = .directory ∧ Path.Fits host (Path.join source name))) :
    Ends (copyFile host (Path.join source name) (Path.join target name)) now
      (fun _ after => now.CopyFits host source target place inner name ∧
        now.Overlaid host place inner [name] after)
      (fun _ _ => ¬ now.CopyFits host source target place inner name) := by
  have hname := h.valid.isName hkind
  have hsize := h.valid.size hkind
  by_cases hfits : now.CopyFits host source target place inner name
  · obtain ⟨hread, hwrite, hcovers, hroom⟩ := hfits [] kind hkind
    cases kind with
    | directory => exact absurd ⟨rfl, hread⟩ hleaf
    | link => exact hcovers.elim
    | pipe => exact hcovers.elim
    | file content =>
        have hne : place ++ [name] ≠ inner ++ [name] := fun heq =>
          h.apart.not_below [name] [name] (heq ▸ List.prefix_rfl)
        apply (completes_copyFile h.valid (h.entersSource.aims h.valid hname hread) hkind
          (h.entersTarget.aims h.valid hname hwrite) hsize hcovers hne hroom).ends
        intro _ after hafter
        refine ⟨hfits, .of_file hkind (fun hthere => ?_) hafter⟩
        obtain ⟨old, hold⟩ := hcovers _ hthere
        cases hold
  · apply ((Disk.ends_copyFile h.valid).and ends_copyFile_fits).mono
    · rintro _ after ⟨⟨found, landing, content, hroom, hfound, hreads, hwrites, -, hold, -⟩, hread,
        hwrite⟩
      have hlink : ∀ other link, now.kind? other ≠ some (.link link) := h.linkFree
      obtain rfl := hreads.unique (FileSystem.denotes_join h.entersSource.denotes hname (hlink _))
      obtain rfl := hwrites.unique (FileSystem.denotes_join h.entersTarget.denotes hname (hlink _))
      refine absurd (fun rest kind' hrest => ?_) hfits
      cases rest with
      | nil =>
          obtain rfl := Option.some.inj (hfound.symm.trans hrest)
          exact ⟨hread, hwrite, hold, hroom⟩
      | cons next more =>
          rw [List.append_cons] at hrest
          have hdirectory := FileSystem.kind?_eq_directory_of_below hrest (List.cons_ne_nil next more)
          rw [hfound] at hdirectory
          cases hdirectory
    · exact fun _ _ _ => hfits

omit h in
/-- The entries of the directory that are no directories are copied if they can be, and the
directories are given back. -/
theorem ends_copyEntries (h : Merging host now source target place inner) (hnames : names.Nodup)
    (hlisted : ∀ name ∈ names, ∃ kind, now.kind? (place ++ [name]) = some kind) :
    Ends (copyEntries host source target names) now
      (fun directories after => ∃ leaves, (leaves ++ directories).Perm names ∧
        (∀ name ∈ directories, now.kind? (place ++ [name]) = some .directory ∧
          Path.Fits host (Path.join source name)) ∧
        (∀ name ∈ leaves, now.CopyFits host source target place inner name) ∧
        now.Overlaid host place inner leaves after)
      (fun _ _ => ¬ ∀ name ∈ names, now.CopyFits host source target place inner name) := by
  induction names generalizing now with
  | nil => exact ⟨[], .refl _, by simp, by simp, .refl h.valid⟩
  | cons name rest ih =>
      obtain ⟨hname, hrest⟩ := List.nodup_cons.mp hnames
      obtain ⟨kind, hkind⟩ := hlisted name List.mem_cons_self
      have hlisted' := fun next hnext => hlisted next (List.mem_cons_of_mem name hnext)
      have htest : (now.isDirectory host (Path.join source name) &&
          !now.isLink host (Path.join source name)) = true ↔
          kind = .directory ∧ Path.Fits host (Path.join source name) := by
        rw [h.entered_iff hkind]
      simp only [copyEntries, ends_bind, ends_get]
      by_cases hdirectory : kind = .directory ∧ Path.Fits host (Path.join source name)
      · rw [if_pos (htest.mpr hdirectory), ends_bind]
        apply (ih h hrest hlisted').mono
        · rintro directories after ⟨leaves, hperm, hparts, hleaves, hafter⟩
          refine ⟨leaves, List.perm_middle.trans (hperm.cons name), ?_, hleaves, hafter⟩
          exact List.forall_mem_cons.mpr ⟨⟨hdirectory.1 ▸ hkind, hdirectory.2⟩, hparts⟩
        · exact fun _ _ hfails hfits => hfails (List.forall_mem_cons.mp hfits).2
      · rw [if_neg fun htrue => hdirectory (htest.mp htrue), ends_bind]
        apply (h.ends_copyFile hkind hdirectory).mono
        · rintro _ middle ⟨hfits, hmiddle⟩
          have hsame : ∀ next, middle.kind? (place ++ [next]) = now.kind? (place ++ [next]) :=
            fun next => hmiddle.at_source h.apart [next]
          have hothers : ∀ next ∈ rest, next ∉ [name] := fun next hnext hmem =>
            hname (List.mem_singleton.mp hmem ▸ hnext)
          have hmerging := h.overlaid hmiddle (List.forall_mem_singleton.mpr hfits)
          apply (ih hmerging hrest (by simpa only [hsame] using hlisted')).mono
          · rintro directories after ⟨leaves, hperm, hparts, hleaves, hafter⟩
            have hmem : ∀ next ∈ leaves, next ∈ rest := fun next hnext =>
              hperm.subset (List.mem_append_left _ hnext)
            simp only [hsame] at hparts
            refine ⟨name :: leaves, hperm.cons name, hparts, List.forall_mem_cons.mpr ⟨hfits, ?_⟩,
              hmiddle.trans h.apart hafter (by simpa using fun hnext => hname (hmem name hnext))⟩
            exact fun next hnext =>
              (hmiddle.copyFits_iff h.apart (hothers next (hmem next hnext))).mp (hleaves next hnext)
          · intro _ _ hfails hall
            refine hfails fun next hnext => (hmiddle.copyFits_iff h.apart (hothers next hnext)).mpr ?_
            exact (List.forall_mem_cons.mp hall).2 next hnext
        · exact fun _ _ hfails hall => hfails (List.forall_mem_cons.mp hall).1

omit h in
/-- The directories in the directory are copied one after the other if they can be. -/
theorem ends_copyDirectories {depth : Nat} (h : Merging host now source target place inner)
    (hnames : names.Nodup)
    (hlisted : ∀ name ∈ names, now.kind? (place ++ [name]) = some .directory ∧
      Path.Fits host (Path.join source name))
    (hcopy : ∀ {now name}, Merging host now source target place inner →
      now.kind? (place ++ [name]) = some .directory → Path.Fits host (Path.join source name) →
      Ends (copyTree host depth (Path.join source name) (Path.join target name)) now
        (fun _ after => now.CopyFits host source target place inner name ∧
          now.Overlaid host place inner [name] after)
        (fun _ _ => ¬ now.CopyFits host source target place inner name)) :
    Ends (names.forM fun name =>
        copyTree host depth (Path.join source name) (Path.join target name)) now
      (fun _ after => (∀ name ∈ names, now.CopyFits host source target place inner name) ∧
        now.Overlaid host place inner names after)
      (fun _ _ => ¬ ∀ name ∈ names, now.CopyFits host source target place inner name) := by
  induction names generalizing now with
  | nil => exact ⟨by simp, .refl h.valid⟩
  | cons name rest ih =>
      obtain ⟨hname, hrest⟩ := List.nodup_cons.mp hnames
      obtain ⟨⟨hkind, hread⟩, hlisted'⟩ := List.forall_mem_cons.mp hlisted
      have hothers : ∀ next ∈ rest, next ∉ [name] := fun next hnext hmem =>
        hname (List.mem_singleton.mp hmem ▸ hnext)
      rw [ends_forM_cons]
      apply (hcopy h hkind hread).mono
      · rintro _ middle ⟨hfits, hmiddle⟩
        have hsame : ∀ next, middle.kind? (place ++ [next]) = now.kind? (place ++ [next]) :=
          fun next => hmiddle.at_source h.apart [next]
        have hmerging := h.overlaid hmiddle (List.forall_mem_singleton.mpr hfits)
        apply (ih hmerging hrest (by simpa only [hsame] using hlisted')).mono
        · rintro _ after ⟨hall, hafter⟩
          refine ⟨List.forall_mem_cons.mpr ⟨hfits, fun next hnext => ?_⟩,
            hmiddle.trans h.apart hafter (by simpa using hname)⟩
          exact (hmiddle.copyFits_iff h.apart (hothers next hnext)).mp (hall next hnext)
        · intro _ _ hfails hall
          refine hfails fun next hnext => (hmiddle.copyFits_iff h.apart (hothers next hnext)).mpr ?_
          exact (List.forall_mem_cons.mp hall).2 next hnext
      · exact fun _ _ hfails hall => hfails (List.forall_mem_cons.mp hall).1

/-- All that the directory holds is copied if it can be. -/
theorem ends_copyListed {depth : Nat} (hne : source ≠ []) (hread : Path.Fits host source)
    (hcopy : ∀ {now name}, Merging host now source target place inner →
      now.kind? (place ++ [name]) = some .directory → Path.Fits host (Path.join source name) →
      Ends (copyTree host depth (Path.join source name) (Path.join target name)) now
        (fun _ after => now.CopyFits host source target place inner name ∧
          now.Overlaid host place inner [name] after)
        (fun _ _ => ¬ now.CopyFits host source target place inner name)) :
    Ends (do
        let names ← listNames host source
        let directories ← copyEntries host source target names
        directories.reverse.forM fun name =>
          copyTree host depth (Path.join source name) (Path.join target name)) now
      (fun _ after => (∀ name, now.CopyFits host source target place inner name) ∧
        ∃ names, now.Overlaid host place inner names after ∧
          ∀ name kind, now.kind? (place ++ [name]) = some kind → name ∈ names)
      (fun _ _ => ¬ ∀ name, now.CopyFits host source target place inner name) := by
  obtain ⟨entries, hentries⟩ := FileSystem.exists_entries_of_kind? h.entersSource.kind?_eq
  have hlookup := FileSystem.Way.lookup_eq h.entersSource h.valid hne hread rfl hentries
  rw [ends_bind]
  apply (completes_listNames_of_lookup hread.hasNull hlookup hentries).ends
  rintro names now ⟨rfl, hnodup, hlisted⟩
  have hnames := hnodup h.distinct
  rw [ends_bind]
  apply (h.ends_copyEntries hnames fun name => (hlisted name).mp).mono
  · rintro directories middle ⟨leaves, hperm, hparts, hleaves, hmiddle⟩
    have hdisjoint := (List.nodup_append.mp (hperm.nodup_iff.mpr hnames)).2.2
    have hothers : ∀ name ∈ directories.reverse, name ∉ leaves := fun name hname hmem =>
      hdisjoint name hmem name (List.mem_reverse.mp hname) rfl
    have hsame : ∀ name, middle.kind? (place ++ [name]) = now.kind? (place ++ [name]) :=
      fun name => hmiddle.at_source h.apart [name]
    have hmerging := h.overlaid hmiddle hleaves
    have hdirectories : directories.reverse.Nodup := List.nodup_reverse.mpr
      (List.nodup_append.mp (hperm.nodup_iff.mpr hnames)).2.1
    apply (hmerging.ends_copyDirectories hdirectories
      (fun name hname => by rw [hsame]; exact hparts name (List.mem_reverse.mp hname)) hcopy).mono
    · rintro _ after ⟨hall, hafter⟩
      have hmem : ∀ name, name ∈ leaves ++ directories.reverse ↔ name ∈ names := by
        intro name
        rw [← hperm.mem_iff, List.mem_append, List.mem_append, List.mem_reverse]
      refine ⟨fun name rest kind hkind => ?_, leaves ++ directories.reverse,
        hmiddle.trans h.apart hafter fun name hleaf hname => hothers name hname hleaf,
        fun name kind hkind => (hmem name).mpr ((hlisted name).mpr ⟨kind, hkind⟩)⟩
      rw [List.append_cons] at hkind
      obtain ⟨there, hthere⟩ := FileSystem.exists_kind?_of_below hkind
      rw [← List.append_cons] at hkind
      rcases List.mem_append.mp ((hmem name).mpr ((hlisted name).mpr ⟨there, hthere⟩)) with hin | hin
      · exact hleaves name hin rest kind hkind
      · exact (hmiddle.copyFits_iff h.apart (hothers name hin)).mp (hall name hin) rest kind hkind
    · intro _ _ hfails hall
      exact hfails fun name hname =>
        (hmiddle.copyFits_iff h.apart (hothers name hname)).mpr (hall name)
  · exact fun _ _ hfails hall => hfails fun name _ => hall name

omit h in
/-- A directory in the directory is copied with all that it holds if it can be. -/
theorem ends_copyTree {depth : Nat} (h : Merging host now source target place inner)
    (hkind : now.kind? (place ++ [name]) = some .directory)
    (hread : Path.Fits host (Path.join source name))
    (hdepth : host.pathLimit < depth + (Path.join source name).utf8Size) :
    Ends (copyTree host depth (Path.join source name) (Path.join target name)) now
      (fun _ after => now.CopyFits host source target place inner name ∧
        now.Overlaid host place inner [name] after)
      (fun _ _ => ¬ now.CopyFits host source target place inner name) := by
  induction depth generalizing now source target place inner name with
  -- Each level makes the path longer, so it does not fit any more before the depth is used up.
  | zero => exact absurd hread.size (by omega)
  | succ depth ih =>
      have hname := h.valid.isName hkind
      rw [copyTree, ends_bind]
      by_cases hfits : Path.Fits host (Path.join target name) ∧
          Kind.directory.Covers (now.kind? (inner ++ [name]))
      · apply (completes_makeDirectories h.valid (h.entersTarget.aims h.valid hname hfits.1)
          (h.valid.size hkind) hfits.2).ends
        intro _ made hmade
        have hmerging := h.made hkind hmade
        have hiff := h.copyFits_made_iff hkind hread hfits hmade
        apply (hmerging.ends_copyListed (Path.join_ne_nil source hname) hread
          fun hchild hkind hread => ih hchild hkind hread ?_).mono
        · rintro _ after ⟨hall, names, hafter, hnames⟩
          exact ⟨hiff.mpr hall, .of_directory h.apart hkind hmade hafter hnames⟩
        · exact fun _ _ hfails hfits => hfails (hiff.mp hfits)
        · have hchild := Path.utf8Size_lt_join (Path.join source name) (hchild.valid.isName hkind)
          omega
      · have hpath : now.Names (Path.join target name) (inner ++ [name]) false :=
          FileSystem.names_join h.entersTarget.denotes hname
        apply ((ends_makeDirectories_visited h.valid h.linkFree).and (ends_makeDirectories_there
          h.valid h.linkFree hpath.placed (hpath.denotes (h.linkFree _)) ?_)).mono
        · rintro _ after ⟨hafter, hdirectory, hthere⟩
          refine absurd ⟨FileSystem.fits_of_isDirectory hdirectory, fun there hkind => ?_⟩ hfits
          exact Option.some.inj ((hafter.kept hkind).symm.trans hthere)
        · rintro _ _ - hall
          exact hfits ⟨(hall [] _ hkind).2.1, (hall [] _ hkind).2.2.1⟩
        · rw [Path.splitLast_join target hname]
          exact hname.naming.2.1

end Merging

end Disk

end LineShell
