import LineShell.Proofs.FileSystem.Copies
import LineShell.Proofs.FileSystem.Performed

/-!
# Copying a tree of files and directories

Where there are no links, a tree that is copied to a place apart from it is there in the end as it
was here, whatever order its names come in, and nothing else has changed.  The copy comes to its end
because each of its paths leads to the entry of its place: no directory on the way is removed
meanwhile, and what is below the target is copied once.
-/

namespace LineShell

/-- What stood under some names at one place stands under them at another one, and nothing else has
changed. -/
structure Grafted (host : Host) (place target : Place) (names : List Name)
    (now after : FileSystem) : Prop where
  plain : after.Plain host
  working : after.working = now.working
  below : ∀ name ∈ names, ∀ rest,
    after.kind? (target ++ name :: rest) = now.kind? (place ++ name :: rest)
  apart : ∀ other, (∀ name ∈ names, ¬ target ++ [name] <+: other) →
    after.kind? other = now.kind? other

/-- What stood at or below a place stands at or below another one, and nothing else has changed. -/
structure Copied (host : Host) (place target : Place) (now after : FileSystem) : Prop where
  plain : after.Plain host
  working : after.working = now.working
  below : ∀ rest, after.kind? (target ++ rest) = now.kind? (place ++ rest)
  apart : ∀ other, ¬ target <+: other → after.kind? other = now.kind? other

theorem Copied.grafted {host : Host} {place target : Place} {name : Name} {now after : FileSystem}
    (h : Copied host (place ++ [name]) (target ++ [name]) now after) :
    Grafted host place target [name] now after := by
  refine ⟨h.plain, h.working, fun other hother rest => ?_, fun other hother => ?_⟩
  · obtain rfl := List.mem_singleton.mp hother
    rw [List.append_cons, List.append_cons place]
    exact h.below rest
  · exact h.apart other (hother name List.mem_cons_self)

namespace Grafted

variable {host : Host} {place target : Place} {names : List Name} {now after : FileSystem}

theorem refl (hnow : now.Plain host) : Grafted host place target [] now now :=
  ⟨hnow, rfl, by simp, fun _ _ => rfl⟩

theorem source (h : Grafted host place target names now after) (hapart : place.Apart target)
    (rest : Place) : after.kind? (place ++ rest) = now.kind? (place ++ rest) :=
  h.apart _ fun name _ => hapart.not_below [name] rest

theorem outside (h : Grafted host place target names now after) {name : Name} (hname : name ∉ names)
    (rest : Place) : after.kind? (target ++ name :: rest) = now.kind? (target ++ name :: rest) := by
  apply h.apart
  intro other hother hbegins
  rw [List.prefix_append_right_inj, List.cons_prefix_cons] at hbegins
  exact hname (hbegins.1 ▸ hother)

/-- A name that was free is free after another one was grafted. -/
theorem free (h : Grafted host place target [name] now after) {next : Name} (hne : next ≠ name)
    (hfree : now.kind? (target ++ [next]) = none) : after.kind? (target ++ [next]) = none := by
  rw [h.outside (by simpa using hne) [], hfree]

theorem at_target (h : Grafted host place target names now after) :
    after.kind? target = now.kind? target := by
  apply h.apart
  intro name _ hbegins
  have hlength := hbegins.length_le
  simp at hlength

/-- Directories are kept where the names were free. -/
theorem directories (h : Grafted host place target names now after)
    (hfree : ∀ name ∈ names, now.kind? (target ++ [name]) = none) {other : Place}
    (hother : now.kind? other = some .directory) : after.kind? other = some .directory := by
  rw [h.apart, hother]
  rintro name hname ⟨rest, rfl⟩
  rw [FileSystem.kind?_append_eq_none (hfree name hname)] at hother
  cases hother

theorem trans {middle : FileSystem} {others : List Name}
    (h : Grafted host place target names now middle)
    (h' : Grafted host place target others middle after) (hapart : place.Apart target)
    (hdisjoint : ∀ name ∈ names, name ∉ others) :
    Grafted host place target (names ++ others) now after := by
  refine ⟨h'.plain, h'.working.trans h.working, fun name hname rest => ?_, fun other hother => ?_⟩
  · rcases List.mem_append.mp hname with hname | hname
    · rw [h'.outside (hdisjoint name hname), h.below name hname]
    · rw [h'.below name hname, h.source hapart]
  · rw [h'.apart other fun name hname => hother name (List.mem_append_right _ hname),
      h.apart other fun name hname => hother name (List.mem_append_left _ hname)]

end Grafted

/-- A file that was written at another place is a copy. -/
theorem copied_of_changed {host : Host} {place target : Place} {now copied : FileSystem}
    {content : Bytes} (hnow : now.Plain host) (hsource : now.kind? place = some (.file content))
    (htarget : now.kind? target ≠ some .directory)
    (hcopied : now.Changed host target (some (.file content)) copied) :
    Copied host place target now copied := by
  refine ⟨hcopied.plain_file hnow, hcopied.working, fun rest => ?_, fun other hother => ?_⟩
  · rw [hcopied.kinds]
    cases rest with
    | nil => rw [if_pos (by simp), List.append_nil, hsource]
    | cons name more =>
        have hleaf : now.kind? place ≠ some .directory := by simp [hsource]
        rw [if_neg (by simp), FileSystem.kind?_below_eq_none htarget (by simp),
          FileSystem.kind?_below_eq_none hleaf (by simp)]
  · rw [hcopied.kinds, if_neg]
    rintro rfl
    exact hother List.prefix_rfl

/-- Where a directory was made and all names were grafted onto it, a directory was copied. -/
theorem copied_of_grafted {host : Host} {place target : Place} {names : List Name}
    {now made after : FileSystem} (hmade : now.Changed host target (some .directory) made)
    (hafter : Grafted host place target names made after) (hapart : place.Apart target)
    (hdirectory : now.kind? place = some .directory) (hbare : now.Bare target)
    (hnames : ∀ name kind, made.kind? (place ++ [name]) = some kind → name ∈ names) :
    Copied host place target now after := by
  have hsource : ∀ rest, made.kind? (place ++ rest) = now.kind? (place ++ rest) := by
    intro rest
    rw [hmade.kinds, if_neg]
    exact fun heq => hapart.left ⟨rest, heq⟩
  refine ⟨hafter.plain, hafter.working.trans hmade.working, fun rest => ?_, fun other hother => ?_⟩
  · cases rest with
    | nil =>
        rw [List.append_nil, List.append_nil, hafter.at_target, hmade.kinds, if_pos rfl, hdirectory]
    | cons name more =>
        by_cases hname : name ∈ names
        · rw [hafter.below name hname, hsource]
        · have hnone : now.kind? (place ++ [name]) = none := by
            by_contra hsome
            obtain ⟨kind, hkind⟩ := Option.ne_none_iff_exists'.mp hsome
            exact hname (hnames name kind ((hsource [name]).trans hkind))
          have habsent := FileSystem.kind?_append_eq_none hnone more
          rw [List.append_assoc, List.singleton_append] at habsent
          rw [habsent, hafter.outside hname, hmade.kinds, if_neg (by simp)]
          exact hbare.kind?_eq_none (List.cons_ne_nil name more)
  · rw [hafter.apart, hmade.kinds, if_neg]
    · exact fun heq => hother (heq ▸ List.prefix_rfl)
    · exact fun name _ hbegins => hother ((List.prefix_append target [name]).trans hbegins)

namespace Disk

variable {host : Host} {now after : FileSystem} {source target path : Text} {place other : Place}

/-- A path leads to the entry at a place, from a directory that is there. -/
structure Finds (host : Host) (files : FileSystem) (path : Text) (place : Place) : Prop where
  rooted : files.Rooted path
  aims : ∃ directory name slashed, place = directory ++ [name] ∧
    name.utf8Size ≤ host.nameLimit ∧ Aims host files .never path directory name slashed

namespace Finds

variable (h : Finds host now path place)
include h

theorem fits : Path.Fits host path := by
  obtain ⟨_, _, _, _, _, haims⟩ := h.aims
  exact haims.fits

variable (hnow : now.Plain host)
include hnow

theorem of_directories (hafter : after.Plain host) (hworking : after.working = now.working)
    (hkept : ∀ other, now.kind? other = some .directory → after.kind? other = some .directory) :
    Finds host after path place := by
  obtain ⟨directory, name, slashed, hplace, hsize, haims⟩ := h.aims
  refine ⟨?_, directory, name, slashed, hplace, hsize, ?_⟩
  · rw [FileSystem.Rooted, hworking]
    exact h.rooted
  · exact haims.of_directories hnow.valid hnow.linkFree hafter.valid hworking hkept

variable (hkind : now.kind? place = some .directory) {name : Name} (hname : Path.IsName name)
  (hfits : Path.Fits host (Path.join path name))
include hkind hname hfits

theorem aims_join : Aims host now .never (Path.join path name) place name false := by
  obtain ⟨directory, last, slashed, rfl, -, haims⟩ := h.aims
  exact haims.join hnow.valid hkind hname hfits

theorem join (hsize : name.utf8Size ≤ host.nameLimit) :
    Finds host now (Path.join path name) (place ++ [name]) :=
  ⟨h.rooted.join hname, place, name, false, rfl, hsize, h.aims_join hnow hkind hname hfits⟩

end Finds

/-- A directory can be copied: there is room, it is found, and so is where it goes, apart from it,
and the paths of all that is in it fit on both sides. -/
structure Copyable (host : Host) (now : FileSystem) (source target : Text) (place other : Place) :
    Prop where
  roomy : host.Roomy
  plain : now.Plain host
  findsSource : Finds host now source place
  findsTarget : Finds host now target other
  apart : place.Apart other
  directory : now.kind? place = some .directory
  fits : ∀ rest kind, now.kind? (place ++ rest) = some kind →
    Path.Fits host (Path.below source rest) ∧ Path.Fits host (Path.below target rest)

namespace Copyable

variable (h : Copyable host now source target place other)
include h

theorem of_directories (hafter : after.Plain host) (hworking : after.working = now.working)
    (hsame : ∀ rest, after.kind? (place ++ rest) = now.kind? (place ++ rest))
    (hkept : ∀ other, now.kind? other = some .directory → after.kind? other = some .directory) :
    Copyable host after source target place other where
  roomy := h.roomy
  plain := hafter
  findsSource := h.findsSource.of_directories h.plain hafter hworking hkept
  findsTarget := h.findsTarget.of_directories h.plain hafter hworking hkept
  apart := h.apart
  directory := hkept _ h.directory
  fits rest kind hkind := h.fits rest kind ((hsame rest).symm.trans hkind)

theorem grafted {names : List Name} (hgrafted : Grafted host place other names now after)
    (hfree : ∀ name ∈ names, now.kind? (other ++ [name]) = none) :
    Copyable host after source target place other :=
  h.of_directories hgrafted.plain hgrafted.working (hgrafted.source h.apart) fun _ =>
    hgrafted.directories hfree

variable (hthere : now.kind? other = some .directory) {name : Name}
include hthere

/-- The directories in a directory can be copied once it is there. -/
theorem join (hkind : now.kind? (place ++ [name]) = some .directory) :
    Copyable host now (Path.join source name) (Path.join target name) (place ++ [name])
      (other ++ [name]) := by
  have hname := h.plain.valid.isName hkind
  have hsize := h.plain.valid.size hkind
  obtain ⟨hfits, hfits'⟩ := h.fits [name] _ hkind
  refine ⟨h.roomy, h.plain, h.findsSource.join h.plain h.directory hname hfits hsize,
    h.findsTarget.join h.plain hthere hname hfits' hsize, h.apart.append _ _, hkind, ?_⟩
  intro rest kind hrest
  rw [List.append_assoc] at hrest
  exact h.fits (name :: rest) kind hrest

/-- A file in a directory is copied. -/
theorem completes_copyFile {content : Bytes}
    (hkind : now.kind? (place ++ [name]) = some (.file content))
    (hfree : now.kind? (other ++ [name]) = none) :
    Completes (copyFile host (Path.join source name) (Path.join target name)) now
      fun _ after => Grafted host place other [name] now after := by
  have hname := h.plain.valid.isName hkind
  have hsize := h.plain.valid.size hkind
  obtain ⟨hfits, hfits'⟩ := h.fits [name] _ hkind
  have haims := h.findsSource.aims_join h.plain h.directory hname hfits
  have haims' := h.findsTarget.aims_join h.plain hthere hname hfits'
  apply (Disk.completes_copyFile h.plain.valid haims hkind haims' hsize (by simp [hfree])
    (fun heq => h.apart.not_below [name] [name] (heq ▸ List.prefix_rfl))
    (h.roomy (other ++ [name]) [] content)).ends
  intro _ after hafter
  exact (copied_of_changed h.plain hkind (by simp [hfree]) hafter).grafted

omit h hthere in
/-- The entries of a directory that are no directories are copied, and the directories are given
back. -/
theorem completes_copyEntries {names : List Name} (h : Copyable host now source target place other)
    (hthere : now.kind? other = some .directory) (hnames : names.Nodup)
    (hlisted : ∀ name ∈ names, ∃ kind, now.kind? (place ++ [name]) = some kind)
    (hfree : ∀ name ∈ names, now.kind? (other ++ [name]) = none) :
    Completes (copyEntries host source target names) now fun directories after =>
      directories = names.filter (fun name => now.kind? (place ++ [name]) = some .directory) ∧
        Grafted host place other
          (names.filter fun name => now.kind? (place ++ [name]) ≠ some .directory) now after := by
  induction names generalizing now with
  | nil => exact ⟨rfl, .refl h.plain⟩
  | cons name rest ih =>
      obtain ⟨hname, hrest⟩ := List.nodup_cons.mp hnames
      obtain ⟨kind, hkind⟩ := hlisted name List.mem_cons_self
      have hlisted' := fun next hnext => hlisted next (List.mem_cons_of_mem name hnext)
      have hfree' := fun next hnext => hfree next (List.mem_cons_of_mem name hnext)
      have haims := h.findsSource.aims_join h.plain h.directory (h.plain.valid.isName hkind)
        (h.fits [name] _ hkind).1
      obtain ⟨node, hnode, rfl⟩ := FileSystem.exists_at?_of_kind? hkind
      simp only [Completes, copyEntries, ends_bind, ends_get,
        haims.isDirectory_and_not_isLink h.plain.valid hnode (by simp), Node.isDirectory_iff]
      by_cases hdirectory : node.kind = .directory
      · rw [if_pos hdirectory, ends_bind]
        apply (ih h hthere hrest hlisted' hfree').ends
        rintro directories after ⟨rfl, hafter⟩
        simp only [hdirectory] at hkind
        refine ⟨by simp [hkind], ?_⟩
        simpa [hkind] using hafter
      · rw [if_neg hdirectory, ends_bind]
        obtain ⟨content, hcontent⟩ := h.plain.exists_file hkind hdirectory
        rw [hcontent] at hkind
        have hcopied := h.completes_copyFile hthere hkind (hfree name List.mem_cons_self)
        apply hcopied.ends
        intro _ middle hmiddle
        have hsame : ∀ next, middle.kind? (place ++ [next]) = now.kind? (place ++ [next]) :=
          fun next => hmiddle.source h.apart [next]
        have hstill : ∀ next ∈ rest, middle.kind? (other ++ [next]) = none := fun next hnext =>
          hmiddle.free (fun heq => hname (heq ▸ hnext)) (hfree' next hnext)
        have hlisted'' : ∀ next ∈ rest, ∃ kind, middle.kind? (place ++ [next]) = some kind :=
          fun next hnext => by rw [hsame]; exact hlisted' next hnext
        have hcopyable := h.grafted hmiddle (by simpa using hfree name List.mem_cons_self)
        apply (ih hcopyable (hmiddle.at_target.trans hthere) hrest hlisted''
          hstill).ends
        rintro directories after ⟨rfl, hafter⟩
        simp only [hsame] at hafter ⊢
        refine ⟨by simp [hkind], ?_⟩
        have hall := hmiddle.trans hafter h.apart (by simp [hname])
        simpa [hkind] using hall

omit h hthere in
/-- The directories in a directory are copied one after the other. -/
theorem completes_copyDirectories {depth : Nat} {names : List Name}
    (h : Copyable host now source target place other)
    (hthere : now.kind? other = some .directory) (hnames : names.Nodup)
    (hlisted : ∀ name ∈ names, now.kind? (place ++ [name]) = some .directory)
    (hfree : ∀ name ∈ names, now.kind? (other ++ [name]) = none)
    (hcopy : ∀ {now name}, Path.IsName name →
      Copyable host now (Path.join source name) (Path.join target name) (place ++ [name])
        (other ++ [name]) → now.kind? (other ++ [name]) = none →
      Completes (copyTree host depth (Path.join source name) (Path.join target name)) now
        fun _ after => Copied host (place ++ [name]) (other ++ [name]) now after) :
    Completes (names.forM fun name =>
        copyTree host depth (Path.join source name) (Path.join target name)) now
      fun _ after => Grafted host place other names now after := by
  induction names generalizing now with
  | nil => exact .refl h.plain
  | cons name rest ih =>
      obtain ⟨hname, hrest⟩ := List.nodup_cons.mp hnames
      have hkind := hlisted name List.mem_cons_self
      have hnone := hfree name List.mem_cons_self
      rw [Completes, ends_forM_cons]
      apply (hcopy (h.plain.valid.isName hkind) (h.join hthere hkind) hnone).ends
      intro _ middle hmiddle
      have hgrafted := hmiddle.grafted
      have hstill : ∀ next ∈ rest, middle.kind? (other ++ [next]) = none := fun next hnext =>
        hgrafted.free (fun heq => hname (heq ▸ hnext)) (hfree next (List.mem_cons_of_mem name hnext))
      have hlisted' : ∀ next ∈ rest, middle.kind? (place ++ [next]) = some .directory := by
        intro next hnext
        rw [hgrafted.source h.apart]
        exact hlisted next (List.mem_cons_of_mem name hnext)
      have hcopyable := h.grafted hgrafted (by simpa using hnone)
      apply (ih hcopyable (hgrafted.at_target.trans hthere) hrest hlisted' hstill).ends
      intro _ after hafter
      exact hgrafted.trans hafter h.apart (by simp [hname])

omit h hthere in
/-- All names in a directory are grafted onto a directory with nothing in it. -/
theorem completes_copyListed {depth : Nat} (h : Copyable host now source target place other)
    (hthere : now.kind? other = some .directory) (hbare : now.Bare other)
    (hcopy : ∀ {now name}, Path.IsName name →
      Copyable host now (Path.join source name) (Path.join target name) (place ++ [name])
        (other ++ [name]) → now.kind? (other ++ [name]) = none →
      Completes (copyTree host depth (Path.join source name) (Path.join target name)) now
        fun _ after => Copied host (place ++ [name]) (other ++ [name]) now after) :
    Completes (do
        let names ← listNames host source
        let directories ← copyEntries host source target names
        directories.reverse.forM fun name =>
          copyTree host depth (Path.join source name) (Path.join target name)) now
      fun _ after => ∃ names, Grafted host place other names now after ∧
        ∀ name kind, now.kind? (place ++ [name]) = some kind → name ∈ names := by
  obtain ⟨above, last, slashed, rfl, -, haims⟩ := h.findsSource.aims
  rw [Completes, ends_bind]
  apply (completes_listNames h.plain.valid haims h.directory).ends
  rintro names now ⟨rfl, hdistinct, hlisted⟩
  have hnames := hdistinct h.plain.distinct
  rw [ends_bind]
  apply (h.completes_copyEntries hthere hnames (fun name => (hlisted name).mp)
    fun name _ => hbare name).ends
  rintro directories copied ⟨hdirectories, hcopied⟩
  have hparts : ∀ name, name ∈ directories.reverse ↔
      name ∈ names ∧ now.kind? (above ++ [last] ++ [name]) = some .directory := by
    simp [hdirectories]
  have hnodup : directories.reverse.Nodup := by
    rw [List.nodup_reverse, hdirectories]
    exact hnames.filter _
  have hthere' := hcopied.at_target.trans hthere
  have hfree : ∀ name ∈ directories.reverse, copied.kind? (other ++ [name]) = none := by
    intro name hname
    have hleft : name ∉ names.filter fun name =>
        now.kind? (above ++ [last] ++ [name]) ≠ some .directory := by
      simpa using fun _ => ((hparts name).mp hname).2
    rw [hcopied.outside hleft []]
    exact hbare name
  have hlisted' : ∀ name ∈ directories.reverse,
      copied.kind? (above ++ [last] ++ [name]) = some .directory := by
    intro name hname
    rw [hcopied.source h.apart]
    exact ((hparts name).mp hname).2
  have hcopyable := h.grafted hcopied fun name _ => hbare name
  apply (hcopyable.completes_copyDirectories hthere' hnodup hlisted' hfree
    fun hname => hcopy hname).ends
  intro _ after hafter
  refine ⟨_, hcopied.trans hafter h.apart fun name hname hother => ?_, fun name kind hkind => ?_⟩
  · have hleaf := of_decide_eq_true (List.mem_filter.mp hname).2
    exact hleaf ((hparts name).mp hother).2
  · have hname := (hlisted name).mpr ⟨kind, hkind⟩
    by_cases hdirectory : now.kind? (above ++ [last] ++ [name]) = some .directory
    · exact List.mem_append_right _ ((hparts name).mpr ⟨hname, hdirectory⟩)
    · exact List.mem_append_left _ (by simpa [hname] using hdirectory)

omit h hthere in
/-- A directory is copied with all that is below it to where nothing is in the way. -/
theorem completes_copyTree {depth : Nat} (h : Copyable host now source target place other)
    (hthere : ∀ kind, now.kind? other = some kind → kind = .directory) (hbare : now.Bare other)
    (hdepth : host.pathLimit < depth + source.utf8Size) :
    Completes (copyTree host depth source target) now
      fun _ after => Copied host place other now after := by
  induction depth generalizing now source target place other with
  -- Each level makes the path longer, so it is too long before the depth is used up.
  | zero => exact absurd h.findsSource.fits.size (by omega)
  | succ depth ih =>
      obtain ⟨above, last, slashed, rfl, hsize, haims⟩ := h.findsTarget.aims
      rw [Completes, copyTree, ends_bind]
      apply (completes_makeDirectories h.plain.valid haims hsize hthere).ends
      intro _ made hmade
      have hkept : ∀ there, now.kind? there = some .directory →
          made.kind? there = some .directory := by
        intro there hdirectory
        rw [hmade.kinds]
        split
        · rfl
        · exact hdirectory
      have hsource : ∀ rest, made.kind? (place ++ rest) = now.kind? (place ++ rest) := by
        intro rest
        rw [hmade.kinds, if_neg]
        exact fun heq => h.apart.left ⟨rest, heq⟩
      have hmadeThere : made.kind? (above ++ [last]) = some .directory := by
        rw [hmade.kinds, if_pos rfl]
      have hmadeBare : made.Bare (above ++ [last]) := by
        intro name
        rw [hmade.kinds, if_neg (by simp)]
        exact hbare name
      have hcopyable := h.of_directories (hmade.plain_directory h.plain) hmade.working hsource hkept
      apply (hcopyable.completes_copyListed hmadeThere hmadeBare
        fun hname hchild hnone => ih hchild ?_ ?_ ?_).ends
      · rintro _ after ⟨names, hafter, hnames⟩
        exact copied_of_grafted hmade hafter h.apart h.directory hbare hnames
      · intro kind hkind
        rw [hnone] at hkind
        cases hkind
      · exact FileSystem.bare_of_kind?_ne (by rw [hnone]; simp)
      · have hlonger := Path.utf8Size_lt_join source hname
        omega

end Copyable

end Disk

end LineShell
