import LineShell.Proofs.FileSystem.Alike
import LineShell.Proofs.FileSystem.Overlays
import LineShell.Proofs.FileSystem.WellFormed

/-!
# Copies to places apart

Where there are no links and the target of a copy is apart from its source, the copy lays the source
over what is at the target, and all else stays but for the missing directories that the destination
is spelled with.  The parents of the target are made first, then the target itself if a directory is
copied, and the source is laid over it in the end.  Two machines of the same limits and the same
room make the same directories, and whether all that is in the source can be copied does not depend
on the order of its names, so the copy comes to its end on both of them or on neither.
-/

namespace LineShell

/-! ### Going up from what is there -/

/-- Components that only go up from directories pass nothing but directories, and what lies on the
way down to where they lead. -/
theorem Leads.stands_of_ups {files : FileSystem} (hlinks : files.LinkFree) {start last : Place}
    {components : List Text} (h : Leads files start components last)
    (hups : ∀ front rest here, components = front ++ Path.up :: rest →
      Leads files start front here → files.kind? here = some .directory) {entry : Place}
    (hentry : entry <+: start ∨ entry ∈ Walk.visited start components) :
    entry <+: last ∨ files.kind? entry = some .directory := by
  induction h with
  | done => exact .inl (hentry.resolve_right (by simp [Walk.visited]))
  | skip hcomponent _ ih =>
      rw [Walk.visited_of_skipped hcomponent] at hentry
      refine ih (fun front rest here hsplit hfront => ?_) hentry
      exact hups (_ :: front) rest here (by rw [hsplit, List.cons_append]) (.skip hcomponent hfront)
  | up _ ih =>
      rw [Walk.visited_up] at hentry
      rcases hentry with hbegins | hvisited
      · have hstart := hups [] _ _ rfl .done
        exact .inr <| FileSystem.kind?_directory_of_prefix hstart hbegins
      · refine ih (fun front rest here hsplit hfront => ?_) (.inr hvisited)
        exact hups (_ :: front) rest here (by rw [hsplit, List.cons_append]) (.up hfront)
  | enter hname hlink _ ih =>
      rw [Walk.visited_of_naming hname, List.mem_cons, ← or_assoc] at hentry
      refine ih (fun front rest here hsplit hfront => ?_) (hentry.imp_left ?_)
      · exact hups (_ :: front) rest here (by rw [hsplit, List.cons_append])
          (.enter hname hlink hfront)
      · rintro (hbegins | rfl)
        · exact hbegins.trans (List.prefix_append _ _)
        · exact List.prefix_rfl
  | follow _ hkind => exact absurd hkind (hlinks _ _)

/-- What lies on the way down to a place is the place, or above its last name. -/
theorem Place.eq_or_prefix_dropLast {place entry : Place} (h : entry <+: place) :
    entry = place ∨ entry <+: place.dropLast := by
  rcases List.eq_nil_or_concat place with rfl | ⟨front, name, rfl⟩
  · exact .inl (List.prefix_nil.mp h)
  · rw [List.concat_eq_append] at h ⊢
    rw [List.dropLast_concat]
    exact List.prefix_concat_iff.mp h

namespace FileSystem

variable {host : Host} {files now made after : FileSystem} {source destination path : Text}
variable {place inner : Place} {named : Place → Prop}

/-- Wherever a path goes up, it does so from a directory. -/
def UpsStand (files : FileSystem) (path : Text) : Prop :=
  ∀ front rest here, Text.splitOn '/' path = front ++ Path.up :: rest →
    Leads files (files.startOf path) front here → files.kind? here = some .directory

/-- A path that never goes up does not do so from anywhere. -/
theorem upsStand_of_not_up (hup : Path.up ∉ Text.splitOn '/' path) : files.UpsStand path := by
  intro front rest here hsplit
  exact absurd (by simp [hsplit]) hup

/-- Where a destination goes up from directories only, nothing but its last directories can be
missing on the way to the target. -/
theorem stands_of_mem_visited_targetFor (hfiles : files.Valid host) (hlinks : files.LinkFree)
    (hrooted : files.Rooted (Disk.targetFor files host source destination))
    (htarget : files.Denotes (Disk.targetFor files host source destination) inner)
    (hups : files.UpsStand destination) {entry : Place}
    (hentry : entry ∈ files.visited (Disk.targetFor files host source destination)) :
    entry <+: inner ∨ files.kind? entry = some .directory := by
  rcases Disk.mem_visited_targetFor hlinks htarget hentry with hvisited | rfl
  · unfold Disk.targetFor at hrooted htarget
    split at hrooted
    · rename_i hdirectory
      have hlast := Path.not_slash_lastComponent (Path.normalize source)
      obtain ⟨above, habove⟩ : ∃ above, files.Denotes destination above := hlinks.exists_leads _ _
      rw [Rooted, Path.isAbsolute_join_of_not_slash hlast] at hrooted
      have hkind := kind?_of_isDirectory hfiles (Rooted.placed hrooted) habove hdirectory
      rcases habove.stands_of_ups hlinks hups (.inr hvisited) with hbegins | hstands
      · exact .inr <| kind?_directory_of_prefix hkind hbegins
      · exact .inr hstands
    · rename_i hdirectory
      rw [if_neg hdirectory] at htarget
      exact htarget.stands_of_ups hlinks hups (.inr hvisited)
  · exact .inl List.prefix_rfl

/-- What is missing on the way down to the target is spelled in the destination. -/
theorem mem_visited_of_missing (hfiles : files.Valid host) (hlinks : files.LinkFree)
    (hrooted : files.Rooted (Disk.targetFor files host source destination))
    (htarget : files.Denotes (Disk.targetFor files host source destination) inner) {entry : Place}
    (hbegins : entry <+: inner) (hne : entry ≠ inner) (hnone : files.kind? entry = none) :
    entry ∈ files.visited destination := by
  rcases Walk.mem_visited_of_prefix hlinks htarget hbegins with hstart | hvisited
  · have hkind := kind?_directory_of_prefix (hrooted.kind?_startOf hfiles) hstart
    rw [hnone] at hkind
    cases hkind
  · exact (Disk.mem_visited_targetFor hlinks htarget hvisited).resolve_right hne

/-! ### The tree after a copy -/

/-- What stood at or below a place, nothing but directories and files, was laid over what stood at
and below another one.  All else is as it was, but for new directories at places that were named. -/
structure CopiedOver (files : FileSystem) (named : Place → Prop) (place inner : Place)
    (after : FileSystem) : Prop where
  working : after.working = files.working
  plain : ∀ rest kind, files.kind? (place ++ rest) = some kind → kind.Plain
  target : ∀ rest, after.kind? (inner ++ rest) =
    (files.kind? (place ++ rest)).or (files.kind? (inner ++ rest))
  source : ∀ rest, after.kind? (place ++ rest) = files.kind? (place ++ rest)
  elsewhere : ∀ other, ¬ inner <+: other → after.kind? other = files.kind? other ∨
    files.kind? other = none ∧ after.kind? other = some .directory ∧ named other

namespace CopiedOver

section

variable {middle : FileSystem} {target : Text} {names : List Name} (hapart : place.Apart inner)
  (hnamed : ∀ entry, entry <+: inner → entry ≠ inner → files.kind? entry = none → named entry)
include hapart hnamed

/-- A file was written at its target once all above that was there. -/
theorem of_file {content : Bytes} (hmiddle : files.Extended host (· <+: inner.dropLast) middle)
    (hkind : files.kind? place = some (.file content)) (hworking : after.working = middle.working)
    (hafter : ∀ other, after.kind? other =
      if other = inner then some (.file content) else middle.kind? other) :
    files.CopiedOver named place inner after := by
  have hbelow : ∀ {rest}, rest ≠ [] → files.kind? (place ++ rest) = none :=
    fun hrest => kind?_below_eq_none (by simp [hkind]) hrest
  refine ⟨hworking.trans hmiddle.working, fun rest kind hrest => ?_, fun rest => ?_, fun rest => ?_,
    fun other hother => ?_⟩
  · by_cases hnil : rest = []
    · rw [hnil, List.append_nil, hkind] at hrest
      exact .inr ⟨content, (Option.some.inj hrest).symm⟩
    · rw [hbelow hnil] at hrest
      cases hrest
  · by_cases hnil : rest = []
    · rw [hnil, List.append_nil, List.append_nil, hafter, if_pos rfl, hkind, Option.some_or]
    · rw [hbelow hnil, Option.none_or, hafter, if_neg (by simpa using hnil)]
      apply hmiddle.kind?_eq
      intro hbegins
      have hlength := (hbegins.trans (List.dropLast_prefix inner)).length_le
      exact hnil (by simpa using hlength)
  · have hne : place ++ rest ≠ inner := fun heq => hapart.left (heq ▸ List.prefix_append place rest)
    rw [hafter, if_neg hne]
    apply hmiddle.kind?_eq
    intro hbegins
    exact hapart.left (((List.prefix_append place rest).trans hbegins).trans
      (List.dropLast_prefix inner))
  · have hne : other ≠ inner := fun heq => hother (heq ▸ List.prefix_rfl)
    rw [hafter, if_neg hne]
    refine (hmiddle.kinds other).imp_right fun ⟨hbegins, hnone, hmade⟩ => ⟨hnone, hmade, ?_⟩
    exact hnamed other (hbegins.trans (List.dropLast_prefix inner)) hne hnone

/-- All that a directory holds was laid over its target once that was there. -/
theorem of_directory (hmade : files.Extended host (· <+: inner) made)
    (hkind : files.kind? place = some .directory) (hthere : made.kind? inner = some .directory)
    (hfits : ∀ name, made.CopyFits host source target place inner name)
    (hafter : made.Overlaid host place inner names after)
    (hnames : ∀ name kind, made.kind? (place ++ [name]) = some kind → name ∈ names) :
    files.CopiedOver named place inner after := by
  have hsource : ∀ rest, made.kind? (place ++ rest) = files.kind? (place ++ rest) := fun rest =>
    hmade.kind?_eq fun hbegins => hapart.left ((List.prefix_append place rest).trans hbegins)
  refine ⟨hafter.working.trans hmade.working, fun rest kind hrest => ?_, fun rest => ?_,
    fun rest => (hafter.at_source hapart rest).trans (hsource rest), fun other hother => ?_⟩
  · cases rest with
    | nil =>
        rw [List.append_nil, hkind] at hrest
        exact .inl (Option.some.inj hrest).symm
    | cons name more =>
        rw [← hsource] at hrest
        exact (hfits name more kind hrest).2.2.1.plain
  · cases rest with
    | nil => rw [List.append_nil, List.append_nil, hafter.at_target, hthere, hkind, Option.some_or]
    | cons name more =>
        rw [hafter.below_of_listed hnames, hsource, hmade.kind?_eq fun hbegins => ?_]
        have hlength := hbegins.length_le
        simp at hlength
  · rw [hafter.apart other fun name _ hbegins =>
      hother ((List.prefix_append inner [name]).trans hbegins)]
    refine (hmade.kinds other).imp_right fun ⟨hbegins, hnone, hdirectory⟩ => ⟨hnone, hdirectory, ?_⟩
    exact hnamed other hbegins (fun heq => hother (heq ▸ List.prefix_rfl)) hnone

end

end CopiedOver

end FileSystem

namespace Disk

variable {host other : Host} {files made after : FileSystem} {source target destination : Text}
variable {place inner : Place} {named : Place → Prop}

/-- What is laid over a directory on two machines is the same tree. -/
theorem sameTree_of_overlaid {last : FileSystem} {names others : List Name}
    (hafter : made.Overlaid host place inner names after)
    (hnames : ∀ name kind, made.kind? (place ++ [name]) = some kind → name ∈ names)
    (hlast : made.Overlaid other place inner others last)
    (hothers : ∀ name kind, made.kind? (place ++ [name]) = some kind → name ∈ others) :
    after.SameTree last := by
  intro entry
  rcases Place.below_or_not inner entry with ⟨name, rest, rfl⟩ | hapart
  · rw [hafter.below_of_listed hnames, hlast.below_of_listed hothers]
  · rw [hafter.apart entry fun name _ => hapart name, hlast.apart entry fun name _ => hapart name]

/-- A depth over the limit for paths is enough to copy all that a directory holds. -/
theorem Merging.ends_copyAll (h : Merging host made source target place inner) (hne : source ≠ [])
    (hread : Path.Fits host source) (depth : Nat) (hdepth : host.pathLimit < depth) :
    Ends (do
        let names ← listNames host source
        let directories ← copyEntries host source target names
        directories.reverse.forM fun name =>
          copyTree host depth (Path.join source name) (Path.join target name)) made
      (fun _ after => (∀ name, made.CopyFits host source target place inner name) ∧
        ∃ names, made.Overlaid host place inner names after ∧
          ∀ name kind, made.kind? (place ++ [name]) = some kind → name ∈ names)
      (fun _ _ => ¬ ∀ name, made.CopyFits host source target place inner name) :=
  h.ends_copyListed hne hread fun hchild hkind hfits =>
    hchild.ends_copyTree hkind hfits (Nat.lt_add_right _ hdepth)

section Alike

variable (halike : host.Alike other)
include halike

theorem Merging.alike (h : Merging host made source target place inner) :
    Merging other made source target place inner := by
  have henters : ∀ {path entry}, made.Enters host path entry → made.Enters other path entry := by
    intro path entry hpath
    unfold FileSystem.Enters FileSystem.Way at hpath ⊢
    rw [halike.linkLimit]
    exact hpath
  exact ⟨halike.valid h.valid, h.linkFree, h.distinct, henters h.entersSource,
    henters h.entersTarget, h.apart⟩

theorem copyFits_alike_iff {name : Name} :
    made.CopyFits other source target place inner name ↔
      made.CopyFits host source target place inner name := by
  have hfits : ∀ path, Path.Fits other path ↔ Path.Fits host path := fun _ =>
    ⟨halike.symm.fits, halike.fits⟩
  have hroom : ∀ (kind : Kind) entry, kind.FindsRoom other entry ↔ kind.FindsRoom host entry := by
    intro kind entry
    cases kind <;> simp only [Kind.FindsRoom, halike.breaksOff]
  simp only [FileSystem.CopyFits, hfits, hroom]

variable (hvalid : files.Valid host) (hlinks : files.LinkFree) (hdistinct : files.Distinct)
  (htarget : files.Denotes target inner) (hapart : place.Apart inner)
include hvalid hlinks hdistinct htarget hapart

/-- Where the way to the target is there, the target is made and all of a directory laid over it, on
both machines or on neither. -/
theorem endsAlike_copyTree (hfits : Path.Fits host source) (hne : source ≠ [])
    (hsource : files.Enters host source place) (hrooted : files.Rooted target)
    (hway : ∀ entry ∈ files.visited target, entry = inner ∨ files.kind? entry = some .directory) :
    EndsAlike (copyTree host (depthLimit host) source target)
      (copyTree other (depthLimit other) source target) files
      (fun _ after => ∃ made names, files.Extended host (· = inner) made ∧
        made.kind? inner = some .directory ∧
        (∀ name, made.CopyFits host source target place inner name) ∧
        made.Overlaid host place inner names after ∧
        ∀ name kind, made.kind? (place ++ [name]) = some kind → name ∈ names) := by
  rw [depthLimit, depthLimit, halike.pathLimit, copyTree, copyTree, halike.makeDirectories_eq]
  apply EndsAlike.bind
  apply ((ends_makeDirectories_visited hvalid hlinks).and (ends_makeDirectories_stands hvalid hlinks
    hrooted htarget hway)).mono _ fun _ _ _ => trivial
  rintro _ made ⟨hmade, hthere⟩
  have hmade : files.Extended host (· = inner) made := by
    apply hmade.mono
    intro entry hentry hnone
    refine (hway entry hentry).resolve_right fun hkind => ?_
    rw [hnone] at hkind
    cases hkind
  have hkept : ∀ entry, files.kind? entry = some .directory → made.kind? entry = some .directory :=
    fun _ hkind => hmade.kept hkind
  have hvisited : ∀ entry ∈ made.visited target, made.kind? entry = some .directory := by
    intro entry hentry
    rw [FileSystem.visited_congr hmade.working] at hentry
    rcases hway entry hentry with rfl | hkind
    · exact hthere
    · exact hmade.kept hkind
  have hstart : made.Rooted target := by
    rw [FileSystem.Rooted, hmade.working]
    exact hrooted
  have hmerging : Merging host made source target place inner :=
    ⟨hmade.valid, hmade.linkFree hlinks, hmade.distinct hdistinct,
      hsource.of_directories hlinks hmade.working hkept,
      .of_visited hmade.valid (hmade.linkFree hlinks) hstart (hmade.denotes hlinks htarget) hvisited,
      hapart⟩
  have hhost := hmerging.ends_copyAll hne hfits (host.pathLimit + 1) (by omega)
  have hother := (hmerging.alike halike).ends_copyAll hne (halike.fits hfits) (host.pathLimit + 1)
    (by rw [halike.pathLimit]; omega)
  simp only [copyFits_alike_iff halike] at hother
  apply (EndsAlike.of_ends hhost hother ?_).mono
  · rintro _ after ⟨hall, names, hafter, hnames⟩
    exact ⟨made, names, hmade, hthere, hall, hafter, hnames⟩
  · rintro after last ⟨names, hafter, hnames⟩ ⟨others, hlast, hothers⟩
    exact sameTree_of_overlaid hafter hnames hlast hothers

variable (hways : files.Rooted target → ∀ entry ∈ files.visited target,
    entry <+: inner ∨ files.kind? entry = some .directory)
  (hnamed : files.Rooted target → ∀ entry, entry <+: inner → entry ≠ inner →
    files.kind? entry = none → named entry)
include hnamed

include hways in
/-- A directory is laid over its target once the parents of that were made. -/
theorem endsAlike_copyTo_directory (hdirectory : files.isDirectory host source = true)
    (hrooted : files.Rooted source) (hsource : files.Denotes source place) :
    EndsAlike
      (do ensureParent host target; copyTree host (depthLimit host) source target)
      (do ensureParent other target; copyTree other (depthLimit other) source target) files
      (fun _ after => files.CopiedOver named place inner after) := by
  obtain ⟨found, henters⟩ := FileSystem.Enters.of_isDirectory hvalid hrooted hdirectory
  obtain rfl := henters.denotes.unique hsource
  have hne : source ≠ [] := by
    rintro rfl
    have hnowhere : files.isDirectory host [] = false := rfl
    rw [hnowhere] at hdirectory
    cases hdirectory
  rw [halike.ensureParent_eq]
  apply EndsAlike.bind
  apply (ends_ensureParent hvalid hlinks htarget).mono _ fun _ _ _ => trivial
  rintro _ middle ⟨htargeted, habove, hmiddle⟩
  have hway : ∀ entry ∈ middle.visited target,
      entry = inner ∨ middle.kind? entry = some .directory := by
    intro entry hentry
    rw [FileSystem.visited_congr hmiddle.working] at hentry
    rcases hways htargeted entry hentry with hbegins | hkind
    · exact (Place.eq_or_prefix_dropLast hbegins).imp_right fun hbegins =>
        FileSystem.kind?_directory_of_prefix habove hbegins
    · exact .inr (hmiddle.kept hkind)
  have hstart : middle.Rooted target := by
    rw [FileSystem.Rooted, hmiddle.working]
    exact htargeted
  apply (endsAlike_copyTree halike hmiddle.valid (hmiddle.linkFree hlinks)
    (hmiddle.distinct hdistinct) (hmiddle.denotes hlinks htarget) hapart
    (FileSystem.fits_of_isDirectory hdirectory) hne
    (henters.of_directories hlinks hmiddle.working fun _ h => hmiddle.kept h) hstart hway).mono
  rintro _ after ⟨made, names, hmade, hthere, hfits, hafter, hnames⟩
  have hextended : files.Extended host (· <+: inner) made :=
    (hmiddle.mono fun entry hbegins _ => hbegins.trans (List.dropLast_prefix inner)).trans
      (hmade.mono fun entry heq _ => heq ▸ List.prefix_rfl)
  exact .of_directory hapart (hnamed htargeted) hextended henters.kind?_eq hthere hfits hafter hnames

omit hdistinct in
/-- Anything else is a file, and is written at its target once the parents of that were made. -/
theorem endsAlike_copyTo_file (hsource : files.Denotes source place) :
    EndsAlike (do ensureParent host target; copyFile host source target)
      (do ensureParent other target; copyFile other source target) files
      (fun _ after => files.CopiedOver named place inner after) := by
  rw [halike.ensureParent_eq, halike.copyFile_eq]
  apply EndsAlike.same
  rw [ends_bind]
  apply (ends_ensureParent hvalid hlinks htarget).mono _ fun _ _ _ => trivial
  rintro _ middle ⟨htargeted, -, hmiddle⟩
  apply (ends_copyFile hmiddle.valid).mono _ fun _ _ _ => trivial
  rintro _ after ⟨found, landing, content, -, hfound, hreads, hwrites, -, -, hworking, -, hkinds⟩
  obtain rfl := hreads.unique (hmiddle.denotes hlinks hsource)
  obtain rfl := hwrites.unique (hmiddle.denotes hlinks htarget)
  have houtside : ¬ found <+: landing.dropLast := fun hbegins =>
    hapart.left (hbegins.trans (List.dropLast_prefix landing))
  rw [hmiddle.kind?_eq houtside] at hfound
  exact .of_file hapart (hnamed htargeted) hmiddle hfound hworking hkinds

include hways in
/-- A copy to a target ends alike on both machines and lays the source over what is there. -/
theorem endsAlike_copyTo (hsource : files.Denotes source place) :
    EndsAlike (copyTo host source target) (copyTo other source target) files
      (fun _ after => files.CopiedOver named place inner after) := by
  unfold copyTo
  apply EndsAlike.bind
  rw [ends_get]
  simp only [halike.isDirectory_eq]
  split
  · rename_i hdirectory
    apply EndsAlike.bind
    apply (ends_isWithin_denotes hvalid hlinks hsource htarget).mono _ fun _ _ _ => trivial
    rintro within _ ⟨rfl, hrooted, -, hwithin⟩
    have houtside : ¬ within = true := fun h => hapart.left (hwithin.mp h).2
    rw [if_neg houtside, if_neg houtside]
    exact endsAlike_copyTo_directory halike hvalid hlinks hdistinct htarget hapart hways hnamed
      hdirectory hrooted hsource
  · exact endsAlike_copyTo_file halike hvalid hlinks htarget hapart hnamed hsource

end Alike

/-- A copy is a copy to its target, if the source is there. -/
theorem ends_copy_target :
    Ends (copy host source destination) files
      (fun value after => files.hasEntry host source = true ∧
        value = targetFor files host source destination ∧
        copyTo host source value files = .ok () after)
      (fun _ _ => files.hasEntry host source = true → ∀ after,
        copyTo host source (targetFor files host source destination) files ≠ .ok () after) := by
  simp only [copy, ends_bind, ends_get, ends_guard, ends_attempt]
  refine ⟨fun hentry h => absurd h (by simpa using hentry), fun hentry => ?_⟩
  apply (Gives.any _ files trivial).with_run.mono
  · rintro _ after ⟨-, hrun⟩
    exact ⟨by simpa using hentry, rfl, hrun⟩
  · rintro fault middle ⟨-, hrun⟩
    have hfails : ∀ after,
        copyTo host source (targetFor files host source destination) files ≠ .ok () after := by
      simp [hrun]
    split
    · exact fun _ => hfails
    · split
      · cases ‹Except.error _ = Except.ok _›
      · exact fun _ => hfails
      · exact fun _ => hfails

theorem copy_eq_ok_iff {value : Text} :
    copy host source destination files = .ok value after ↔
      files.hasEntry host source = true ∧ value = targetFor files host source destination ∧
        copyTo host source value files = .ok () after := by
  constructor
  · exact ends_copy_target.of_ok
  · rintro ⟨hentry, rfl, hrun⟩
    cases hcopy : copy host source destination files with
    | ok value last =>
        obtain ⟨-, rfl, hlast⟩ := ends_copy_target.of_ok hcopy
        cases hrun.symm.trans hlast
        rfl
    | error fault last => exact absurd hrun (ends_copy_target.of_error hcopy hentry after)

/-- Where there are no links, a copy to a place apart from its source lays the source over what is
there and leaves all else alone, but for new directories that the destination names, if it comes to
its end; and whether it does, and with which tree, does not depend on the order of names. -/
theorem copy_copiedOver (halike : host.Alike other) (hvalid : files.Valid host)
    (hlinks : files.LinkFree) (hdistinct : files.Distinct) (hsource : files.Denotes source place)
    (htarget : files.Denotes (targetFor files host source destination) inner)
    (hapart : place.Apart inner) (hups : files.UpsStand destination) :
    EndsAlike (copy host source destination) (copy other source destination) files
      (fun value after => value = targetFor files host source destination ∧
        files.CopiedOver (· ∈ files.visited destination) place inner after) := by
  have hcopied : EndsAlike (copyTo host source (targetFor files host source destination))
      (copyTo other source (targetFor files host source destination)) files
      (fun _ after => files.CopiedOver (· ∈ files.visited destination) place inner after) := by
    apply endsAlike_copyTo halike hvalid hlinks hdistinct htarget hapart _ _ hsource
    · intro hrooted entry
      exact FileSystem.stands_of_mem_visited_targetFor hvalid hlinks hrooted htarget hups
    · intro hrooted entry
      exact FileSystem.mem_visited_of_missing hvalid hlinks hrooted htarget
  have hentry : files.hasEntry other source = files.hasEntry host source := by
    rw [FileSystem.hasEntry, FileSystem.hasEntry, halike.entry?_eq]
  unfold EndsAlike Ends
  split
  · rename_i value after hrun
    obtain ⟨hthere, rfl, hrun⟩ := copy_eq_ok_iff.mp hrun
    obtain ⟨hover, last, hlast, hsame⟩ := hcopied.of_ok hrun
    exact ⟨⟨rfl, hover⟩, last,
      copy_eq_ok_iff.mpr ⟨hentry.trans hthere, by rw [halike.targetFor_eq], hlast⟩, hsame⟩
  · rename_i fault after hrun
    intro value last hlast
    obtain ⟨hthere, rfl, hlast⟩ := copy_eq_ok_iff.mp hlast
    rw [halike.targetFor_eq] at hlast
    cases hfirst : copyTo host source (targetFor files host source destination) files with
    | ok _ middle =>
        have hok := copy_eq_ok_iff.mpr ⟨hentry.symm.trans hthere, rfl, hfirst⟩
        rw [hrun] at hok
        cases hok
    | error _ middle => exact hcopied.of_error hfirst () last hlast

section Example

/-- A directory, and another one that holds one of its name with these entries. -/
def pairedTree (entries : Entries) : FileSystem :=
  { top := [("s", .directory [("f", .file [1]), ("d", .directory [("g", .file [2])])]),
      ("t", .directory [("s", .directory entries)])] }

/-- The inner directory holds a file of a name that the other one has, and one that it has not. -/
def coveredTree : FileSystem :=
  pairedTree [("f", .file [0]), ("h", .file [3])]

theorem coveredTree_linkFree : coveredTree.LinkFree :=
  Node.linkFree_directory (List.forall_mem_cons.mpr ⟨Node.linkFree_directory
    (List.forall_mem_cons.mpr ⟨Node.linkFree_file [1], List.forall_mem_singleton.mpr
      (Node.linkFree_directory (List.forall_mem_singleton.mpr (Node.linkFree_file [2])))⟩),
    List.forall_mem_singleton.mpr (Node.linkFree_directory (List.forall_mem_singleton.mpr
      (Node.linkFree_directory (List.forall_mem_cons.mpr ⟨Node.linkFree_file [0],
        List.forall_mem_singleton.mpr (Node.linkFree_file [3])⟩))))⟩)

theorem coveredTree_wellFormed : (Node.directory coveredTree.top).WellFormed {} := by
  have hdeep : (Node.directory [("g", .file [2])]).WellFormed {} :=
    Node.wellFormed_directory (by decide) (by decide)
      (List.forall_mem_singleton.mpr (Node.wellFormed_file [2]))
  have hcopied : (Node.directory [("f", .file [1]), ("d", .directory [("g", .file [2])])]).WellFormed
      {} :=
    Node.wellFormed_directory (by decide) (by decide) (List.forall_mem_cons.mpr
      ⟨Node.wellFormed_file [1], List.forall_mem_singleton.mpr hdeep⟩)
  have hcovered : (Node.directory [("f", .file [0]), ("h", .file [3])]).WellFormed {} :=
    Node.wellFormed_directory (by decide) (by decide) (List.forall_mem_cons.mpr
      ⟨Node.wellFormed_file [0], List.forall_mem_singleton.mpr (Node.wellFormed_file [3])⟩)
  have hholding : (Node.directory [("s", .directory [("f", .file [0]), ("h", .file [3])])]).WellFormed
      {} :=
    Node.wellFormed_directory (by decide) (by decide) (List.forall_mem_singleton.mpr hcovered)
  exact Node.wellFormed_directory (by decide) (by decide) (List.forall_mem_cons.mpr
    ⟨hcopied, List.forall_mem_singleton.mpr hholding⟩)

/-- A machine that lists names the other way round. -/
def reversingHost : Host :=
  { arrange := fun _ _ names => names.reverse
    arrange_perm := fun _ _ names => names.reverse_perm }

/-- One file is replaced and one stays, and what the inner directory did not have is new; names may
come in either order. -/
theorem copy_copiedOver_coveredTree :
    Host.Alike {} reversingHost ∧ coveredTree.Valid {} ∧ coveredTree.LinkFree ∧
      coveredTree.Distinct ∧ coveredTree.Denotes "/s" [("s" : Text)] ∧
      coveredTree.Denotes (targetFor coveredTree {} "/s" "/t") [("t" : Text), "s"] ∧
      Place.Apart [("s" : Text)] [("t" : Text), "s"] ∧ coveredTree.UpsStand "/t" ∧
      copy {} "/s" "/t" coveredTree = .ok "/t/s"
        (pairedTree [("f", .file [1]), ("h", .file [3]), ("d", .directory [("g", .file [2])])]) ∧
      coveredTree.CopiedOver (· ∈ coveredTree.visited "/t") [("s" : Text)] [("t" : Text), "s"]
        (pairedTree [("f", .file [1]), ("h", .file [3]), ("d", .directory [("g", .file [2])])]) ∧
      ∃ last, copy reversingHost "/s" "/t" coveredTree = .ok "/t/s" last ∧
        (pairedTree [("f", .file [1]), ("h", .file [3]),
          ("d", .directory [("g", .file [2])])]).SameTree last := by
  have hvalid : coveredTree.Valid {} := FileSystem.valid_of_wellFormed coveredTree_wellFormed
  have hdistinct : coveredTree.Distinct := coveredTree_wellFormed.distinct
  have hlinks : coveredTree.LinkFree := coveredTree_linkFree
  have halike : Host.Alike {} reversingHost := ⟨rfl, rfl, rfl, rfl⟩
  have hsource : coveredTree.Denotes "/s" [("s" : Text)] :=
    (hlinks.denotes_iff (by decide)).mpr (by decide)
  have htext : targetFor coveredTree {} "/s" "/t" = "/t/s" := by cbv
  have htarget : coveredTree.Denotes (targetFor coveredTree {} "/s" "/t") [("t" : Text), "s"] := by
    rw [htext]
    exact (hlinks.denotes_iff (by decide)).mpr (by decide)
  have hapart : Place.Apart [("s" : Text)] [("t" : Text), "s"] := ⟨by decide, by decide⟩
  have hups : coveredTree.UpsStand "/t" := FileSystem.upsStand_of_not_up (by decide)
  have hrun : copy {} "/s" "/t" coveredTree = .ok "/t/s"
      (pairedTree [("f", .file [1]), ("h", .file [3]), ("d", .directory [("g", .file [2])])]) := by
    cbv
  -- Let the runs not be evaluated once more.
  generalize coveredTree = files at *
  generalize reversingHost = other at *
  have hends := Ends.of_ok
    (copy_copiedOver halike hvalid hlinks hdistinct hsource htarget hapart hups) hrun
  exact ⟨halike, hvalid, hlinks, hdistinct, hsource, htarget, hapart, hups, hrun, hends.1.2, hends.2⟩

end Example

end Disk

end LineShell
