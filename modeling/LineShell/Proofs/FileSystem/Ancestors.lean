import LineShell.Proofs.FileSystem.Performed

/-!
# Directories made for a path

Where there are no links, the directories that are made for a path are among the places that it goes
into, and nothing else changes.  The absolute form of a path spells the place that the path denotes,
so paths can be told to lie within each other.
-/

namespace LineShell

namespace FileSystem

variable {host : Host} {files now after : FileSystem} {path normal : Text} {place : Place}

/-- A relative path is taken onto the names of the working directory, behind one slash. -/
theorem absolute?_of_relative (hfiles : files.Valid host) (hpath : Path.isAbsolute path = false)
    (hnormal : files.absolute? path = some normal) :
    files.Rooted path ∧ (∀ name ∈ files.working.place, Path.IsName name) ∧
      normal = Path.normalize (Path.join (Path.spell 1 files.working.place) path) := by
  rw [absolute?, hpath, if_neg Bool.false_ne_true] at hnormal
  obtain ⟨working, hworking, rfl⟩ := Option.map_eq_some_iff.mp hnormal
  unfold workingPath? at hworking
  split at hworking
  · cases hworking
  rename_i hkept
  have hrooted : files.Rooted path := .inr (by simpa using hkept)
  have hplace : files.kind? ([] ++ files.working.place) = some .directory := by
    have hstart := hrooted.kind?_startOf hfiles
    rwa [startOf, hpath, if_neg Bool.false_ne_true] at hstart
  obtain rfl : Path.spell 1 files.working.place = working := Option.some.inj hworking
  exact ⟨hrooted, fun _ => hfiles.isName_of_mem hplace, rfl⟩

theorem absolute?_of_absolute (hpath : Path.isAbsolute path = true)
    (hnormal : files.absolute? path = some normal) : normal = Path.normalize path := by
  rw [absolute?_of_isAbsolute files hpath] at hnormal
  exact (Option.some.inj hnormal).symm

/-- The absolute form of a path spells the place that the path denotes. -/
theorem components_of_absolute? (hfiles : files.Valid host) (hlinks : files.LinkFree)
    (hnormal : files.absolute? path = some normal) (h : files.Denotes path place) :
    files.Rooted path ∧ Path.components normal = place := by
  cases hpath : Path.isAbsolute path with
  | true =>
      refine ⟨.inl hpath, ?_⟩
      rw [absolute?_of_absolute hpath hnormal, Path.components_normalize hpath,
        hlinks.eq_components hpath h]
  | false =>
      obtain ⟨hrooted, hnames, rfl⟩ := absolute?_of_relative hfiles hpath hnormal
      have hstart : files.startOf path = files.working.place := by simp [startOf, hpath]
      have hbase := Path.isAbsolute_spell (.inl rfl) files.working.place
      have hlast := h.eq_foldl_push hlinks fun name hmem => (hnames name (hstart ▸ hmem)).naming
      refine ⟨hrooted, ?_⟩
      rw [Path.components_normalize (Path.isAbsolute_join hbase),
        Path.components_join hbase hpath, Path.components_spell (.inl rfl) hnames, hlast, hstart]

/-- It begins with one slash, unless the path is spelled with exactly two. -/
theorem leadingSlashes_of_absolute? (hfiles : files.Valid host)
    (hnormal : files.absolute? path = some normal) :
    Path.leadingSlashes normal = 1 ↔ Path.leadingSlashes path ≠ 2 := by
  cases hpath : Path.isAbsolute path with
  | true =>
      rw [absolute?_of_absolute hpath hnormal, Path.leadingSlashes_normalize hpath]
      have hslashes := Path.leadingSlashes_eq hpath
      omega
  | false =>
      obtain ⟨-, hnames, rfl⟩ := absolute?_of_relative hfiles hpath hnormal
      have hbase := Path.isAbsolute_spell (.inl rfl) files.working.place
      have hrelative : Path.leadingSlashes path = 0 := by
        rw [Path.leadingSlashes, hpath]
        rfl
      rw [Path.leadingSlashes_normalize (Path.isAbsolute_join hbase),
        Path.leadingSlashes_join hbase hpath, Path.leadingSlashes_spell (.inl rfl) hnames,
        hrelative]
      simp

/-- What precedes the last component of the absolute form denotes what is above the place, and goes
straight down there. -/
theorem denotes_directory_of_absolute? (hfiles : files.Valid host) (hlinks : files.LinkFree)
    (hnormal : files.absolute? path = some normal) (h : files.Denotes path place) :
    files.Denotes (Path.directory normal) place.dropLast ∧
      Path.isAbsolute (Path.directory normal) = true ∧
      ∀ component ∈ Text.splitOn '/' (Path.directory normal),
        component ≠ [] → Path.Naming component := by
  obtain ⟨habsolute, hsame⟩ := normal_of_absolute? hnormal
  obtain ⟨-, rfl⟩ := components_of_absolute? hfiles hlinks hnormal h
  have hslashes := Path.leadingSlashes_eq habsolute
  have hnames : ∀ name ∈ Path.components normal, Path.IsName name := fun _ =>
    Path.isName_of_mem_components habsolute
  have hnames' : ∀ name ∈ (Path.components normal).dropLast, Path.IsName name := fun name hmem =>
    hnames name (List.dropLast_subset _ hmem)
  have hdirectory : Path.directory normal =
      Path.spell (Path.leadingSlashes normal) (Path.components normal).dropLast := by
    rw [← Path.directory_spell hslashes hnames, ← Path.normalize_eq habsolute, hsame]
  have habsolute' := Path.isAbsolute_spell hslashes (Path.components normal).dropLast
  rw [hdirectory, hlinks.denotes_iff habsolute', Path.components_spell hslashes hnames']
  exact ⟨rfl, habsolute', fun _ => Path.naming_of_mem_splitOn_spell hnames'⟩

theorem exists_absolute?_iff :
    (∃ normal, files.absolute? path = some normal) ↔ files.Rooted path := by
  unfold absolute? workingPath? Rooted
  by_cases hpath : Path.isAbsolute path = true
  · simp [hpath]
  · cases hremoved : files.working.removed <;> simp [hpath]

/-- Directories were made where nothing was, at certain places only, and nothing else has changed. -/
structure Extended (host : Host) (files : FileSystem) (within : Place → Prop)
    (after : FileSystem) : Prop where
  valid : after.Valid host
  distinct : files.Distinct → after.Distinct
  working : after.working = files.working
  kinds : ∀ other, after.kind? other = files.kind? other ∨
    within other ∧ files.kind? other = none ∧ after.kind? other = some .directory
  new : after = files ∨
    ∃ other, within other ∧ files.kind? other = none ∧ after.kind? other = some .directory

namespace Extended

variable {within within' : Place → Prop}

theorem refl (hfiles : files.Valid host) : files.Extended host within files :=
  ⟨hfiles, fun h => h, rfl, fun _ => .inl rfl, .inl rfl⟩

/-- A directory was made. -/
theorem of_changed {made : Place} (hmade : within made) (hnone : files.kind? made = none)
    (hafter : files.Changed host made (some .directory) after) :
    files.Extended host within after := by
  refine ⟨hafter.valid, hafter.distinct, hafter.working, fun other => ?_, .inr ⟨made, hmade, hnone,
    by rw [hafter.kinds, if_pos rfl]⟩⟩
  rw [hafter.kinds]
  split
  · rename_i heq
    exact .inr ⟨heq ▸ hmade, heq ▸ hnone, rfl⟩
  · exact .inl rfl

variable (h : files.Extended host within now)
include h

/-- What was there is there. -/
theorem kept {other : Place} {kind : Kind} (hkind : files.kind? other = some kind) :
    now.kind? other = some kind := by
  rcases h.kinds other with hsame | ⟨-, hnone, -⟩
  · rw [hsame, hkind]
  · rw [hnone] at hkind
    cases hkind

/-- What is elsewhere is as it was. -/
theorem kind?_eq {other : Place} (hother : ¬ within other) :
    now.kind? other = files.kind? other :=
  (h.kinds other).resolve_right fun hmade => hother hmade.1

theorem linkFree (hlinks : files.LinkFree) : now.LinkFree := by
  intro other link hlink
  rcases h.kinds other with hsame | ⟨-, -, hdirectory⟩
  · exact hlinks other link (hsame.symm.trans hlink)
  · rw [hdirectory] at hlink
    cases hlink

theorem plain (hfiles : files.Plain host) : now.Plain host := by
  refine ⟨h.valid, fun {other kind} hkind => ?_, h.distinct hfiles.distinct⟩
  rcases h.kinds other with hsame | ⟨-, -, hdirectory⟩
  · exact hfiles.kinds (hsame.symm.trans hkind)
  · exact .inl (Option.some.inj (hkind.symm.trans hdirectory))

theorem placed (hplaced : files.Placed path) : now.Placed path := by
  rw [Placed, h.working]
  exact hplaced

theorem denotes (hlinks : files.LinkFree) (hpath : files.Denotes path place) :
    now.Denotes path place :=
  (denotes_iff_of_linkFree hlinks (h.linkFree hlinks) h.working).mpr hpath

theorem mono (hwithin : ∀ other, within other → files.kind? other = none → within' other) :
    files.Extended host within' now :=
  ⟨h.valid, h.distinct, h.working, fun other => (h.kinds other).imp_right fun hmade =>
    ⟨hwithin other hmade.1 hmade.2.1, hmade.2⟩, h.new.imp_right fun ⟨other, hmade⟩ =>
    ⟨other, hwithin other hmade.1 hmade.2.1, hmade.2⟩⟩

theorem trans (h' : now.Extended host within after) : files.Extended host within after := by
  have hback : ∀ {other}, now.kind? other = none → files.kind? other = none := by
    intro other hnone
    cases hkind : files.kind? other with
    | none => rfl
    | some kind => exact absurd (hnone.symm.trans (h.kept hkind)) (by simp)
  refine ⟨h'.valid, fun hdistinct => h'.distinct (h.distinct hdistinct),
    h'.working.trans h.working, fun other => ?_, ?_⟩
  · rcases h'.kinds other with hsame | ⟨hwithin, hnone, hmade⟩
    · rw [hsame]
      exact h.kinds other
    · exact .inr ⟨hwithin, hback hnone, hmade⟩
  · rcases h'.new with rfl | ⟨other, hwithin, hnone, hmade⟩
    · exact h.new
    · exact .inr ⟨other, hwithin, hback hnone, hmade⟩

end Extended

end FileSystem

namespace Disk

variable {host : Host} {files : FileSystem} {path : Text} {place : Place}

/-- A target is found to lie within a source where the places say so, unless the source is spelled
with exactly two slashes in front; both have to start from directories that are there. -/
theorem ends_isWithin_denotes {source target : Text} {inner : Place} (hfiles : files.Valid host)
    (hlinks : files.LinkFree) (hsource : files.Denotes source place)
    (htarget : files.Denotes target inner) :
    Ends (isWithin target source) files
      (fun within after => after = files ∧ files.Rooted source ∧ files.Rooted target ∧
        (within = true ↔ Path.leadingSlashes source ≠ 2 ∧ place <+: inner))
      (fun fault after => fault = .noWorkingDirectory ∧ after = files ∧
        ¬ (files.Rooted source ∧ files.Rooted target)) := by
  simp only [isWithin, absolute, ends_bind, ends_get]
  split
  · rename_i normalTarget hnormalTarget
    obtain ⟨hrootedTarget, rfl⟩ :=
      FileSystem.components_of_absolute? hfiles hlinks hnormalTarget htarget
    simp only [ends_pure]
    split
    · rename_i normalSource hnormalSource
      obtain ⟨hrootedSource, rfl⟩ :=
        FileSystem.components_of_absolute? hfiles hlinks hnormalSource hsource
      refine ⟨rfl, hrootedSource, hrootedTarget, ?_⟩
      rw [Path.isWithin, Bool.and_eq_true, beq_iff_eq, List.isPrefixOf_iff_prefix,
        FileSystem.leadingSlashes_of_absolute? hfiles hnormalSource]
    · rename_i hnone
      refine ⟨rfl, rfl, fun hrooted => ?_⟩
      obtain ⟨normal, hnormal⟩ := FileSystem.exists_absolute?_iff.mpr hrooted.1
      rw [hnone] at hnormal
      cases hnormal
  · rename_i hnone
    refine ⟨rfl, rfl, fun hrooted => ?_⟩
    obtain ⟨normal, hnormal⟩ := FileSystem.exists_absolute?_iff.mpr hrooted.2
    rw [hnone] at hnormal
    cases hnormal

/-- A directory is made where the path goes into it, or nothing is. -/
theorem ends_makeDirectory_visited (hfiles : files.Valid host) (hlinks : files.LinkFree) :
    Ends (makeDirectory host path) files
      (fun _ after => files.Extended host (· ∈ files.visited path) after)
      (fun _ after => after = files) := by
  apply ends_create.mono
  · rintro _ after ⟨directory, name, slashed, haims, hsize, hnone, rfl⟩
    obtain ⟨hdirectory, hname⟩ := haims.isName hfiles
    obtain ⟨front, trailing, -, hahead⟩ := haims.exists_ahead hfiles
    have hkind := FileSystem.at?_eq_none_iff.mp hnone
    have hvisited : directory ++ [name] ∈ files.visited path := by
      rw [FileSystem.visited, hahead.split, Walk.visited_append hlinks hahead.way.leads,
        Walk.visited_of_naming hahead.naming]
      simp
    exact .of_changed hvisited hkind (changed_put hfiles hdirectory hname hsize (by simp [hkind])
      (.inr (rfl : Node.directory [] = _)))
  · intro _ _ hrefused
    exact hrefused.1

/-- The directories that are made for a path are among those that it goes into. -/
theorem ends_makeDirectories_visited (hfiles : files.Valid host) (hlinks : files.LinkFree) :
    Ends (makeDirectories host path) files
      (fun _ after => files.Extended host (· ∈ files.visited path) after)
      (fun _ after => files.Extended host (· ∈ files.visited path) after) := by
  have hsplit : ∀ path', (∀ entry ∈ files.visited path', entry ∈ files.visited path) →
      (Path.splitLast path').2 ≠ [] →
      ∀ entry ∈ files.visited (Path.splitLast path').1, entry ∈ files.visited path := by
    intro path' hpath' hlast entry hentry
    obtain ⟨place, hplace⟩ : ∃ place, files.Denotes path' place := hlinks.exists_leads _ _
    exact hpath' entry (FileSystem.mem_visited_splitLast hlinks hplace hlast hentry)
  have hmake : ∀ path', (∀ entry ∈ files.visited path', entry ∈ files.visited path) →
      Keeps (files.Extended host (· ∈ files.visited path)) (fun _ => True)
        (makeDirectory host path') := by
    intro path' hpath' now hnow
    apply (ends_makeDirectory_visited hnow.valid (hnow.linkFree hlinks)).mono
    · intro _ after hafter
      rw [FileSystem.visited_congr hnow.working] at hafter
      exact ⟨trivial, hnow.trans (hafter.mono fun other hother _ => hpath' other hother)⟩
    · rintro _ _ rfl
      exact ⟨trivial, hnow⟩
  have hkeeps := keeps_makeDirectories hsplit hmake fun _ h => h
  exact (hkeeps files (.refl hfiles)).mono (fun _ _ h => h.2) fun _ _ h => h.2

/-- The target of a copy is spelled with no places but those of the destination and its own. -/
theorem mem_visited_targetFor {source destination : Text} {inner entry : Place}
    (hlinks : files.LinkFree)
    (htarget : files.Denotes (targetFor files host source destination) inner)
    (hentry : entry ∈ files.visited (targetFor files host source destination)) :
    entry ∈ files.visited destination ∨ entry = inner := by
  unfold targetFor at htarget hentry
  split at htarget
  · rename_i hdirectory
    rw [if_pos hdirectory] at hentry
    obtain ⟨above, habove⟩ : ∃ above, files.Denotes destination above := hlinks.exists_leads _ _
    have hlast := Path.not_slash_lastComponent (Path.normalize source)
    rw [FileSystem.visited_join hlinks habove hlast] at hentry
    exact (List.mem_append.mp hentry).imp_right fun hentry =>
      (Walk.mem_visited_single hlinks (habove.leads_join hlast htarget) hentry).2
  · rename_i hdirectory
    rw [if_neg hdirectory] at hentry
    exact .inl hentry

end Disk

end LineShell
