import LineShell.Proofs.FileSystem.Ancestors
import LineShell.Proofs.FileSystem.Entered

/-!
# Directories that are there

A call that makes directories for a path may find that something is in its way already, and go on.
Where it comes to its end, the directory is there nevertheless, unless the path ends in dots behind
a name that something else has.  The missing parents of a path are made along its absolute form, so
all that is above the place that it denotes is there then.
-/

namespace LineShell

/-- No walk is stopped because something is there already. -/
theorem Walk.steps_ne_taken {host : Host} {files : FileSystem} {rule : LinkRule}
    {follow : Place → List Text → Except Cause Spot}
    (hfollow : ∀ place components, follow place components ≠ .error .taken) (place : Place)
    (components : List Text) : steps host files rule follow place components ≠ .error .taken := by
  induction components generalizing place with
  | nil => simp [steps]
  | cons component rest ih =>
      rw [steps]
      split
      · exact ih place
      split
      · exact ih place.dropLast
      split
      · split
        · split
          · exact hfollow _ _
          · simp
        · simp
      split
      · simp
      split
      · simp
      · exact hfollow _ _
      · exact ih _
      · simp

theorem Walk.walk_ne_taken (host : Host) (files : FileSystem) (rule : LinkRule) (links : Nat)
    (place : Place) (components : List Text) :
    walk host files rule links place components ≠ .error .taken := by
  induction links generalizing place components with
  | zero => exact steps_ne_taken (fun _ _ => by simp) place components
  | succ links ih => exact steps_ne_taken ih place components

theorem FileSystem.locate_ne_taken (files : FileSystem) (host : Host) (rule : LinkRule)
    (path : Text) : files.locate host rule path ≠ .error .taken :=
  @Walk.locate_related host host files files rule rule (fun outcome _ => outcome ≠ .error .taken)
    rfl rfl (by simp) (by simp) (by simp) (Walk.walk_ne_taken host files rule host.linkLimit) path

namespace Disk

variable {host : Host} {files : FileSystem} {path : Text} {place : Place}

/-- Only what the path comes to can be in the way of a new directory. -/
theorem ends_makeDirectory_locate :
    Ends (makeDirectory host path) files (fun _ _ => True)
      (fun fault after => after = files ∧ ∀ other, fault = .system .taken other →
        path.hasNull = false ∧ ∃ spot, files.locate host .never path = .ok spot ∧
          ∀ directory name slashed, spot = .entry directory name slashed →
            ∃ node, files.at? (directory ++ [name]) = some node) := by
  have htaken := files.locate_ne_taken host .never path
  simp only [makeDirectory, create, ends_bind]
  cases hnull : path.hasNull with
  | true => simp [Ends, entrySpot, ask, hnull]
  | false =>
      cases hlocate : files.locate host .never path with
      | error cause =>
          rw [hlocate] at htaken
          simp [Ends, entrySpot, ask, hnull, hlocate]
          rintro rfl
          exact htaken rfl
      | ok spot =>
          cases spot with
          | itself place => simp [Ends, entrySpot, ask, hnull, hlocate]
          | removed => simp [Ends, entrySpot, ask, hnull, hlocate]
          | entry directory name slashed =>
              have haims : Aims host files .never path directory name slashed := ⟨hnull, hlocate⟩
              rw [haims.ends_entrySpot]
              simp only [ends_checkName, ends_nodeAt]
              refine ⟨fun _ => ⟨trivial, by simp⟩, fun _ => ?_⟩
              cases hat : files.at? (directory ++ [name]) with
              | none => simp [Node.isDirectory]
              | some node =>
                  refine ⟨rfl, fun _ _ => ⟨trivial, _, rfl, ?_⟩⟩
                  rintro _ _ _ heq
                  obtain ⟨rfl, rfl, rfl⟩ := Spot.entry.inj heq
                  exact ⟨node, hat⟩

/-- What is in the way already is taken in good part, and no other fault. -/
theorem ends_allowTaken {action : Disk Unit} {done : Unit → FileSystem → Prop}
    {failed : Fault → FileSystem → Prop} (h : Ends action files done fun fault after =>
      ((∃ path, fault = .system .taken path) → done () after) ∧
        ((¬ ∃ path, fault = .system .taken path) → failed fault after)) :
    Ends (allowTaken action) files done failed := by
  simp only [allowTaken, ends_bind, ends_attempt]
  apply h.mono
  · exact fun _ _ h => h
  · rintro fault after ⟨htaken, hother⟩
    split
    · rename_i hnull
      subst hnull
      exact hother (by simp)
    · split
      · rename_i heq
        obtain rfl := Except.error.inj heq
        exact htaken ⟨_, rfl⟩
      · rename_i hne heq
        obtain rfl := Except.error.inj heq
        apply hother
        rintro ⟨path, hpath⟩
        exact hne path hpath
      · rename_i heq
        cases heq

/-- A path that the system finds something at, or that is spelled as a directory's. -/
def Meets (host : Host) (files : FileSystem) (path : Text) : Prop :=
  files.reaches host path = true ∨ ∃ directory name, Aims host files .never path directory name true

section Made

variable (hfiles : files.Valid host) (hlinks : files.LinkFree) (hplaced : files.Placed path)
  (hpath : files.Denotes path place)
include hfiles hlinks hplaced hpath

/-- What is not made because it is there already is found to be a directory, or it is met as
something else. -/
theorem meets_of_locate (hnull : path.hasNull = false) {spot : Spot}
    (hlocate : files.locate host .never path = .ok spot)
    (hentry : ∀ directory name slashed, spot = .entry directory name slashed →
      ∃ node, files.at? (directory ++ [name]) = some node)
    (hdirectory : files.isDirectory host path = false) :
    files.kind? place ≠ some .directory ∧ Meets host files path := by
  have halways := (hlinks.locate_congr .always .never path).trans hlocate
  have hfound : ∀ found entries, files.atSpot host spot ≠ .ok (found, .directory entries) := by
    intro found entries hspot
    have htarget : files.target? host path = some (found, .directory entries) := by
      rw [FileSystem.target?_eq_some_iff, FileSystem.lookup, halways]
      exact ⟨hnull, hspot⟩
    rw [FileSystem.isDirectory, htarget] at hdirectory
    cases hdirectory
  have hwalks := FileSystem.walks_of_placed hfiles hplaced hlocate
  cases spot with
  | removed => exact absurd rfl (hfound _ _)
  | itself found =>
      obtain ⟨entries, hentries⟩ := FileSystem.exists_entries_of_kind? hwalks.kind?_itself
      exact absurd (by simp [FileSystem.atSpot, hentries]) (hfound found entries)
  | entry directory name slashed =>
      have haims : Aims host files .never path directory name slashed := ⟨hnull, hlocate⟩
      obtain ⟨node, hnode⟩ := hentry directory name slashed rfl
      have hkind := FileSystem.kind?_of_at? hnode
      have hleaf : node.kind ≠ .directory := by
        intro heq
        obtain ⟨entries, rfl⟩ := Node.kind_eq_directory_iff.mp heq
        have hlookup := (FileSystem.target?_eq_some_iff.mp (haims.target?_eq hfiles hnode
          (fun _ => rfl) (by simp [hkind, heq]))).2
        rw [FileSystem.lookup, halways] at hlookup
        exact hfound _ _ hlookup
      obtain rfl := hpath.unique (hwalks.leads fun target => hlinks _ target)
      refine ⟨by simpa [Spot.place, hkind] using hleaf, ?_⟩
      cases slashed with
      | true => exact .inr ⟨directory, name, haims⟩
      | false =>
          left
          rw [FileSystem.reaches, haims.target?_eq hfiles hnode (by simp)
            (fun target => hlinks _ target)]
          rfl

/-- A directory is there when it was ensured. -/
theorem ends_ensureDirectory :
    Ends (ensureDirectory host path) files
      (fun _ after => after.isDirectory host path = true ∧ after.kind? place = some .directory)
      (fun fault after => after = files ∧ ((∃ other, fault = .system .taken other) →
        files.kind? place ≠ some .directory ∧ Meets host files path)) := by
  simp only [ensureDirectory, ends_bind, ends_attempt]
  apply (ends_makeDirectory_locate.and ends_create).mono
  · rintro _ after ⟨-, directory, name, slashed, haims, hsize, hnone, rfl⟩
    obtain ⟨hdirectory, hname⟩ := haims.isName hfiles
    have hkind := FileSystem.at?_eq_none_iff.mp hnone
    have hmade := changed_put hfiles hdirectory hname hsize (by simp [hkind])
      (.inr (rfl : Node.directory [] = _))
    have hthere : (files.put directory name (.directory [])).kind? (directory ++ [name]) =
        some .directory := by
      rw [hmade.kinds, if_pos rfl]
      rfl
    have haims' := haims.of_directories hfiles hlinks hmade.valid hmade.working fun other hother => by
      rw [hmade.kinds]
      split
      · rfl
      · exact hother
    obtain ⟨entries, hentries⟩ := FileSystem.exists_entries_of_kind? hthere
    have hfound := haims'.target?_eq hmade.valid hentries (fun _ => rfl) (by simp [hthere])
    obtain rfl := hpath.unique ((haims.walks hfiles).leads fun target => hlinks _ target)
    exact ⟨by rw [FileSystem.isDirectory, hfound], hthere⟩
  · rintro fault _ ⟨⟨rfl, htaken⟩, -⟩
    split
    · exact ⟨rfl, by simp⟩
    · simp only [ends_get]
      split
      · rename_i hdirectory
        exact ⟨hdirectory, FileSystem.kind?_of_isDirectory hfiles hplaced hpath hdirectory⟩
      · rename_i hdirectory
        refine ⟨rfl, fun ⟨other, hother⟩ => ?_⟩
        obtain ⟨hnull, spot, hlocate, hentry⟩ := htaken other hother
        exact meets_of_locate hfiles hlinks hplaced hpath hnull hlocate hentry
          (by simpa using hdirectory)

/-- A directory whose path does not end in a dot is there when it was made. -/
theorem ends_makeDirectories_there (hlast : (Path.splitLast path).2 ≠ Path.self) :
    Ends (makeDirectories host path) files
      (fun _ after => after.isDirectory host path = true ∧ after.kind? place = some .directory)
      (fun _ _ => True) := by
  have hensure : ∀ {within now}, files.Extended host within now →
      Ends (ensureDirectory host path) now
        (fun _ after => after.isDirectory host path = true ∧ after.kind? place = some .directory)
        (fun _ _ => True) := fun hnow =>
    (ends_ensureDirectory hnow.valid (hnow.linkFree hlinks) (hnow.placed hplaced)
      (hnow.denotes hlinks hpath)).mono (fun _ _ h => h) fun _ _ _ => trivial
  have hrefl : files.Extended host (fun _ => True) files := .refl hfiles
  rw [makeDirectories]
  split
  · simp only [ends_bind, ends_get]
    split
    · exact hensure hrefl
    · rw [ends_bind]
      apply ends_allowTaken
      rw [if_neg (by simpa using hlast)]
      apply (ends_makeDirectories_visited hfiles hlinks).mono
      · exact fun _ _ hnow => hensure hnow
      · exact fun _ _ hnow => ⟨fun _ => hensure hnow, fun _ => trivial⟩
  · exact hensure hrefl

end Made

/-- What precedes the last component of a path is not spelled as a directory's. -/
theorem not_slashed_splitLast (hfiles : files.Valid host) {directory : Place} {name : Name} :
    ¬ Aims host files .never (Path.splitLast path).1 directory name true := by
  intro haims
  obtain ⟨front, trailing, htrailing, hahead⟩ := haims.exists_ahead hfiles
  obtain ⟨before, hbefore⟩ := Path.exists_splitOn_lastComponent (Path.splitLast path).1
  rcases Path.lastComponent_splitLast path with hempty | hlast
  · rw [hahead.split, hahead.naming.not_all_empty front trailing] at hempty
    cases hempty
  · apply hlast
    rcases List.eq_nil_or_concat trailing with rfl | ⟨others, last, rfl⟩
    · cases htrailing
    · have hsplit := hbefore.symm.trans hahead.split
      rw [List.concat_eq_append, ← List.cons_append, ← List.append_assoc] at hsplit
      obtain ⟨-, heq⟩ := List.append_inj' hsplit rfl
      rw [(List.cons.inj heq).1]
      exact List.isEmpty_iff.mp (List.all_eq_true.mp hahead.empty last (by simp))

/-- Where the way to the place of a path stands, the directory that is made is there in the end, also
if the path ends in dots. -/
theorem ends_makeDirectories_stands (hfiles : files.Valid host) (hlinks : files.LinkFree)
    (hrooted : files.Rooted path) (hpath : files.Denotes path place)
    (hway : ∀ entry ∈ files.visited path, entry = place ∨ files.kind? entry = some .directory) :
    Ends (makeDirectories host path) files
      (fun _ after => after.kind? place = some .directory)
      (fun fault _ => (∃ other, fault = .system .taken other) → Meets host files path) := by
  have hensure : ∀ {path}, files.Rooted path → files.Denotes path place →
      Ends (ensureDirectory host path) files
        (fun _ after => after.kind? place = some .directory)
        (fun fault _ => (∃ other, fault = .system .taken other) → Meets host files path) :=
    fun hrooted hpath => (ends_ensureDirectory hfiles hlinks hrooted.placed hpath).mono
      (fun _ _ h => h.2) fun _ _ h htaken => (h.2 htaken).2
  induction path using makeDirectories.induct with
  | case2 path hsplit =>
      rw [makeDirectories, dif_neg hsplit]
      exact hensure hrooted hpath
  | case1 path hsplit ih =>
      rw [makeDirectories, dif_pos hsplit]
      simp only [ends_bind, ends_get]
      split
      · exact hensure hrooted hpath
      rename_i hreaches
      obtain ⟨habsolute, middle, hmiddle, hlead⟩ := hpath.exists_splitLast hsplit.1 hsplit.2
      have hrooted' : files.Rooted (Path.splitLast path).1 := by
        rw [FileSystem.Rooted, habsolute]
        exact hrooted
      have hvisited : ∀ entry ∈ files.visited (Path.splitLast path).1, entry ∈ files.visited path :=
        fun _ => FileSystem.mem_visited_splitLast hlinks hpath hsplit.2
      rw [ends_bind]
      apply ends_allowTaken
      by_cases hself : (Path.splitLast path).2 = Path.self
      · rw [if_pos (by simpa using hself)]
        have hsame : place = middle := by
          rw [hself] at hlead
          exact hlead.unique (.skip (.inr rfl) .done)
        subst hsame
        apply (ih hrooted' hmiddle fun entry hentry => hway entry (hvisited entry hentry)).mono
        · exact fun _ _ h => h
        · refine fun fault now h => ⟨fun htaken => ?_, fun hother htaken => absurd htaken hother⟩
          rcases h htaken with hfound | ⟨directory, name, haims⟩
          · exact absurd hfound hreaches
          · exact absurd haims (not_slashed_splitLast hfiles)
      · rw [if_neg (by simpa using hself)]
        have hafter : ∀ {now}, files.Extended host (· ∈ files.visited (Path.splitLast path).1) now →
            Ends (ensureDirectory host path) now
              (fun _ after => after.kind? place = some .directory)
              (fun fault _ => (∃ other, fault = .system .taken other) → Meets host files path) := by
          intro now hnow
          rcases hnow.new with rfl | ⟨entry, hentry, hnone, hmade⟩
          · exact hensure hrooted hpath
          · apply (ends_ensureDirectory hnow.valid (hnow.linkFree hlinks) (hnow.placed hrooted.placed)
              (hnow.denotes hlinks hpath)).mono
            · exact fun _ _ h => h.2
            · rintro fault _ ⟨-, h⟩ htaken
              rcases hway entry (hvisited entry hentry) with rfl | hdirectory
              · exact absurd hmade (h htaken).1
              · rw [hnone] at hdirectory
                cases hdirectory
        apply (ends_makeDirectories_visited hfiles hlinks).mono
        · exact fun _ _ hnow => hafter hnow
        · exact fun _ _ hnow => ⟨fun _ => hafter hnow, fun hother htaken => absurd htaken hother⟩

/-- What is made as the missing parents of a path is on the way to the place that it denotes, and the
directory of that place is there in the end. -/
theorem ends_ensureParent (hfiles : files.Valid host) (hlinks : files.LinkFree)
    (hpath : files.Denotes path place) :
    Ends (ensureParent host path) files
      (fun _ after => files.Rooted path ∧ after.kind? place.dropLast = some .directory ∧
        files.Extended host (· <+: place.dropLast) after)
      (fun _ after => files.Extended host (· <+: place.dropLast) after) := by
  unfold ensureParent absolute
  simp only [ends_bind, ends_get]
  split
  · rename_i normal hnormal
    have hrooted := (FileSystem.components_of_absolute? hfiles hlinks hnormal hpath).1
    obtain ⟨hdenotes, habsolute, hnaming⟩ :=
      FileSystem.denotes_directory_of_absolute? hfiles hlinks hnormal hpath
    have hvisited : ∀ entry ∈ files.visited (Path.directory normal),
        files.kind? entry = none → entry <+: place.dropLast :=
      fun entry hentry _ => (Walk.prefix_of_mem_visited hlinks hdenotes fun hup =>
        (hnaming _ hup (by decide)).2.2 rfl).2 entry hentry
    have hlast : (Path.splitLast (Path.directory normal)).2 ≠ Path.self := by
      intro hself
      have hmem := Path.splitLast_snd_mem (by rw [hself]; decide)
      exact (hnaming _ (hself ▸ hmem) (by decide)).2.1 rfl
    apply ((ends_makeDirectories_visited hfiles hlinks).and
      (ends_makeDirectories_there hfiles hlinks (.inl habsolute) hdenotes hlast)).mono
    · exact fun _ _ h => ⟨hrooted, h.2.2, h.1.mono hvisited⟩
    · exact fun _ _ h => h.1.mono hvisited
  · exact .refl hfiles

end Disk

end LineShell
