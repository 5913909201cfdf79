import LineShell.Proofs.FileSystem.Alike
import LineShell.Proofs.FileSystem.Clearing
import LineShell.Proofs.FileSystem.Conservation
import LineShell.Proofs.FileSystem.Grafts

/-!
# Moving by copying

In a file system of files and directories, what could be relinked can be copied and removed as well,
and both carry it over.  The one exception is a directory whose path goes into a directory inside of
it: it is copied, and then the path leads nowhere by the time that the directory is to be removed.
-/

namespace LineShell

namespace FileSystem

variable {host : Host} {files : FileSystem} {path : Text} {place : Place}

/-! ### Where a path goes without links -/

/-- A path goes into no place inside of another one. -/
def Avoids (files : FileSystem) (path : Text) (place : Place) : Prop :=
  ∀ inner ∈ files.visited path, place <+: inner → inner = place

theorem Avoids.congr {after : FileSystem} (hworking : after.working = files.working) :
    after.Avoids path place ↔ files.Avoids path place := by
  rw [Avoids, Avoids, visited_congr hworking]

/-- Where there are no links, the entries passed are those that the components go into. -/
theorem LinkFree.mem_visited_iff (hlinks : files.LinkFree) {start : Place} {components : List Text}
    {entry : Place} :
    entry ∈ Walk.visited start components ↔ Passes files start components entry := by
  induction components generalizing start with
  | nil => simp [Walk.visited, Passes.not_nil]
  | cons component rest ih =>
      rcases Path.skipped_or_up_or_naming component with hskip | rfl | hname
      · rw [Walk.visited_of_skipped hskip, Passes.skip_iff hskip]
        exact ih
      · rw [Walk.visited_up, Passes.up_iff]
        exact ih
      · rw [Walk.visited_of_naming hname, List.mem_cons,
          Passes.enter_iff hname fun _ => hlinks _ _, ih]

end FileSystem

/-- There a path avoids the inside of its entry exactly if it keeps out of it. -/
theorem Disk.Aims.avoids_iff {host : Host} {files : FileSystem} {path : Text} {place : Place}
    {name : Name} {slashed : Bool} (haims : Aims host files .never path place name slashed)
    (hfiles : files.Valid host) (hlinks : files.LinkFree) :
    files.Avoids path (place ++ [name]) ↔ files.KeepsOut path (place ++ [name]) := by
  obtain ⟨front, trailing, -, hahead⟩ := haims.exists_ahead hfiles
  have hvisited : ∀ entry, entry ∈ files.visited path ↔
      Passes files (files.startOf path) front entry ∨ entry = place ++ [name] := by
    intro entry
    rw [FileSystem.visited, hahead.split, hlinks.mem_visited_iff,
      Passes.append_iff hahead.way.leads,
      Passes.naming_iff hahead.naming (fun _ => hlinks _ _) hahead.empty]
  constructor
  · intro havoids entry hentry hbegins
    rcases hahead.passes_of_goesThrough (fun target htarget => absurd htarget (hlinks _ target))
      hentry with hpasses | ⟨-, heq⟩
    · exact havoids entry ((hvisited entry).mpr (.inl hpasses)) hbegins
    · exact heq
  · intro hkeeps entry hentry hbegins
    rcases (hvisited entry).mp hentry with hpasses | heq
    · exact hkeeps entry (hahead.goesThrough hpasses) hbegins
    · exact heq

/-! ### What is carried over -/

namespace FileSystem

/-- What stood at or below a place stands at or below another one instead, and nothing else has
changed. -/
structure Carried (place target : Place) (before after : FileSystem) : Prop where
  below : ∀ rest, after.kind? (target ++ rest) = before.kind? (place ++ rest)
  gone : ∀ rest, after.kind? (place ++ rest) = none
  apart : ∀ other, ¬ place <+: other → ¬ target <+: other →
    after.kind? other = before.kind? other

theorem Carried.sameTree {place target : Place} {before after last : FileSystem}
    (h : Carried place target before after) (h' : Carried place target before last) :
    after.SameTree last := by
  intro other
  by_cases hplace : place <+: other
  · obtain ⟨rest, rfl⟩ := hplace
    rw [h.gone, h'.gone]
  by_cases htarget : target <+: other
  · obtain ⟨rest, rfl⟩ := htarget
    rw [h.below, h'.below]
  · rw [h.apart other hplace htarget, h'.apart other hplace htarget]

/-- An entry that is relinked is carried over. -/
theorem carried_relink {files : FileSystem} {place target : Place} {name targetName : Name}
    {node : Node} (hnode : files.at? (place ++ [name]) = some node)
    (htarget : files.kind? target = some .directory)
    (hapart : Place.Apart (place ++ [name]) (target ++ [targetName])) :
    Carried (place ++ [name]) (target ++ [targetName]) files
      (files.relink place name target targetName node) := by
  have hdirectory : (files.remove place name).kind? target = some .directory := by
    rw [kind?_remove_of_apart files fun hbegins =>
      hapart.left (hbegins.trans (List.prefix_append target [targetName]))]
    exact htarget
  constructor
  · intro rest
    rw [kind?_relink, ← List.append_cons, kind?_put hdirectory, kind?_append hnode]
  · intro rest
    have hother : ¬ target ++ [targetName] <+: place ++ [name] ++ rest := by
      simpa using hapart.not_below [] rest
    rw [kind?_relink, kind?_put_of_apart _ node hother, ← List.append_cons]
    exact kind?_remove files place name rest
  · intro other hplace hother
    rw [kind?_relink, kind?_put_of_apart _ node hother, kind?_remove_of_apart files hplace]

end FileSystem

/-- A copy to where no directory has anything in it keeps all directories. -/
theorem Copied.directories {host : Host} {place inner : Place} {now copied : FileSystem}
    (h : Copied host place inner now copied) (hbare : now.Bare inner)
    (hkind : now.kind? inner = some .directory → now.kind? place = some .directory)
    {there : Place} (hthere : now.kind? there = some .directory) :
    copied.kind? there = some .directory := by
  by_cases hbegins : inner <+: there
  · obtain ⟨rest, rfl⟩ := hbegins
    by_cases hrest : rest = []
    · rw [hrest, List.append_nil] at hthere
      rw [h.below, hrest, List.append_nil]
      exact hkind hthere
    · rw [hbare.kind?_eq_none hrest] at hthere
      cases hthere
  · rw [h.apart there hbegins, hthere]

namespace Disk

variable {host other : Host} {files now middle copied after : FileSystem}
variable {source target destination : Text} {place inner : Place} {node : Node}

/-- A copy with its source removed is carried over. -/
theorem carried_of_copied (hapart : place.Apart inner)
    (hcopied : Copied host place inner now copied) (hafter : Cleared place copied after) :
    FileSystem.Carried place inner now after := by
  refine ⟨fun rest => ?_, hafter.gone, fun other hplace hinner => ?_⟩
  · have houtside : ¬ place <+: inner ++ rest := by
      simpa using hapart.symm.not_below [] rest
    rw [hafter.apart _ houtside, hcopied.below]
  · rw [hafter.apart other hplace, hcopied.apart other hinner]

/-! ### Relinking -/

/-- The source can be relinked to another entry: both are found, neither holds the other one, and
what stands at the target may be replaced. -/
structure Relinkable (host : Host) (now : FileSystem) (source target : Text) (place inner : Place)
    (node : Node) : Prop where
  aimsSource : ∃ directory name slashed, place = directory ++ [name] ∧
    (slashed = true → node.isDirectory = true) ∧ Aims host now .never source directory name slashed
  aimsTarget : ∃ directory name slashed, inner = directory ++ [name] ∧
    name.utf8Size ≤ host.nameLimit ∧ (slashed = true → node.isDirectory = true) ∧
    Aims host now .never target directory name slashed
  stands : now.at? place = some node
  apart : place.Apart inner
  replaces : replaceFault? node (now.at? inner) = none

/-- An entry is relinked to itself, or to another entry and carried over. -/
theorem ends_rename_carried (hnow : now.Plain host) :
    Ends (rename host source target) now
      (fun _ after => ∃ place slashed, now.Names source place slashed ∧
        ((∃ slashed, now.Names target place slashed) ∨
          ∃ inner node, Relinkable host now source target place inner node ∧
            FileSystem.Carried place inner now after))
      (fun _ _ => True) := by
  apply ends_rename.mono _ fun _ _ _ => trivial
  rintro _ after ⟨directory, name, slashed, targetDirectory, targetName, targetSlashed, node, haims,
    htarget, hnode, hsize, hslashed, hinside, houtside, ⟨heq, -⟩ | ⟨hne, hreplace, rfl⟩⟩
  · exact ⟨_, slashed, haims.names hnow.valid,
      .inl ⟨targetSlashed, heq ▸ htarget.names hnow.valid⟩⟩
  · have hapart : Place.Apart (directory ++ [name]) (targetDirectory ++ [targetName]) := by
      constructor
      · intro hbegins
        rcases List.prefix_concat_iff.mp hbegins with heq | hbegins
        · exact hne heq
        · exact hinside hbegins
      · intro hbegins
        rcases List.prefix_concat_iff.mp hbegins with heq | hbegins
        · exact hne heq.symm
        · exact houtside hbegins
    refine ⟨_, slashed, haims.names hnow.valid, .inr ⟨_, node,
      ⟨⟨_, _, slashed, rfl, fun h => hslashed (by simp [h]), haims⟩,
        ⟨_, _, targetSlashed, rfl, hsize, fun h => hslashed (by simp [h]), htarget⟩, hnode, hapart,
        hreplace⟩, ?_⟩⟩
    exact FileSystem.carried_relink hnode (htarget.isName hnow.valid).1 hapart

namespace Relinkable

variable (h : Relinkable host now source target place inner node)
include h

/-- A directory may replace an empty directory only. -/
theorem free (hnode : node.kind = .directory) :
    (∀ kind, now.kind? inner = some kind → kind = .directory) ∧ now.Bare inner := by
  obtain ⟨entries, rfl⟩ := Node.kind_eq_directory_iff.mp hnode
  have hreplaces := h.replaces
  cases hat : now.at? inner with
  | none =>
      have hnone := FileSystem.at?_eq_none_iff.mp hat
      exact ⟨by simp [hnone], FileSystem.bare_of_kind?_ne (by simp [hnone])⟩
  | some found =>
      rw [hat] at hreplaces
      rcases found with (_ | ⟨entry, rest⟩) | content | link | _
      · refine ⟨fun kind hkind => ?_, FileSystem.bare_of_emptyDirectory hat⟩
        exact (Option.some.inj ((FileSystem.kind?_of_at? hat).symm.trans hkind)).symm
      all_goals simp [replaceFault?, Node.isDirectory] at hreplaces

/-- Anything else replaces no directory. -/
theorem not_directory (hnode : node.kind ≠ .directory) : now.kind? inner ≠ some .directory := by
  intro hkind
  have hreplaces := h.replaces
  have hleaf : node.isDirectory = false := by
    rw [Bool.eq_false_iff]
    exact fun hdirectory => hnode (Node.isDirectory_iff.mp hdirectory)
  obtain ⟨entries, hentries⟩ := FileSystem.exists_entries_of_kind? hkind
  rw [hentries] at hreplaces
  cases entries <;> simp [replaceFault?, hleaf] at hreplaces

/-- What replaces a directory is one. -/
theorem replaces_directory (hkind : now.kind? inner = some .directory) :
    now.kind? place = some .directory := by
  rw [FileSystem.kind?_of_at? h.stands]
  by_contra hnode
  exact h.not_directory (fun heq => hnode (congrArg some heq)) hkind

/-- Nothing is lost with what is replaced. -/
theorem bare : now.Bare inner := by
  by_cases hnode : node.kind = .directory
  · exact (h.free hnode).2
  · exact FileSystem.bare_of_kind?_ne (h.not_directory hnode)

/-- A tree to go into is told by what stands at the source. -/
theorem isDirectory_and_not_isLink (hnow : now.Plain host) :
    (now.isDirectory host source && !now.isLink host source) = node.isDirectory := by
  obtain ⟨directory, name, slashed, rfl, hslashed, haims⟩ := h.aimsSource
  exact haims.isDirectory_and_not_isLink hnow.valid h.stands hslashed

/-- A directory that could be relinked is copied. -/
theorem copyable (hroomy : host.Roomy) (hnow : now.Plain host) (hnode : node.kind = .directory)
    (hsource : now.Rooted source) (htarget : now.Rooted target)
    (hfits : ∀ rest kind, now.kind? (place ++ rest) = some kind →
      Path.Fits host (Path.below source rest) ∧ Path.Fits host (Path.below target rest)) :
    Copyable host now source target place inner := by
  have hkind : now.kind? place = some .directory := by
    rw [FileSystem.kind?_of_at? h.stands, hnode]
  obtain ⟨directory, name, slashed, rfl, -, haims⟩ := h.aimsSource
  obtain ⟨targetDirectory, targetName, targetSlashed, rfl, hsize, -, haims'⟩ := h.aimsTarget
  exact ⟨hroomy, hnow, ⟨hsource, directory, name, slashed, rfl, hnow.valid.size hkind, haims⟩,
    ⟨htarget, targetDirectory, targetName, targetSlashed, rfl, hsize, haims'⟩, h.apart, hkind,
    hfits⟩

/-! ### Moving by copying -/

section Moving

variable (hnow : now.Plain host)
  (hfits : ∀ rest kind, now.kind? (place ++ rest) = some kind →
    Path.Fits host (Path.below source rest) ∧ Path.Fits host (Path.below target rest))
include hnow hfits

/-- What was copied is carried over once its source is removed, so exactly if its path goes into no
directory inside of it. -/
theorem ends_removeSource (hcopied : Copied host place inner now copied) :
    Ends (do if !(← tryRemoveTree host source) then throw (.sourceKept source)) copied
      (fun _ after => now.Avoids source place ∧ FileSystem.Carried place inner now after)
      (fun _ _ => ¬ now.Avoids source place) := by
  have hvalid := hcopied.plain.valid
  have hsource : ∀ rest, copied.kind? (place ++ rest) = now.kind? (place ++ rest) := fun rest =>
    hcopied.apart _ (by simpa using h.apart.not_below [] rest)
  have hkind : copied.kind? place = some node.kind := by
    have hsame := hsource []
    rw [List.append_nil] at hsame
    exact hsame.trans (FileSystem.kind?_of_at? h.stands)
  have hapart := h.apart
  have hkept : ∀ there, now.kind? there = some .directory → copied.kind? there = some .directory :=
    fun _ => hcopied.directories h.bare h.replaces_directory
  obtain ⟨directory, name, slashed, rfl, hslashed, haims⟩ := h.aimsSource
  have haims := haims.of_directories hnow.valid hnow.linkFree hvalid hcopied.working hkept
  obtain ⟨still, hstill, hsame⟩ := FileSystem.exists_at?_of_kind? hkind
  have hentry : copied.hasEntry host source = true := haims.hasEntry hvalid hstill fun h =>
    Node.isDirectory_iff.mpr (hsame.trans (Node.isDirectory_iff.mp (hslashed h)))
  have hremoved := ends_removeTree_iff hvalid hcopied.plain.distinct haims
    (fun h => hkind.trans (congrArg some (Node.isDirectory_iff.mp (hslashed h)))) ⟨_, hkind⟩
    fun rest kind hkind => (hfits rest kind ((hsource rest).symm.trans hkind)).1
  rw [← haims.avoids_iff hvalid hcopied.plain.linkFree,
    FileSystem.Avoids.congr hcopied.working] at hremoved
  simp only [tryRemoveTree, succeeds, ends_bind, ends_get, hentry, if_true, ends_attempt]
  apply hremoved.mono
  · rintro _ after ⟨havoids, hafter⟩
    exact ⟨havoids, carried_of_copied hapart hcopied hafter⟩
  · intro fault after havoids
    split <;> exact havoids

/-- What could be relinked is carried over by copying it as well, exactly if its path goes into no
directory inside of it. -/
theorem ends_moveByCopying (hroomy : host.Roomy)
    (hsource : node.kind = .directory → now.Rooted source) (htarget : now.Rooted target) :
    Ends (moveByCopying host source target) now
      (fun _ after => now.Avoids source place ∧ FileSystem.Carried place inner now after)
      (fun _ _ => ¬ now.Avoids source place) := by
  have htest := h.isDirectory_and_not_isLink hnow
  by_cases hnode : node.kind = .directory
  · have hcopyable := h.copyable hroomy hnow hnode (hsource hnode) htarget hfits
    rw [Node.isDirectory_iff.mpr hnode] at htest
    simp only [moveByCopying, ends_bind, ends_get, htest, if_true]
    apply (hcopyable.completes_copyTree (h.free hnode).1 h.bare (by unfold depthLimit; omega)).ends
    intro _ copied hcopied
    simpa only [ends_bind] using h.ends_removeSource hnow hfits hcopied
  · obtain ⟨content, hcontent⟩ := hnow.exists_file (FileSystem.kind?_of_at? h.stands) hnode
    have hplace := (FileSystem.kind?_of_at? h.stands).trans (congrArg some hcontent)
    have hleaf : node.isDirectory = false :=
      Bool.eq_false_iff.mpr fun hdirectory => hnode (Node.isDirectory_iff.mp hdirectory)
    have hcopied : Completes (copyFile host source target) now
        fun _ copied => Copied host place inner now copied := by
      have hdirectory := h.not_directory hnode
      have hapart := h.apart
      obtain ⟨directory, name, slashed, rfl, hslashed, haims⟩ := h.aimsSource
      obtain ⟨targetDirectory, targetName, targetSlashed, rfl, hsize, hslashed', haims'⟩ :=
        h.aimsTarget
      obtain rfl : slashed = false := by simpa [hleaf] using hslashed
      obtain rfl : targetSlashed = false := by simpa [hleaf] using hslashed'
      apply (completes_copyFile hnow.valid haims hplace haims' hsize (fun kind hkind =>
        hnow.exists_file hkind fun heq => hdirectory (heq ▸ hkind)) (fun heq =>
          hapart.left (heq ▸ List.prefix_rfl)) (hroomy _ [] content)).ends
      exact fun _ copied hchanged => copied_of_changed hnow hplace hdirectory hchanged
    rw [hleaf] at htest
    simp only [moveByCopying, ends_bind, ends_get, htest, Bool.false_eq_true, if_false]
    apply hcopied.ends
    intro _ copied hcopied
    simpa only [ends_bind] using h.ends_removeSource hnow hfits hcopied

end Moving

/-- What can be relinked on one machine is ready to be relinked on another one of its limits. -/
theorem alike (halike : host.Alike other) : Relinkable other now source target place inner node := by
  obtain ⟨directory, name, slashed, hplace, hslashed, haims⟩ := h.aimsSource
  obtain ⟨targetDirectory, targetName, targetSlashed, hinner, hsize, hslashed', haims'⟩ :=
    h.aimsTarget
  refine ⟨⟨directory, name, slashed, hplace, hslashed, halike.aims haims⟩, ⟨targetDirectory,
    targetName, targetSlashed, hinner, ?_, hslashed', halike.aims haims'⟩, h.stands, h.apart,
    h.replaces⟩
  rw [halike.nameLimit]
  exact hsize

end Relinkable

end Disk

end LineShell
