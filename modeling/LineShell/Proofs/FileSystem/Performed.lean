import LineShell.FileSystem.Transfer
import LineShell.Proofs.FileSystem.Found

/-!
# Calls that do their work

A call on a path that leads to an entry does what it is for, if what stands at the entry allows it.
Together with the lemmas on what calls change, these say when a call changes anything.
-/

namespace LineShell

/-- One entry of a file system was set or cleared. -/
structure FileSystem.Changed (host : Host) (files : FileSystem) (place : Place)
    (kind : Option Kind) (after : FileSystem) : Prop where
  valid : after.Valid host
  distinct : files.Distinct → after.Distinct
  working : after.working = files.working
  kinds : ∀ other, after.kind? other = if other = place then kind else files.kind? other

namespace FileSystem.Changed

variable {host : Host} {files after : FileSystem} {place : Place} {kind : Option Kind}

theorem same (hfiles : files.Valid host) (hkind : files.kind? place = kind) :
    files.Changed host place kind files := by
  refine ⟨hfiles, fun h => h, rfl, fun other => ?_⟩
  split
  · rename_i heq
    rw [heq, hkind]
  · rfl

theorem linkFree (h : files.Changed host place kind after) (hlinks : files.LinkFree)
    (hkind : ∀ target, kind ≠ some (.link target)) : after.LinkFree := by
  intro other target
  rw [h.kinds]
  split
  · exact hkind target
  · exact hlinks other target

theorem plain (h : files.Changed host place kind after) (hfiles : files.Plain host)
    (hkind : ∀ new, kind = some new → new.Plain) : after.Plain host := by
  refine ⟨h.valid, fun {other found} hfound => ?_, h.distinct hfiles.distinct⟩
  rw [h.kinds] at hfound
  split at hfound
  · exact hkind found hfound
  · exact hfiles.kinds hfound

theorem plain_directory (h : files.Changed host place (some .directory) after)
    (hfiles : files.Plain host) : after.Plain host :=
  h.plain hfiles fun _ hkind => .inl (Option.some.inj hkind).symm

theorem plain_file {content : Bytes} (h : files.Changed host place (some (.file content)) after)
    (hfiles : files.Plain host) : after.Plain host :=
  h.plain hfiles fun _ hkind => .inr ⟨content, (Option.some.inj hkind).symm⟩

section

variable {now : FileSystem} {inner other : Place} {name : Name}

/-- What is apart from the entry is as it was. -/
theorem at_source (h : now.Changed host (inner ++ [name]) kind after) (hapart : place.Apart inner)
    (rest : Place) : after.kind? (place ++ rest) = now.kind? (place ++ rest) := by
  rw [h.kinds, if_neg]
  exact fun heq => hapart.not_below [name] rest (heq ▸ List.prefix_rfl)

theorem at_below (h : now.Changed host other kind after) {rest : Place} (hrest : rest ≠ []) :
    after.kind? (other ++ rest) = now.kind? (other ++ rest) := by
  rw [h.kinds, if_neg (by simpa using hrest)]

end

end FileSystem.Changed

namespace Disk

variable {host : Host} {files : FileSystem} {path : Text} {place : Place} {name : Name}
variable {slashed : Bool}

theorem Aims.ends_entrySpot {rule : LinkRule}
    (haims : Aims host files rule path place name slashed) {ending : Cause}
    {done : Place × Name × Bool → FileSystem → Prop} {failed : Fault → FileSystem → Prop} :
    Ends (entrySpot host rule ending path) files done failed ↔
      done (place, name, slashed) files := by
  simp [Ends, entrySpot, ask, haims.hasNull, haims.locate]

/-! ### New entries -/

/-- A leaf is set where no directory is. -/
theorem changed_put (hfiles : files.Valid host) {node : Node}
    (hplace : files.kind? place = some .directory) (hname : Path.IsName name)
    (hsize : name.utf8Size ≤ host.nameLimit)
    (hkind : files.kind? (place ++ [name]) ≠ some .directory)
    (hnode : node.kind ≠ .directory ∨ node = .directory []) :
    files.Changed host (place ++ [name]) (some node.kind) (files.put place name node) := by
  have hleaf : ∀ other, node.child? other = none := by
    rcases hnode with hkind | rfl
    · exact Node.child?_of_kind_ne hkind
    · exact fun _ => rfl
  exact ⟨hfiles.put_leaf hplace hname hsize hkind hleaf,
    fun hdistinct => hdistinct.put (.of_leaf hleaf hnode) place name,
    FileSystem.working_put _ _ _ _,
    FileSystem.kind?_put_leaf hplace (FileSystem.bare_of_kind?_ne hkind) hleaf⟩

/-- What is no directory is taken away. -/
theorem changed_remove (hfiles : files.Valid host)
    (hkind : files.kind? (place ++ [name]) ≠ some .directory) :
    files.Changed host (place ++ [name]) none (files.remove place name) :=
  ⟨hfiles.remove hkind, fun hdistinct => hdistinct.remove place name,
    FileSystem.working_remove _ _ _,
    FileSystem.kind?_remove_bare (FileSystem.bare_of_kind?_ne hkind)⟩

section

variable (hfiles : files.Valid host)
include hfiles

section Directories

variable (haims : Aims host files .never path place name slashed)
include haims

/-- A directory is made where nothing stands. -/
theorem completes_makeDirectory (hsize : name.utf8Size ≤ host.nameLimit)
    (hnone : files.kind? (place ++ [name]) = none) :
    Completes (makeDirectory host path) files
      fun _ after => files.Changed host (place ++ [name]) (some .directory) after := by
  obtain ⟨hplace, hname⟩ := haims.isName hfiles
  simp only [Completes, makeDirectory, create, ends_bind, haims.ends_entrySpot, ends_checkName,
    ends_nodeAt, FileSystem.at?_eq_none_iff.mpr hnone]
  refine ⟨fun hlong => absurd hsize (Nat.not_le.mpr hlong), fun _ => ?_⟩
  simp only [Node.isDirectory, Bool.not_true, Bool.and_false, Bool.false_eq_true, if_false,
    ends_put]
  exact changed_put hfiles hplace hname hsize (by simp [hnone]) (.inr rfl)

omit hfiles in
/-- Where something stands, no directory is made. -/
theorem ends_makeDirectory_taken {node : Node} (hnode : files.at? (place ++ [name]) = some node) :
    Ends (makeDirectory host path) files (fun _ _ => False)
      (fun fault after => fault ≠ .nullByte ∧ after = files) := by
  simp only [makeDirectory, create, ends_bind, haims.ends_entrySpot, ends_checkName, ends_nodeAt,
    hnode]
  exact ⟨fun _ => ⟨by simp, trivial⟩, fun _ => ⟨by simp, rfl⟩⟩

/-- A directory is there in the end, be it new or not, and nothing else has changed. -/
theorem completes_ensureDirectory (hsize : name.utf8Size ≤ host.nameLimit)
    (hkind : ∀ kind, files.kind? (place ++ [name]) = some kind → kind = .directory) :
    Completes (ensureDirectory host path) files
      fun _ after => files.Changed host (place ++ [name]) (some .directory) after := by
  simp only [Completes, ensureDirectory, ends_bind, ends_attempt]
  cases hat : files.at? (place ++ [name]) with
  | none =>
      have hnone := FileSystem.at?_eq_none_iff.mp hat
      exact (completes_makeDirectory hfiles haims hsize hnone).mono (fun _ _ h => h)
        fun _ _ h => h.elim
  | some node =>
      have hthere := hkind _ (FileSystem.kind?_of_at? hat)
      have hdirectory : files.isDirectory host path = true := by
        have hfound := haims.target?_eq hfiles hat (fun _ => Node.isDirectory_iff.mpr hthere)
          (by simp [FileSystem.kind?_of_at? hat, hthere])
        obtain ⟨entries, rfl⟩ := Node.kind_eq_directory_iff.mp hthere
        rw [FileSystem.isDirectory, hfound]
      apply (ends_makeDirectory_taken haims hat).mono
      · exact fun _ _ h => h.elim
      · rintro fault after ⟨hfault, rfl⟩
        rw [if_neg hfault, ends_get, if_pos hdirectory]
        exact .same hfiles (hthere ▸ FileSystem.kind?_of_at? hat)

/-- Where the way to an entry is there, the directory is all that is made. -/
theorem completes_makeDirectories (hsize : name.utf8Size ≤ host.nameLimit)
    (hkind : ∀ kind, files.kind? (place ++ [name]) = some kind → kind = .directory) :
    Completes (makeDirectories host path) files
      fun _ after => files.Changed host (place ++ [name]) (some .directory) after := by
  have hensured := completes_ensureDirectory hfiles haims hsize hkind
  rw [makeDirectories]
  split
  · rename_i hsplit
    have hreaches := haims.reaches_splitLast hfiles hsplit.1
    simp only [Completes, ends_bind, ends_get, hreaches, if_true]
    exact hensured
  · exact hensured

end Directories

/-! ### Reading and writing -/

omit hfiles in
/-- All names are listed, each one once. -/
theorem completes_listNames_of_lookup {entries : Entries} (hnull : path.hasNull = false)
    (hlookup : files.lookup host .always path = .ok (place, .directory entries))
    (hentries : files.at? place = some (.directory entries)) :
    Completes (listNames host path) files fun names after => after = files ∧
      (files.Distinct → names.Nodup) ∧
      ∀ child, child ∈ names ↔ ∃ kind, files.kind? (place ++ [child]) = some kind := by
  have hperm := host.arrange_perm files place (Entries.names entries)
  have hask : Completes (ask path fun files => files.lookup host .always path) files
      fun found after => after = files ∧ found = (place, .directory entries) := by
    simp [Completes, Ends, ask, hnull, hlookup]
  rw [Completes, listNames, ends_bind]
  apply hask.ends
  rintro found after ⟨rfl, rfl⟩
  refine ⟨rfl, fun hdistinct => hperm.nodup_iff.mpr (hdistinct _ _ hentries), fun child => ?_⟩
  rw [hperm.mem_iff, FileSystem.mem_names_iff hentries]

theorem completes_listNames (haims : Aims host files .never path place name slashed)
    (hkind : files.kind? (place ++ [name]) = some .directory) :
    Completes (listNames host path) files fun names after => after = files ∧
      (files.Distinct → names.Nodup) ∧
      ∀ child, child ∈ names ↔ ∃ kind, files.kind? (place ++ [name] ++ [child]) = some kind := by
  obtain ⟨entries, hentries⟩ := FileSystem.exists_entries_of_kind? hkind
  have htarget := haims.target?_eq hfiles hentries (fun _ => rfl) (by simp [hkind])
  exact completes_listNames_of_lookup haims.hasNull
    (FileSystem.target?_eq_some_iff.mp htarget).2 hentries

theorem completes_readFile {content : Bytes}
    (haims : Aims host files .never path place name false)
    (hkind : files.kind? (place ++ [name]) = some (.file content)) :
    Completes (readFile host path) files fun read after => after = files ∧ read = content := by
  have hlookup : files.lookup host .always path = .ok (place ++ [name], .file content) :=
    (FileSystem.target?_eq_some_iff.mp
      (haims.target?_eq hfiles (FileSystem.at?_file_iff.mpr hkind) (by simp) (by simp [hkind]))).2
  have hask : Completes (ask path fun files => files.lookup host .always path) files
      fun found after => after = files ∧ found = (place ++ [name], .file content) := by
    simp [Completes, Ends, ask, haims.hasNull, hlookup]
  rw [Completes, readFile, ends_bind]
  apply hask.ends
  rintro found after ⟨rfl, rfl⟩
  exact ⟨rfl, rfl⟩

/-- A file is written where a file stands, or nothing, and there is room. -/
theorem completes_changeFile {content : Bytes}
    (haims : Aims host files .never path place name false) (hsize : name.utf8Size ≤ host.nameLimit)
    (hkind : ∀ kind, files.kind? (place ++ [name]) = some kind → ∃ old, kind = .file old)
    (hroom : host.breaksOff (place ++ [name]) [] content = none) :
    Completes (changeFile host path (fun _ => []) content) files
      fun _ after => files.Changed host (place ++ [name]) (some (.file content)) after := by
  obtain ⟨hplace, hname⟩ := haims.isName hfiles
  have hput := changed_put hfiles hplace hname hsize (fun hthere => by simpa using hkind _ hthere)
    (.inl (by simp [Node.kind] : (Node.file content).kind ≠ .directory))
  have hwrites : Aims host files .unlessSlashed path place name false :=
    haims.of_not_followed hfiles fun target hlink => by simpa using hkind _ hlink
  have hopened : Completes (openFile host path fun _ => []) files fun opened after =>
      opened = (place, name, []) ∧ after = files.put place name (.file []) := by
    simp only [Completes, openFile, ends_bind, hwrites.ends_entrySpot, ends_guard, ends_checkName,
      ends_nodeAt]
    refine ⟨by simp, fun _ => ⟨fun hlong => absurd hsize (Nat.not_le.mpr hlong), fun _ => ?_⟩⟩
    cases hat : files.at? (place ++ [name]) with
    | none => exact ⟨rfl, rfl⟩
    | some node =>
        have hnode := FileSystem.kind?_of_at? hat
        obtain ⟨old, hold⟩ := hkind _ hnode
        obtain rfl := Node.eq_of_kind (.file old) hold (by simp [hold])
        exact ⟨rfl, rfl⟩
  rw [Completes, changeFile, ends_bind]
  apply hopened.ends
  rintro _ _ ⟨rfl, rfl⟩
  apply ends_writeOpened.mono
  · rintro _ _ ⟨-, rfl⟩
    rw [FileSystem.put_put]
    exact hput
  · rintro _ _ ⟨-, count, hcount, -⟩
    exact absurd (hroom.symm.trans hcount) (by simp)

/-- A file is copied to where another file stands, or nothing, and there is room. -/
theorem completes_copyFile {target : Text} {targetPlace : Place} {targetName : Name}
    {content : Bytes} (haims : Aims host files .never path place name false)
    (hsource : files.kind? (place ++ [name]) = some (.file content))
    (htarget : Aims host files .never target targetPlace targetName false)
    (hsize : targetName.utf8Size ≤ host.nameLimit)
    (hkind : ∀ kind, files.kind? (targetPlace ++ [targetName]) = some kind →
      ∃ old, kind = .file old)
    (hne : place ++ [name] ≠ targetPlace ++ [targetName])
    (hroom : host.breaksOff (targetPlace ++ [targetName]) [] content = none) :
    Completes (copyFile host path target) files fun _ after =>
      files.Changed host (targetPlace ++ [targetName]) (some (.file content)) after := by
  have hfound := haims.target?_eq hfiles (FileSystem.at?_file_iff.mpr hsource) (by simp)
    (by simp [hsource])
  have hmissing : ∀ found, files.target? host target = some found →
      ∃ old, found = (targetPlace ++ [targetName], .file old) := by
    intro found hother
    cases hat : files.at? (targetPlace ++ [targetName]) with
    | none =>
        rw [htarget.target?_eq_none hfiles (FileSystem.at?_eq_none_iff.mp hat)] at hother
        cases hother
    | some node =>
        have hnode := FileSystem.kind?_of_at? hat
        obtain ⟨old, hold⟩ := hkind _ hnode
        obtain rfl := Node.eq_of_kind (.file old) hold (by simp [hold])
        rw [htarget.target?_eq hfiles hat (by simp) (by simp [hnode, hold]),
          Option.some.injEq] at hother
        exact ⟨old, hother.symm⟩
  have hsame : files.samePlace host path target = false := by
    rw [FileSystem.samePlace, hfound]
    cases hother : files.target? host target with
    | none => rfl
    | some found =>
        obtain ⟨old, rfl⟩ := hmissing found hother
        simpa using hne
  have hpipe : files.isPipe host path = false ∧ files.isPipe host target = false := by
    refine ⟨by rw [FileSystem.isPipe, hfound], ?_⟩
    rw [FileSystem.isPipe]
    cases hother : files.target? host target with
    | none => rfl
    | some found =>
        obtain ⟨old, rfl⟩ := hmissing found hother
        rfl
  simp only [Completes, copyFile, ends_bind, ends_get, ends_guard, haims.hasNull, htarget.hasNull,
    hsame, hpipe.1, hpipe.2, ends_attempt]
  refine ⟨by simp, fun _ => ⟨by simp, fun _ => ⟨by simp, fun _ => ⟨by simp, fun _ => ?_⟩⟩⟩⟩
  apply (completes_readFile hfiles haims hsource).ends
  rintro read after ⟨rfl, rfl⟩
  exact (completes_changeFile hfiles htarget hsize hkind hroom).mono (fun _ _ h => h)
    fun _ _ h => h.elim

/-! ### Removing -/

/-- What is no directory is removed, be it a file, a link or a pipe. -/
theorem completes_removeEntry {kind : Kind}
    (haims : Aims host files .never path place name false)
    (hkind : files.kind? (place ++ [name]) = some kind) (hne : kind ≠ .directory) :
    Completes (removeEntry host path) files
      fun _ after => files.Changed host (place ++ [name]) none after := by
  have hsize := hfiles.size hkind
  have hleaf : files.kind? (place ++ [name]) ≠ some .directory := by simpa [hkind] using hne
  obtain ⟨node, hnode, rfl⟩ := FileSystem.exists_at?_of_kind? hkind
  have hremoved := changed_remove hfiles hleaf
  simp only [Completes, removeEntry, ends_bind, haims.ends_entrySpot, ends_checkName, ends_nodeAt,
    hnode]
  refine ⟨fun hlong => absurd hsize (Nat.not_le.mpr hlong), fun _ => ?_⟩
  cases node with
  | directory entries => exact absurd rfl hne
  | _ => exact hremoved

/-- An empty directory is removed. -/
theorem completes_removeDirectory (haims : Aims host files .never path place name slashed)
    (hkind : files.kind? (place ++ [name]) = some .directory)
    (hbare : files.Bare (place ++ [name])) :
    Completes (removeDirectory host path) files fun _ after => after.Valid host ∧
      (files.Distinct → after.Distinct) ∧
      after.working = files.working.afterRemoval (place ++ [name]) ∧
      ∀ other, after.kind? other =
        if other = place ++ [name] then none else files.kind? other := by
  have hsize := hfiles.size hkind
  have hempty := hbare.at?_eq hkind
  simp only [Completes, removeDirectory, ends_bind, haims.ends_entrySpot, ends_checkName,
    ends_nodeAt, hempty]
  refine ⟨fun hlong => absurd hsize (Nat.not_le.mpr hlong), fun _ => ?_⟩
  exact ⟨hfiles.removeDirectory hempty, fun hdistinct => hdistinct.remove place name, rfl,
    FileSystem.kind?_remove_bare hbare⟩

end

end Disk

end LineShell
