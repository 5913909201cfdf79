import LineShell.Proofs.FileSystem.Operations
import LineShell.Proofs.FileSystem.Valid
import LineShell.Proofs.Path.Sound

/-!
# Trees without null characters

Where no name and no link target has a null character in it, no operation brings one in as long as
it is asked about sound paths.  So nothing that the system is handed in the course of such an
operation can be refused for a null character, however many links are followed on the way.
-/

namespace LineShell

/-- A tree in which no name and no link target has a null character. -/
structure Node.NullFree (node : Node) : Prop where
  names : ∀ {place kind}, node.kind? place = some kind → ∀ name ∈ place, name.hasNull = false
  targets : ∀ {place target}, node.kind? place = some (.link target) → target.hasNull = false

/-- A file system in which no name and no link target has a null character. -/
def FileSystem.NullFree (files : FileSystem) : Prop :=
  files.root.NullFree

/-- A fault that a command can tell its user. -/
def Fault.Reported (fault : Fault) : Prop :=
  fault ≠ .nullByte ∧ fault ≠ .noWorkingDirectory

/-- A fault that the system raises for a path, or the copy of a file for what it finds. -/
def Fault.OfSystem : Fault → Prop
  | .system _ _ | .brokenOff | .copyBrokenOff _ _ | .sameFile _ _ | .namedPipe _
  | .noDirectory _ => True
  | _ => False

namespace FileSystem

variable {files : FileSystem}

theorem nullFree_of_kind? {after : FileSystem} (hfiles : files.NullFree)
    (hkind : ∀ place kind, after.kind? place = some kind → files.kind? place = some kind) :
    after.NullFree :=
  ⟨fun h => hfiles.names (hkind _ _ h), fun h => hfiles.targets (hkind _ _ h)⟩

theorem NullFree.put (hfiles : files.NullFree) {place : Place} {name : Name} {node : Node}
    (hname : name.hasNull = false) (hnode : node.NullFree) :
    (files.put place name node).NullFree := by
  by_cases hplace : files.kind? place = some .directory
  · refine ⟨fun {other kind} h => ?_, fun {other target} h => ?_⟩
    all_goals by_cases hprefix : place ++ [name] <+: other
    · obtain ⟨rest, rfl⟩ := hprefix
      rw [List.append_assoc] at h
      have hrest := hnode.names ((kind?_put hplace name node rest).symm.trans h)
      intro inner hinner
      rcases List.mem_append.mp hinner with hinner | hinner
      · rcases List.mem_append.mp hinner with hinner | hinner
        · exact hfiles.names hplace inner hinner
        · exact List.mem_singleton.mp hinner ▸ hname
      · exact hrest inner hinner
    · exact hfiles.names ((kind?_put_of_apart files node hprefix).symm.trans h)
    · obtain ⟨rest, rfl⟩ := hprefix
      rw [List.append_assoc] at h
      exact hnode.targets ((kind?_put hplace name node rest).symm.trans h)
    · exact hfiles.targets ((kind?_put_of_apart files node hprefix).symm.trans h)
  · apply nullFree_of_kind? hfiles
    intro other kind h
    exact (kind?_edit_of_ne hplace _ other).symm.trans h

theorem NullFree.remove (hfiles : files.NullFree) (place : Place) (name : Name) :
    (files.remove place name).NullFree := by
  refine nullFree_of_kind? hfiles fun other kind h => ?_
  by_cases hprefix : place ++ [name] <+: other
  · obtain ⟨rest, rfl⟩ := hprefix
    rw [List.append_assoc] at h
    exact absurd ((kind?_remove files place name rest).symm.trans h) (by simp)
  · exact (kind?_remove_of_apart files hprefix).symm.trans h

end FileSystem

namespace Node

theorem NullFree.of_leaf {node : Node} (hleaf : ∀ name, node.child? name = none)
    (hlink : ∀ target, node.kind = .link target → target.hasNull = false) : node.NullFree := by
  have hnil : ∀ {place kind}, node.kind? place = some kind → place = [] := by
    intro place kind h
    cases place with
    | nil => rfl
    | cons name rest => simp [kind?_cons, hleaf name] at h
  refine ⟨fun h name hmem => ?_, fun h => ?_⟩
  · simp [hnil h] at hmem
  · obtain rfl := hnil h
    exact hlink _ (Option.some.inj h)

theorem nullFree_file (content : Bytes) : (Node.file content).NullFree :=
  .of_leaf (fun _ => rfl) fun _ h => by simp [kind] at h

theorem nullFree_emptyDirectory : (Node.directory []).NullFree :=
  .of_leaf (fun _ => rfl) fun _ h => by simp [kind] at h

theorem nullFree_link {target : Text} (htarget : target.hasNull = false) :
    (Node.link target).NullFree :=
  .of_leaf (fun _ => rfl) fun _ h => Kind.link.inj h ▸ htarget

/-- A directory is free of null characters if its names and what they stand for are. -/
theorem nullFree_directory {entries : Entries}
    (hentries : ∀ entry ∈ entries, entry.1.hasNull = false ∧ entry.2.NullFree) :
    (Node.directory entries).NullFree := by
  refine ⟨fun {place kind} h name hmem => ?_, fun {place target} h => ?_⟩
  · cases place with
    | nil => simp at hmem
    | cons first rest =>
        obtain ⟨child, hmember, hkind⟩ := exists_mem_of_kind? h
        rcases List.mem_cons.mp hmem with rfl | hmem
        · exact (hentries _ hmember).1
        · exact (hentries _ hmember).2.names hkind name hmem
  · cases place with
    | nil => simp [kind] at h
    | cons first rest =>
        obtain ⟨child, hmember, hkind⟩ := exists_mem_of_kind? h
        exact (hentries _ hmember).2.targets hkind

theorem NullFree.of_at? {files : FileSystem} (hfiles : files.NullFree) {place : Place} {node : Node}
    (h : files.at? place = some node) : node.NullFree :=
  ⟨fun hkind name hmem => hfiles.names ((FileSystem.kind?_append h _).trans hkind) name
      (List.mem_append_right place hmem),
    fun hkind => hfiles.targets ((FileSystem.kind?_append h _).trans hkind)⟩

end Node

theorem Path.hasNull_of_mem_splitOn {path component : Text} (hpath : path.hasNull = false)
    (hmem : component ∈ Text.splitOn '/' path) : component.hasNull = false :=
  Path.hasNull_eq_false_iff.mpr fun hnull =>
    Path.hasNull_eq_false_iff.mp hpath (Text.mem_of_mem_splitWhere hmem hnull)

namespace Disk

variable {host : Host} {files : FileSystem}

theorem Aims.hasNull_name {rule : LinkRule} {path : Text} {place : Place} {name : Name}
    {slashed : Bool} (haims : Aims host files rule path place name slashed)
    (hfiles : files.NullFree) (hpath : Path.Sound path) : name.hasNull = false := by
  rcases FileSystem.walks_of_locate (.inl hpath.isAbsolute) haims.locate with
    ⟨hrelative, -⟩ | hwalks
  · exact absurd hpath.isAbsolute (by simp [hrelative])
  · have hname := hwalks.of_components (·.hasNull = false)
      (fun _ _ hkind _ hmem => Path.hasNull_of_mem_splitOn (hfiles.targets hkind) hmem)
      (fun _ hmem => Path.hasNull_of_mem_splitOn hpath.hasNull hmem)
    exact hname.2.2

theorem Refused.reported {path : Text} {fault : Fault} {after : FileSystem}
    (h : Refused files path fault after) (hpath : Path.Sound path) : fault.Reported := by
  have hfault := h.2
  rw [hpath.hasNull] at hfault
  obtain ⟨cause, rfl⟩ := hfault
  exact ⟨by simp, by simp⟩

/-- A call that leaves no null character, and else is refused, keeps the tree free of them. -/
theorem keeps_nullFree {A : Type} {action : Disk A} {path : Text} (hpath : Path.Sound path)
    {done : FileSystem → A → FileSystem → Prop} {given : A → Prop}
    (hends : ∀ files, Ends action files (done files) (Refused files path))
    (hdone : ∀ files value after, files.NullFree → done files value after →
      given value ∧ after.NullFree) :
    Gives FileSystem.NullFree Fault.Reported given action := by
  intro files hfiles
  refine (hends files).mono (fun value after h => hdone files value after hfiles h) ?_
  intro fault after h
  exact ⟨h.reported hpath, h.1 ▸ hfiles⟩

theorem gives_absolute {path : Text} (hpath : Path.Sound path) :
    Gives FileSystem.NullFree Fault.Reported Path.Sound (absolute path) := by
  intro files hfiles
  simp only [absolute, ends_bind, ends_get, FileSystem.absolute?_of_isAbsolute _ hpath.isAbsolute]
  exact ⟨hpath.normalize, hfiles⟩

/-- On sound paths every call keeps the tree free of null characters, and its faults are reported.
-/
theorem callsKeep_nullFree (host : Host) :
    CallsKeep host Path.Sound (fun name => name.hasNull = false) FileSystem.NullFree
      Fault.Reported where
  join hpath hname := hpath.join hname
  splitLast hpath := hpath.splitLast
  absolute hpath := (gives_absolute hpath).mono fun _ hnormal => hnormal.directory
  listNames hpath := by
    apply keeps_nullFree hpath (fun _ => ends_listNames)
    rintro files names _ hfiles ⟨rfl, -, place, entries, hlookup, hperm⟩
    refine ⟨fun name hname => ?_, hfiles⟩
    have hentries :=
      FileSystem.at?_of_lookup (.inl hpath.isAbsolute) hlookup (.inl hpath.isAbsolute)
    obtain ⟨kind, hkind⟩ := (FileSystem.mem_names_iff hentries).mp (hperm.mem_iff.mp hname)
    exact hfiles.names hkind name (by simp)
  readFile hpath := by
    apply keeps_nullFree hpath (fun _ => ends_readFile)
    rintro files content _ hfiles ⟨rfl, -⟩
    exact ⟨trivial, hfiles⟩
  makeDirectory hpath := by
    apply keeps_nullFree hpath (fun _ => ends_create)
    rintro files - _ hfiles ⟨place, name, slashed, haims, -, -, rfl⟩
    exact ⟨trivial, hfiles.put (haims.hasNull_name hfiles hpath) Node.nullFree_emptyDirectory⟩
  changeFile hpath :=
    keeps_changeFile (fun h => h.reported hpath) ⟨by simp, by simp⟩ fun _ hfiles hopens =>
      hfiles.put (hopens.aims.hasNull_name hfiles hpath) (Node.nullFree_file _)
  removeEntry hpath := by
    apply keeps_nullFree hpath (fun _ => ends_removeEntry)
    rintro files - _ hfiles ⟨place, name, node, -, -, -, rfl⟩
    exact ⟨trivial, hfiles.remove place name⟩
  removeDirectory hpath := by
    apply keeps_nullFree hpath (fun _ => ends_removeDirectory)
    rintro files - _ hfiles ⟨place, name, slashed, -, -, rfl⟩
    exact ⟨trivial, hfiles.remove place name⟩
  rename {source target} hsource htarget files hfiles := by
    apply ends_rename.mono
    · rintro - after ⟨place, name, _, targetPlace, targetName, slashed, node, -, haims, hnode,
        -, -, -, -, h⟩
      rcases h with ⟨-, rfl⟩ | ⟨-, -, rfl⟩
      · exact ⟨trivial, hfiles⟩
      · exact ⟨trivial, (hfiles.remove place name).put (haims.hasNull_name hfiles htarget)
          (.of_at? hfiles hnode)⟩
    · rintro fault after ⟨rfl, ⟨hnull, -⟩ | ⟨cause, path, rfl⟩⟩
      · simp [hsource.hasNull, htarget.hasNull] at hnull
      · exact ⟨⟨by simp, by simp⟩, hfiles⟩
  nullByte hpath hnull := absurd hnull (by simp [hpath.hasNull])
  sameFile _ _ := ⟨by simp, by simp⟩
  namedPipe _ := ⟨by simp, by simp⟩
  copyBrokenOff _ _ := ⟨by simp, by simp⟩
  noDirectory _ := ⟨by simp, by simp⟩
  tooDeep _ := ⟨by simp, by simp⟩
  sourceKept _ := ⟨by simp, by simp⟩

/-! ### Paths that need not be absolute -/

theorem Aims.hasNull_name_of_valid {rule : LinkRule} {path : Text} {place : Place} {name : Name}
    {slashed : Bool} (haims : Aims host files rule path place name slashed)
    (hvalid : files.Valid host) (hfree : files.NullFree) : name.hasNull = false :=
  ((haims.walks hvalid).of_components (·.hasNull = false)
    (fun _ _ hkind _ hmem => Path.hasNull_of_mem_splitOn (hfree.targets hkind) hmem)
    fun _ hmem => Path.hasNull_of_mem_splitOn haims.hasNull hmem).2.2

section Valid

variable {path : Text} (hvalid : files.Valid host)
include hvalid

theorem ends_listNames_valid :
    Ends (listNames host path) files
      (fun names after => after = files ∧ ∀ name ∈ names, Path.IsName name ∧
        (files.NullFree → name.hasNull = false))
      (Refused files path) := by
  apply ((ends_listNames_kind? hvalid).and ends_listNames).mono
  · rintro names _ ⟨⟨rfl, hlisted⟩, -⟩
    refine ⟨rfl, fun name hname => ?_⟩
    obtain ⟨place, kind, hkind⟩ := hlisted name hname
    exact ⟨hvalid.isName hkind, fun hfree => hfree.names hkind name (by simp)⟩
  · exact fun _ _ h => h.2

theorem ends_makeDirectory_valid :
    Ends (makeDirectory host path) files
      (fun _ after => after.Valid host ∧ (files.NullFree → after.NullFree))
      (Refused files path) := by
  apply ends_create.mono_done
  rintro - _ ⟨place, name, slashed, haims, hsize, hnone, rfl⟩
  obtain ⟨hplace, hname⟩ := haims.isName hvalid
  have hkind := FileSystem.at?_eq_none_iff.mp hnone
  exact ⟨hvalid.put_leaf hplace hname hsize (by simp [hkind]) fun _ => rfl, fun hfree =>
    hfree.put (haims.hasNull_name_of_valid hvalid hfree) Node.nullFree_emptyDirectory⟩

theorem valid_of_opens {place : Place} {name : Name} {content : Bytes}
    (hopens : Opens host files path place name content) (written : Bytes) :
    (files.put place name (.file written)).Valid host ∧
      (files.NullFree → (files.put place name (.file written)).NullFree) := by
  obtain ⟨hplace, hname⟩ := hopens.aims.isName hvalid
  refine ⟨hvalid.put_leaf hplace hname hopens.size ?_ fun _ => rfl, fun hfree =>
    hfree.put (hopens.aims.hasNull_name_of_valid hvalid hfree) (Node.nullFree_file _)⟩
  intro hdirectory
  rcases hopens.old with ⟨hnone, -⟩ | hfile
  · simp [FileSystem.at?_eq_none_iff.mp hnone] at hdirectory
  · simp [FileSystem.kind?_of_at? hfile, Node.kind] at hdirectory

end Valid

/-- A call that keeps an invariant, and else is refused with an allowed fault. -/
theorem gives_of_refused {A : Type} {action : Disk A} {path : Text} {invariant : FileSystem → Prop}
    {allowed : Fault → Prop} {given : A → Prop}
    (hallowed : ∀ {files fault after}, Refused files path fault after → allowed fault)
    (hends : ∀ files, invariant files → Ends action files
      (fun value after => given value ∧ invariant after) (Refused files path)) :
    Gives invariant allowed given action := by
  intro files hfiles
  apply (hends files hfiles).mono fun _ _ h => h
  rintro fault after h
  exact ⟨hallowed h, h.1 ▸ hfiles⟩

/-- On paths without null characters the calls of a removal do not end in the fault of one. -/
theorem removalCallsKeep_nullFree (host : Host) :
    RemovalCallsKeep host (fun path => path.hasNull = false) (fun name => name.hasNull = false)
      (fun files => files.Valid host ∧ files.NullFree) (· ≠ .nullByte) := by
  have hrefused : ∀ {path}, path.hasNull = false → ∀ {files fault after},
      Refused files path fault after → fault ≠ .nullByte := by
    rintro path hpath files fault after ⟨-, hfault⟩
    rw [hpath] at hfault
    obtain ⟨cause, rfl⟩ := hfault
    simp
  refine ⟨Path.hasNull_join, fun hpath => ?_, fun hpath => ?_, fun hpath => ?_, fun _ => by simp⟩
  · apply gives_of_refused (hrefused hpath)
    rintro files ⟨hvalid, hfree⟩
    apply (ends_listNames_valid hvalid).mono_done
    rintro names _ ⟨rfl, hnames⟩
    exact ⟨fun name hname => (hnames name hname).2 hfree, hvalid, hfree⟩
  · apply gives_of_refused (hrefused hpath)
    rintro files ⟨hvalid, hfree⟩
    apply ends_removeEntry.mono_done
    rintro - _ ⟨place, name, node, -, hnode, hleaf, rfl⟩
    refine ⟨trivial, hvalid.remove ?_, hfree.remove place name⟩
    rw [FileSystem.kind?_of_at? hnode]
    intro hdirectory
    simp [Node.isDirectory_iff.mpr (Option.some.inj hdirectory)] at hleaf
  · apply gives_of_refused (hrefused hpath)
    rintro files ⟨hvalid, hfree⟩
    apply ends_removeDirectory.mono_done
    rintro - _ ⟨place, name, slashed, -, hempty, rfl⟩
    exact ⟨trivial, hvalid.removeDirectory hempty, hfree.remove place name⟩

/-- The calls that copy a directory end in faults of the system or of what they find, or in that of a
null character, and this not where the tree and the paths are free of them. -/
theorem levelCallsKeep_valid (host : Host) (free : Prop) :
    LevelCallsKeep host (fun path => free → path.hasNull = false)
      (fun name => Path.IsName name ∧ (free → name.hasNull = false))
      (fun files => files.Valid host ∧ (free → files.NullFree))
      (fun fault => fault.OfSystem ∨ fault = .nullByte ∧ ¬ free) := by
  have hrefused : ∀ {path : Text}, (free → path.hasNull = false) → ∀ {files fault after},
      Refused files path fault after → fault.OfSystem ∨ fault = .nullByte ∧ ¬ free := by
    rintro path hpath files fault after ⟨-, hfault⟩
    split at hfault
    · rename_i hnull
      exact .inr ⟨hfault, fun hfree => by simp [hpath hfree] at hnull⟩
    · obtain ⟨cause, rfl⟩ := hfault
      exact .inl trivial
  refine ⟨fun hpath hname hfree => Path.hasNull_join (hpath hfree) (hname.2 hfree),
    fun hpath hfree => Path.hasNull_splitLast (hpath hfree), fun hpath => ?_, fun hpath => ?_,
    fun hpath => ?_, fun hpath => ?_, fun hpath hnull => ?_, fun _ _ => .inl trivial,
    fun _ => .inl trivial, fun _ _ => .inl trivial, fun _ => .inl trivial⟩
  · apply gives_of_refused (hrefused hpath)
    rintro files ⟨hvalid, hfree⟩
    apply (ends_listNames_valid hvalid).mono_done
    rintro names _ ⟨rfl, hnames⟩
    exact ⟨fun name hname => (hnames name hname).imp_right fun h hfree' => h (hfree hfree'), hvalid,
      hfree⟩
  · apply gives_of_refused (hrefused hpath)
    intro files hfiles
    apply ends_readFile.mono_done
    rintro content _ ⟨rfl, -⟩
    exact ⟨trivial, hfiles⟩
  · apply gives_of_refused (hrefused hpath)
    rintro files ⟨hvalid, hfree⟩
    apply (ends_makeDirectory_valid hvalid).mono_done
    exact fun _ _ h => ⟨trivial, h.1, fun hfree' => h.2 (hfree hfree')⟩
  · refine keeps_changeFile (hrefused hpath) (.inl trivial) ?_
    rintro files place name content written ⟨hvalid, hfree⟩ hopens
    have h := valid_of_opens hvalid hopens written
    exact ⟨h.1, fun hfree' => h.2 (hfree hfree')⟩
  · exact .inr ⟨rfl, fun hfree => by simp [hpath hfree] at hnull⟩

end Disk

end LineShell
