import LineShell.FileSystem.Transfer
import LineShell.Proofs.FileSystem.Calls

/-!
# What operations on trees keep

The operations on whole trees are made of single calls on paths that are put together on the way.
If the calls keep an invariant on a class of paths, and putting paths together does not lead out of
the class, then every such operation keeps the invariant, and it ends in nothing but the faults of
the calls and its own.
-/

namespace LineShell.Disk

variable {host : Host} {good : Text → Prop} {goodName : Name → Prop}
variable {invariant : FileSystem → Prop} {allowed : Fault → Prop}

/-- An attempt gives what the action gives, or one of its faults. -/
theorem gives_attempt {A : Type} {given : A → Prop} {action : Disk A}
    (haction : Gives invariant allowed given action) :
    Gives invariant allowed
      (fun result => match result with
        | .ok value => given value
        | .error fault => allowed fault)
      (attempt action) := by
  intro files hfiles
  have h := haction files hfiles
  unfold Ends at h ⊢
  unfold attempt
  cases hrun : action files with
  | ok value after =>
      rw [hrun] at h
      exact h
  | error fault after =>
      rw [hrun] at h
      cases fault <;> exact h

theorem keeps_succeeds {action : Disk Unit} (haction : Keeps invariant allowed action) :
    Keeps invariant allowed (succeeds action) :=
  (gives_attempt haction).bind fun _ _ => .pure trivial

/-! ### Making directories -/

theorem keeps_ensureDirectory {path : Text}
    (hmake : Keeps invariant allowed (makeDirectory host path)) :
    Keeps invariant allowed (ensureDirectory host path) := by
  refine (gives_attempt hmake).bind fun result hresult => ?_
  match result with
  | .ok () => exact .pure trivial
  | .error fault =>
      exact Gives.get.bind fun _ _ => .ite (fun _ => .pure trivial) fun _ => .throw hresult

theorem keeps_allowTaken {action : Disk Unit} (haction : Keeps invariant allowed action) :
    Keeps invariant allowed (allowTaken action) := by
  refine (gives_attempt haction).bind fun result hresult => ?_
  split
  · exact .pure trivial
  · exact .throw hresult
  · exact .pure trivial

theorem keeps_makeDirectories
    (hsplit : ∀ path, good path → (Path.splitLast path).2 ≠ [] → good (Path.splitLast path).1)
    (hmake : ∀ path, good path → Keeps invariant allowed (makeDirectory host path)) {path : Text}
    (hpath : good path) : Keeps invariant allowed (makeDirectories host path) := by
  induction path using makeDirectories.induct with
  | case1 path h ih =>
      rw [makeDirectories, dif_pos h]
      refine Gives.get.bind fun _ _ => .ite (fun _ => keeps_ensureDirectory (hmake path hpath))
        fun _ => (keeps_allowTaken (ih (hsplit path hpath h.2))).bind fun _ _ => ?_
      exact .ite (fun _ => .pure trivial) fun _ => keeps_ensureDirectory (hmake path hpath)
  | case2 path h =>
      rw [makeDirectories, dif_neg h]
      exact keeps_ensureDirectory (hmake path hpath)

/-- A class of paths on which the calls that the copy of one directory makes keep an invariant and end
in allowed faults. -/
structure LevelCallsKeep (host : Host) (good : Text → Prop) (goodName : Name → Prop)
    (invariant : FileSystem → Prop) (allowed : Fault → Prop) : Prop where
  join : ∀ {path name}, good path → goodName name → good (Path.join path name)
  splitLast : ∀ {path}, good path → good (Path.splitLast path).1
  listNames : ∀ {path}, good path →
    Gives invariant allowed (fun names => ∀ name ∈ names, goodName name) (listNames host path)
  readFile : ∀ {path}, good path → Keeps invariant allowed (readFile host path)
  makeDirectory : ∀ {path}, good path → Keeps invariant allowed (makeDirectory host path)
  changeFile : ∀ {path keep addition}, good path →
    Keeps invariant allowed (changeFile host path keep addition)
  nullByte : ∀ {path}, good path → path.hasNull = true → allowed .nullByte
  sameFile : ∀ source target, allowed (.sameFile source target)
  namedPipe : ∀ path, allowed (.namedPipe path)
  copyBrokenOff : ∀ source target, allowed (.copyBrokenOff source target)
  noDirectory : ∀ path, allowed (.noDirectory path)

/-- The same of the calls that the copy of a tree makes. -/
structure CopyCallsKeep (host : Host) (good : Text → Prop) (goodName : Name → Prop)
    (invariant : FileSystem → Prop) (allowed : Fault → Prop) : Prop extends
    LevelCallsKeep host good goodName invariant allowed where
  tooDeep : ∀ path, allowed (.tooDeep path)

/-- The same of the calls that a removal makes. -/
structure RemovalCallsKeep (host : Host) (good : Text → Prop) (goodName : Name → Prop)
    (invariant : FileSystem → Prop) (allowed : Fault → Prop) : Prop where
  join : ∀ {path name}, good path → goodName name → good (Path.join path name)
  listNames : ∀ {path}, good path →
    Gives invariant allowed (fun names => ∀ name ∈ names, goodName name) (listNames host path)
  removeEntry : ∀ {path}, good path → Keeps invariant allowed (removeEntry host path)
  removeDirectory : ∀ {path}, good path → Keeps invariant allowed (removeDirectory host path)
  tooDeep : ∀ path, allowed (.tooDeep path)

/-- The same of all single calls. -/
structure CallsKeep (host : Host) (good : Text → Prop) (goodName : Name → Prop)
    (invariant : FileSystem → Prop) (allowed : Fault → Prop) : Prop extends
    CopyCallsKeep host good goodName invariant allowed,
    RemovalCallsKeep host good goodName invariant allowed where
  absolute : ∀ {path}, good path →
    Gives invariant allowed (fun normal => good (Path.directory normal)) (absolute path)
  rename : ∀ {source target}, good source → good target →
    Keeps invariant allowed (rename host source target)
  sourceKept : ∀ path, allowed (.sourceKept path)

/-! ### Copying -/

/-- Directories are among the names that are copied, and each of them was found to be one. -/
theorem gives_copyEntries {source target : Text} {names : List Name} {found : Name → Prop}
    (hfile : ∀ name ∈ names,
      Keeps invariant allowed (copyFile host (Path.join source name) (Path.join target name)))
    (hfound : ∀ name ∈ names, ∀ now, invariant now →
      (now.isDirectory host (Path.join source name) &&
        !now.isLink host (Path.join source name)) = true → found name) :
    Gives invariant allowed
      (fun directories => directories.Sublist names ∧ ∀ name ∈ directories, found name)
      (copyEntries host source target names) := by
  induction names with
  | nil => exact .pure (by simp)
  | cons name rest ih =>
      have hrest := ih (fun other hother => hfile other (List.mem_cons_of_mem name hother))
        fun other hother => hfound other (List.mem_cons_of_mem name hother)
      refine Gives.get.bind fun now hnow => .ite (fun htest => ?_) fun _ => ?_
      · refine hrest.bind fun directories hdirectories => .pure ⟨hdirectories.1.cons_cons name, ?_⟩
        have hname := hfound name List.mem_cons_self now hnow htest
        exact List.forall_mem_cons.mpr ⟨hname, hdirectories.2⟩
      · exact (hfile name List.mem_cons_self).bind fun _ _ =>
          hrest.mono fun _ hdirectories => ⟨hdirectories.1.cons name, hdirectories.2⟩

namespace LevelCallsKeep

variable (hcalls : LevelCallsKeep host good goodName invariant allowed)
include hcalls

theorem makeDirectories {path : Text} (hpath : good path) :
    Keeps invariant allowed (makeDirectories host path) :=
  keeps_makeDirectories (fun _ h _ => hcalls.splitLast h) (fun _ => hcalls.makeDirectory) hpath

theorem copyFile {source target : Text} (hsource : good source) (htarget : good target) :
    Keeps invariant allowed (copyFile host source target) := by
  refine Gives.get.bind fun files _ => .ite (fun hnull => .throw ?_) fun _ =>
    .ite (fun _ => .throw (hcalls.sameFile source target)) fun _ =>
    .ite (fun _ => .throw (hcalls.namedPipe source)) fun _ =>
    .ite (fun _ => .throw (hcalls.namedPipe target)) fun _ =>
    (hcalls.readFile hsource).bind fun content _ =>
    (gives_attempt (hcalls.changeFile htarget)).bind fun result hresult => ?_
  · rcases (Bool.or_eq_true _ _).mp hnull with hnull | hnull
    · exact hcalls.nullByte hsource hnull
    · exact hcalls.nullByte htarget hnull
  · split
    · exact .pure trivial
    · exact .throw (hcalls.copyBrokenOff source target)
    · exact .ite (fun _ => .throw hresult) fun _ => .throw (hcalls.noDirectory target)
    · exact .throw hresult

theorem copyEntries {source target : Text} (hsource : good source) (htarget : good target)
    {names : List Name} (hnames : ∀ name ∈ names, goodName name) :
    Gives invariant allowed (fun directories => ∀ name ∈ directories, goodName name)
      (copyEntries host source target names) :=
  (gives_copyEntries (fun name hname => hcalls.copyFile (hcalls.join hsource (hnames name hname))
    (hcalls.join htarget (hnames name hname))) fun name hname _ _ _ => hnames name hname).mono
      fun _ h => h.2

end LevelCallsKeep

namespace CopyCallsKeep

variable (hcalls : CopyCallsKeep host good goodName invariant allowed)
include hcalls

theorem copyTree {depth : Nat} {source target : Text} (hsource : good source)
    (htarget : good target) : Keeps invariant allowed (copyTree host depth source target) := by
  induction depth generalizing source target with
  | zero => exact .throw (hcalls.tooDeep target)
  | succ depth ih =>
      refine (hcalls.makeDirectories htarget).bind fun _ _ =>
        (hcalls.listNames hsource).bind fun names hnames =>
        (hcalls.copyEntries hsource htarget hnames).bind fun directories hdirectories => ?_
      refine .forM fun name hname => ?_
      have hname := hdirectories name (List.mem_reverse.mp hname)
      exact ih (hcalls.join hsource hname) (hcalls.join htarget hname)

end CopyCallsKeep

/-! ### Removing -/

namespace RemovalCallsKeep

variable (hcalls : RemovalCallsKeep host good goodName invariant allowed)
include hcalls

theorem stripTree {depth : Nat} {path : Text} (hpath : good path) :
    Gives invariant allowed (fun directories => ∀ directory ∈ directories, good directory)
      (stripTree host depth path) := by
  induction depth generalizing path with
  | zero => exact .throw (hcalls.tooDeep path)
  | succ depth ih =>
      refine Gives.get.bind fun files _ => .ite (fun _ => ?_) fun _ => ?_
      · refine (hcalls.listNames hpath).bind fun names hnames => ?_
        refine (Gives.mapM fun name hname =>
          ih (hcalls.join hpath (hnames name (List.mem_reverse.mp hname)))).bind
            fun below hbelow => .pure ?_
        intro directory hdirectory
        rcases List.mem_cons.mp hdirectory with rfl | hdirectory
        · exact hpath
        · obtain ⟨directories, hdirectories, hmem⟩ := List.mem_flatten.mp hdirectory
          exact hbelow directories hdirectories directory hmem
      · exact (hcalls.removeEntry hpath).bind fun _ _ => .pure (by simp)

theorem removeTree {path : Text} (hpath : good path) :
    Keeps invariant allowed (removeTree host path) :=
  (hcalls.stripTree hpath).bind fun _ hdirectories => .forM fun directory hdirectory =>
    hcalls.removeDirectory (hdirectories directory (List.mem_reverse.mp hdirectory))

theorem tryRemoveTree {path : Text} (hpath : good path) :
    Keeps invariant allowed (tryRemoveTree host path) :=
  Gives.get.bind fun _ _ =>
    .ite (fun _ => keeps_succeeds (hcalls.removeTree hpath)) fun _ => .pure trivial

end RemovalCallsKeep

namespace CallsKeep

variable (hcalls : CallsKeep host good goodName invariant allowed)
include hcalls

theorem ensureParent {path : Text} (hpath : good path) :
    Keeps invariant allowed (ensureParent host path) :=
  (hcalls.absolute hpath).bind fun _ hnormal => hcalls.makeDirectories hnormal

/-! ### Moving -/

theorem moveByRelinking {source target : Text} (hsource : good source) (htarget : good target) :
    Keeps invariant allowed (moveByRelinking host source target) :=
  (hcalls.ensureParent htarget).bind fun _ _ => hcalls.rename hsource htarget

theorem moveByCopying {source target : Text} (hsource : good source) (htarget : good target) :
    Keeps invariant allowed (moveByCopying host source target) := by
  refine Gives.get.bind fun _ _ => ?_
  have hremove : Keeps invariant allowed (do
      if !(← Disk.tryRemoveTree host source) then throw (.sourceKept source) : Disk Unit) :=
    (hcalls.toRemovalCallsKeep.tryRemoveTree hsource).bind fun _ _ =>
      .ite (fun _ => .throw (hcalls.sourceKept source)) fun _ => .pure trivial
  refine .ite (fun _ => ?_) fun _ => ?_
  · exact (hcalls.copyTree hsource htarget).bind fun _ _ => hremove
  · exact (hcalls.copyFile hsource htarget).bind fun _ _ => hremove

end CallsKeep

end LineShell.Disk
