import LineShell.Proofs.FileSystem.Arrivals
import LineShell.Proofs.FileSystem.NullFree

/-!
# Copying a tree in rounds

A tree can be copied with a list of the directories that are still to come: in each round the next one
of them is copied with its files, and the directories in it come before all others.  This takes the
directories up in the order of a copy that goes into each of them in turn, so both come to the same
end, as long as the depth that the other one is allowed does not run out; and it never does, because
each level makes the path longer.
-/

namespace LineShell.Disk

variable {host : Host} {files middle after : FileSystem} {source target : Text} {fault : Fault}

/-- Directories that are still to be copied, each with the path of its copy.  The first one is next. -/
abbrev Pending := List (Text × Text)

/-- Copies the entries of a directory that are no directories, and gives those that are, the last one
first. -/
def copyLevel (host : Host) (source target : Text) : Disk Pending := do
  makeDirectories host target
  let names ← listNames host source
  let directories ← copyEntries host source target names
  return directories.reverse.map fun name => (Path.join source name, Path.join target name)

/-- One round: the next directory is copied, and those in it come before the others. -/
def copyRound (host : Host) : Pending → Disk Pending
  | [] => return []
  | (source, target) :: rest => do return (← copyLevel host source target) ++ rest

/-- So many rounds, or fewer if no directory is left. -/
def copyRounds (host : Host) : Nat → Pending → Disk Pending
  | 0, pending => return pending
  | count + 1, pending => do copyRounds host count (← copyRound host pending)

/-- A copy that goes into each directory in turn goes into those that a round leaves. -/
theorem copyTree_succ (host : Host) (depth : Nat) (source target : Text) :
    copyTree host (depth + 1) source target = (do
      (← copyLevel host source target).forM fun pair => copyTree host depth pair.1 pair.2) := by
  simp only [copyTree, copyLevel, bind_assoc, pure_bind, List.forM_eq_forM, List.forM_map]

theorem copyRounds_nil (host : Host) (count : Nat) : copyRounds host count [] = pure [] := by
  induction count with
  | zero => rfl
  | succ count ih => rw [copyRounds, copyRound, pure_bind, ih]

theorem copyRounds_add (host : Host) (count more : Nat) (pending : Pending) :
    copyRounds host (count + more) pending =
      (do copyRounds host more (← copyRounds host count pending)) := by
  induction count generalizing pending with
  | zero => rw [Nat.zero_add, copyRounds, pure_bind]
  | succ count ih =>
      rw [Nat.succ_add, copyRounds, copyRounds, bind_assoc]
      exact congrArg _ (funext ih)

/-! ### Rounds that come to an end -/

/-- Some rounds on the pending directories come to an outcome, given those that are behind them. -/
def ComesTo (host : Host) (pending : Pending) (files : FileSystem)
    (outcome : Pending → EStateM.Result Fault FileSystem Pending) : Prop :=
  ∃ count, ∀ rest, copyRounds host count (pending ++ rest) files = outcome rest

/-- Some rounds copy the pending directories and leave those behind them. -/
abbrev Finishes (host : Host) (pending : Pending) (files after : FileSystem) : Prop :=
  ComesTo host pending files fun rest => .ok rest after

/-- Some rounds end in a fault while they copy the pending directories. -/
abbrev Breaks (host : Host) (pending : Pending) (files : FileSystem) (fault : Fault)
    (after : FileSystem) : Prop :=
  ComesTo host pending files fun _ => .error fault after

theorem Finishes.nil : Finishes host [] files files :=
  ⟨0, fun _ => rfl⟩

theorem Breaks.append {pending : Pending} (h : Breaks host pending files fault after)
    (others : Pending) : Breaks host (pending ++ others) files fault after := by
  obtain ⟨count, hcount⟩ := h
  refine ⟨count, fun rest => ?_⟩
  rw [List.append_assoc, hcount]

theorem Breaks.of_level (hlevel : copyLevel host source target files = .error fault after) :
    Breaks host [(source, target)] files fault after := by
  refine ⟨1, fun rest => ?_⟩
  have hround : copyRound host ((source, target) :: rest) files = .error fault after := by
    rw [copyRound, bind_of_error hlevel]
  rw [List.singleton_append, copyRounds, bind_of_error hround]

namespace ComesTo

variable {pending others : Pending} {outcome : Pending → EStateM.Result Fault FileSystem Pending}

/-- What comes of directories after those before them are copied. -/
theorem append (h : Finishes host pending files middle)
    (hothers : ComesTo host others middle outcome) : ComesTo host (pending ++ others) files outcome := by
  obtain ⟨count, hcount⟩ := h
  obtain ⟨more, hmore⟩ := hothers
  refine ⟨count + more, fun rest => ?_⟩
  rw [copyRounds_add, List.append_assoc, bind_of_ok (hcount (others ++ rest)), hmore]

/-- What comes of a directory after the round that leaves those in it. -/
theorem level (hlevel : copyLevel host source target files = .ok pending middle)
    (h : ComesTo host pending middle outcome) : ComesTo host [(source, target)] files outcome := by
  obtain ⟨count, hcount⟩ := h
  refine ⟨count + 1, fun rest => ?_⟩
  have hround : copyRound host ((source, target) :: rest) files = .ok (pending ++ rest) middle := by
    rw [copyRound, bind_of_ok hlevel]
    rfl
  rw [List.singleton_append, copyRounds, bind_of_ok hround, hcount]

end ComesTo

/-- So many rounds leave no directory, or end in a fault before. -/
def Settles (host : Host) (count : Nat) (pending : Pending) (files : FileSystem) : Prop :=
  Ends (copyRounds host count pending) files (fun left _ => left = []) fun _ _ => True

/-- Rounds that have come to an end stay there. -/
theorem Settles.add {count : Nat} {pending : Pending} (h : Settles host count pending files)
    (more : Nat) :
    copyRounds host (count + more) pending files = copyRounds host count pending files := by
  rw [copyRounds_add]
  cases hrun : copyRounds host count pending files with
  | ok left after =>
      obtain rfl := Ends.of_ok h hrun
      rw [bind_of_ok hrun, copyRounds_nil]
      rfl
  | error fault after => rw [bind_of_error hrun]

/-- They come to one end only. -/
theorem Settles.unique {count other : Nat} {pending : Pending}
    (h : Settles host count pending files) (hother : Settles host other pending files) :
    copyRounds host count pending files = copyRounds host other pending files :=
  calc
    copyRounds host count pending files = copyRounds host (count + other) pending files :=
      (h.add other).symm
    _ = copyRounds host (other + count) pending files := by rw [Nat.add_comm]
    _ = copyRounds host other pending files := hother.add count

theorem ComesTo.eq_of_settles {count : Nat} {pending : Pending}
    {outcome : Pending → EStateM.Result Fault FileSystem Pending}
    (h : ComesTo host pending files outcome) (hcount : Settles host count pending files)
    (hleft : ∀ left after, outcome [] = .ok left after → left = []) :
    copyRounds host count pending files = outcome [] := by
  obtain ⟨other, hother⟩ := h
  have hrun := hother []
  rw [List.append_nil] at hrun
  have hsettles : Settles host other pending files := by
    unfold Settles Ends
    rw [hrun]
    split
    · exact hleft _ _ ‹_›
    · trivial
  rw [hcount.unique hsettles, hrun]

/-! ### Going into each directory in turn -/

/-- A list of directories is worked off as each of them is. -/
theorem ends_forM_rounds {depth : Nat}
    (hcopy : ∀ source target files, Ends (copyTree host depth source target) files
      (fun _ after => Finishes host [(source, target)] files after)
      (fun fault after => (∃ path, fault = .tooDeep path) ∨
        Breaks host [(source, target)] files fault after))
    (pending : Pending) (files : FileSystem) :
    Ends (pending.forM fun pair => copyTree host depth pair.1 pair.2) files
      (fun _ after => Finishes host pending files after)
      (fun fault after => (∃ path, fault = .tooDeep path) ∨ Breaks host pending files fault after) := by
  induction pending generalizing files with
  | nil => exact .nil
  | cons pair rest ih =>
      rw [ends_forM_cons]
      apply (hcopy pair.1 pair.2 files).mono
      · intro _ middle hpair
        apply (ih middle).mono
        · exact fun _ after hrest => hpair.append hrest
        · exact fun fault after hrest => hrest.imp_right hpair.append
      · exact fun fault after hpair => hpair.imp_right fun hbreaks => hbreaks.append rest

/-- Rounds come to the end of the copy that goes into each directory in turn, if its depth does not
run out. -/
theorem ends_copyTree_rounds (host : Host) (depth : Nat) (source target : Text)
    (files : FileSystem) :
    Ends (copyTree host depth source target) files
      (fun _ after => Finishes host [(source, target)] files after)
      (fun fault after => (∃ path, fault = .tooDeep path) ∨
        Breaks host [(source, target)] files fault after) := by
  induction depth generalizing source target files with
  | zero => exact .inl ⟨target, rfl⟩
  | succ depth ih =>
      rw [copyTree_succ, ends_bind]
      have hlevel : Ends (copyLevel host source target) files
          (fun pending middle => copyLevel host source target files = .ok pending middle)
          (fun fault middle => copyLevel host source target files = .error fault middle) := by
        unfold Ends
        cases copyLevel host source target files <;> rfl
      apply hlevel.mono
      · intro pending middle hrun
        apply (ends_forM_rounds ih pending middle).mono
        · exact fun _ after hrest => hrest.level hrun
        · exact fun fault after hrest => hrest.imp_right fun hbreaks => hbreaks.level hrun
      · exact fun fault after hrun => .inr (.of_level hrun)

/-! ### The depth of a copy -/

/-- The depth that is allowed does not run out, because a directory with too long a path is not
listed.  So a copy ends in the faults of its calls only. -/
theorem keeps_copyTree_depth (free : Prop) {depth : Nat} {source target : Text}
    (hpositive : 0 < depth) (hdepth : host.pathLimit + 1 < depth + source.utf8Size)
    (hsource : free → source.hasNull = false) (htarget : free → target.hasNull = false) :
    Keeps (fun files => files.Valid host ∧ (free → files.NullFree))
      (fun fault => fault.OfSystem ∨ fault = .nullByte ∧ ¬ free)
      (copyTree host depth source target) := by
  have hcalls := levelCallsKeep_valid host free
  induction depth generalizing source target with
  | zero => exact absurd hpositive (Nat.lt_irrefl 0)
  | succ depth ih =>
      have hlists : Gives (fun files => files.Valid host ∧ (free → files.NullFree))
          (fun fault => fault.OfSystem ∨ fault = .nullByte ∧ ¬ free)
          (fun names => (∀ name ∈ names, Path.IsName name ∧ (free → name.hasNull = false)) ∧
            Path.Fits host source) (listNames host source) := by
        intro files hfiles
        apply ((hcalls.listNames hsource files hfiles).and ends_listNames).mono
        · rintro names after ⟨⟨hnames, hafter⟩, -, hnull, place, entries, hlookup, -⟩
          obtain ⟨spot, hlocate, -⟩ := FileSystem.exists_spot_of_lookup hlookup
          exact ⟨⟨hnames, .of_locate hnull hlocate⟩, hafter⟩
        · exact fun _ _ h => h.1
      refine (hcalls.makeDirectories htarget).bind fun _ _ => hlists.bind fun names hnames =>
        (hcalls.copyEntries hsource htarget hnames.1).bind fun directories hdirectories =>
        .forM fun name hname => ?_
      have hname := hdirectories name (List.mem_reverse.mp hname)
      have hsize := hnames.2.size
      have hlonger := Path.utf8Size_lt_join source hname.1
      apply ih
      · omega
      · omega
      · exact hcalls.join hsource hname
      · exact hcalls.join htarget hname

/-- Rounds that leave no directory come to the end of the copy of the tree, and this end is a fault of
the system if it is one, unless a null character is somewhere. -/
theorem ends_copyRounds_of_settles (hfiles : files.Valid host) {count : Nat}
    (hsettles : Settles host count [(source, target)] files) :
    Ends (copyRounds host count [(source, target)]) files
      (fun left after => left = [] ∧
        copyTree host (depthLimit host) source target files = .ok () after)
      (fun fault after => (fault.OfSystem ∨ fault = .nullByte ∧
          ¬ (files.NullFree ∧ source.hasNull = false ∧ target.hasNull = false)) ∧
        copyTree host (depthLimit host) source target files = .error fault after) := by
  have hdepth : host.pathLimit + 1 < depthLimit host + source.utf8Size := by
    unfold depthLimit
    omega
  have hfaults := keeps_copyTree_depth
    (files.NullFree ∧ source.hasNull = false ∧ target.hasNull = false) (Nat.succ_pos _)
    hdepth (fun h => h.2.1) (fun h => h.2.2) files ⟨hfiles, fun h => h.1⟩
  have hrounds := ends_copyTree_rounds host (depthLimit host) source target files
  cases hrun : copyTree host (depthLimit host) source target files with
  | ok value after =>
      have hend := (hrounds.of_ok hrun).eq_of_settles hsettles (by simp)
      exact (Ends.iff_of_ok hend).mpr ⟨rfl, rfl⟩
  | error fault after =>
      have hfault := (hfaults.of_error hrun).1
      refine (Ends.iff_of_error ?_).mpr ⟨hfault, rfl⟩
      rcases hrounds.of_error hrun with ⟨path, rfl⟩ | hbreaks
      · simp [Fault.OfSystem] at hfault
      · exact hbreaks.eq_of_settles hsettles (by simp)

end LineShell.Disk
