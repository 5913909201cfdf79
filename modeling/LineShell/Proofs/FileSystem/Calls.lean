import LineShell.FileSystem.Content
import LineShell.Proofs.Core.Outcome

/-!
# What a call to the system does

Each call either changes at most one entry, or is refused and changes nothing.  The lemmas say under
which condition it does what; the refusals are told apart only by whether the path could be handed
to the system at all.  A write can also be broken off: then the file has what it had kept and the
first of the bytes.
-/

namespace LineShell.Disk

variable {host : Host} {files : FileSystem}

/-- A call on a path was refused: the files are as before, and the fault is that of a path with a
null character or names the path. -/
def Refused (files : FileSystem) (path : Text) (fault : Fault) (after : FileSystem) : Prop :=
  after = files ∧ if path.hasNull then fault = .nullByte else ∃ cause, fault = .system cause path

theorem ends_ask {A : Type} {path : Text} {question : FileSystem → Except Cause A} :
    Ends (ask path question) files
      (fun value after => after = files ∧ path.hasNull = false ∧ question files = .ok value)
      (Refused files path) := by
  unfold Ends ask
  cases hnull : path.hasNull with
  | true => exact ⟨rfl, by rw [hnull]; rfl⟩
  | false =>
      cases hquestion : question files with
      | ok value => exact ⟨rfl, rfl, rfl⟩
      | error cause => exact ⟨rfl, by rw [hnull]; exact ⟨cause, rfl⟩⟩

/-- Where an entry is looked for, if the call goes on to it. -/
structure Aims (host : Host) (files : FileSystem) (rule : LinkRule) (path : Text) (place : Place)
    (name : Name) (slashed : Bool) : Prop where
  hasNull : path.hasNull = false
  locate : files.locate host rule path = .ok (.entry place name slashed)

theorem ends_entrySpot {rule : LinkRule} {ending : Cause} {path : Text} :
    Ends (entrySpot host rule ending path) files
      (fun spot after => after = files ∧ Aims host files rule path spot.1 spot.2.1 spot.2.2)
      (Refused files path) := by
  apply ends_ask.mono_done
  rintro ⟨place, name, slashed⟩ after ⟨rfl, hnull, hspot⟩
  refine ⟨rfl, hnull, ?_⟩
  split at hspot <;> simp_all

theorem refused_of_not_hasNull (files : FileSystem) {path : Text} (hnull : path.hasNull = false)
    (cause : Cause) :
    Refused files path (.system cause path) files :=
  ⟨rfl, by rw [hnull]; exact ⟨cause, rfl⟩⟩

/-- A call goes on with the answer to its question, and is refused where there is none. -/
theorem ends_ask_bind {A B : Type} {path : Text} {question : FileSystem → Except Cause A}
    {next : A → Disk B} {done : B → FileSystem → Prop}
    (h : ∀ value, path.hasNull = false → question files = .ok value →
      (∀ cause, Refused files path (.system cause path) files) →
      Ends (next value) files done (Refused files path)) :
    Ends (ask path question >>= next) files done (Refused files path) := by
  rw [ends_bind]
  apply ends_ask.mono _ fun _ _ hrefused => hrefused
  rintro value after ⟨rfl, hnull, hvalue⟩
  exact h value hnull hvalue (refused_of_not_hasNull after hnull)

/-- A call goes on from the entry it comes to, and is refused where it comes to none. -/
theorem ends_entrySpot_bind {A : Type} {rule : LinkRule} {ending : Cause} {path : Text}
    {next : Place × Name × Bool → Disk A} {done : A → FileSystem → Prop}
    (h : ∀ place name slashed, Aims host files rule path place name slashed →
      (∀ cause, Refused files path (.system cause path) files) →
      Ends (next (place, name, slashed)) files done (Refused files path)) :
    Ends (entrySpot host rule ending path >>= next) files done (Refused files path) := by
  rw [ends_bind]
  apply ends_entrySpot.mono _ fun _ _ hrefused => hrefused
  rintro ⟨place, name, slashed⟩ after ⟨rfl, haims⟩
  exact h place name slashed haims (refused_of_not_hasNull after haims.hasNull)

/-- An attempt goes on after every fault but the one of a null character. -/
theorem ends_attempt {A : Type} {action : Disk A} {done : Except Fault A → FileSystem → Prop}
    {failed : Fault → FileSystem → Prop} :
    Ends (attempt action) files done failed ↔
      Ends action files (fun value after => done (.ok value) after)
        (fun fault after =>
          if fault = .nullByte then failed .nullByte after else done (.error fault) after) := by
  unfold Ends attempt
  cases action files with
  | ok value after => rfl
  | error fault after => cases fault <;> simp

@[simp]
theorem ends_checkName {path : Text} {name : Name} {done : Unit → FileSystem → Prop}
    {failed : Fault → FileSystem → Prop} :
    Ends (checkName host path name) files done failed ↔
      (host.nameLimit < name.utf8Size → failed (.system .nameTooLong path) files) ∧
        (¬ host.nameLimit < name.utf8Size → done () files) := by
  unfold checkName
  by_cases h : host.nameLimit < name.utf8Size <;> simp [h]

@[simp]
theorem ends_nodeAt {place : Place} {name : Name} {done : Option Node → FileSystem → Prop}
    {failed : Fault → FileSystem → Prop} :
    Ends (nodeAt place name) files done failed ↔ done (files.at? (place ++ [name])) files := Iff.rfl

@[simp]
theorem ends_put {place : Place} {name : Name} {node : Node} {done : Unit → FileSystem → Prop}
    {failed : Fault → FileSystem → Prop} :
    Ends (put place name node) files done failed ↔ done () (files.put place name node) := Iff.rfl

/-- A new entry is made where nothing was. -/
theorem ends_create {path : Text} {node : Node} :
    Ends (create host path node) files
      (fun _ after => ∃ place name slashed, Aims host files .never path place name slashed ∧
        name.utf8Size ≤ host.nameLimit ∧ files.at? (place ++ [name]) = none ∧
        after = files.put place name node)
      (Refused files path) := by
  unfold create
  apply ends_entrySpot_bind
  intro place name slashed haims hrefused
  simp only [ends_bind, ends_checkName, ends_nodeAt]
  refine ⟨fun _ => hrefused _, fun hsize => ?_⟩
  cases hnode : files.at? (place ++ [name]) with
  | some other => exact hrefused _
  | none =>
      simp only []
      split
      · exact hrefused _
      · exact ⟨place, name, slashed, haims, Nat.le_of_not_lt hsize, hnode, rfl⟩

theorem ends_createFile {path : Text} :
    Ends (createFile host path) files
      (fun _ after => ∃ place name, Aims host files .never path place name false ∧
        name.utf8Size ≤ host.nameLimit ∧ files.at? (place ++ [name]) = none ∧
        after = files.put place name (.file []))
      (Refused files path) := by
  unfold createFile
  apply ends_entrySpot_bind
  intro place name slashed haims hrefused
  simp only [ends_guard, ends_bind, ends_checkName, ends_nodeAt]
  refine ⟨fun _ => hrefused _, fun hslashed => ⟨fun _ => hrefused _, fun hsize => ?_⟩⟩
  rw [Bool.not_eq_true] at hslashed
  subst hslashed
  cases hnode : files.at? (place ++ [name]) with
  | some other => exact hrefused _
  | none => exact ⟨place, name, haims, Nat.le_of_not_lt hsize, hnode, rfl⟩

/-- There is a file with some content where a path leads, or there could be one. -/
structure Opens (host : Host) (files : FileSystem) (path : Text) (place : Place) (name : Name)
    (content : Bytes) : Prop where
  aims : Aims host files .unlessSlashed path place name false
  size : name.utf8Size ≤ host.nameLimit
  old : files.at? (place ++ [name]) = none ∧ content = [] ∨
    files.at? (place ++ [name]) = some (.file content)

theorem ends_openFile {path : Text} {keep : Bytes → Bytes} :
    Ends (openFile host path keep) files
      (fun (place, name, kept) after => ∃ content, Opens host files path place name content ∧
        kept = keep content ∧ after = files.put place name (.file kept))
      (Refused files path) := by
  unfold openFile
  apply ends_entrySpot_bind
  intro place name slashed haims hrefused
  simp only [ends_guard, ends_bind, ends_checkName, ends_nodeAt]
  refine ⟨fun _ => hrefused _, fun hslashed => ⟨fun _ => hrefused _, fun hsize => ?_⟩⟩
  rw [Bool.not_eq_true] at hslashed
  subst hslashed
  have hle := Nat.le_of_not_lt hsize
  cases hnode : files.at? (place ++ [name]) with
  | none => exact ⟨[], ⟨haims, hle, .inl ⟨hnode, rfl⟩⟩, rfl, rfl⟩
  | some node =>
      cases node with
      | file content => exact ⟨content, ⟨haims, hle, .inr hnode⟩, rfl, rfl⟩
      | pipe => exact hrefused _
      | directory entries => exact hrefused _
      | link target => exact hrefused _

theorem ends_writeOpened {place : Place} {name : Name} {kept addition : Bytes} :
    Ends (writeOpened host place name kept addition) files
      (fun _ after => host.breaksOff (place ++ [name]) kept addition = none ∧
        after = files.put place name (.file (kept ++ addition)))
      (fun fault after => fault = .brokenOff ∧ ∃ count,
        host.breaksOff (place ++ [name]) kept addition = some count ∧
        after = files.put place name (.file (kept ++ addition.take count))) := by
  unfold writeOpened
  cases hcount : host.breaksOff (place ++ [name]) kept addition with
  | none => exact ⟨rfl, rfl⟩
  | some count => exact ⟨rfl, count, rfl, rfl⟩

/-- Why a change of a file did not come to its end: it was refused, or the machine broke the writing
off.  Then the file has what it has kept and the first of the bytes. -/
inductive Interrupted (host : Host) (files : FileSystem) (path : Text) (keep : Bytes → Bytes)
    (addition : Bytes) : Fault → FileSystem → Prop
  | refused {fault : Fault} {after : FileSystem} (h : Refused files path fault after) :
      Interrupted host files path keep addition fault after
  | brokenOff {place : Place} {name : Name} {content : Bytes} {count : Nat}
      (hopens : Opens host files path place name content)
      (hcount : host.breaksOff (place ++ [name]) (keep content) addition = some count) :
      Interrupted host files path keep addition .brokenOff
        (files.put place name (.file (keep content ++ addition.take count)))

/-- A file gets its new content, also one that was not there. -/
theorem ends_changeFile {path : Text} {keep : Bytes → Bytes} {addition : Bytes} :
    Ends (changeFile host path keep addition) files
      (fun _ after => ∃ place name content, Opens host files path place name content ∧
        host.breaksOff (place ++ [name]) (keep content) addition = none ∧
        after = files.put place name (.file (keep content ++ addition)))
      (Interrupted host files path keep addition) := by
  unfold changeFile
  rw [ends_bind]
  apply ends_openFile.mono _ fun _ _ hrefused => .refused hrefused
  rintro ⟨place, name, -⟩ after ⟨content, hopens, rfl, rfl⟩
  apply ends_writeOpened.mono
  · rintro - last ⟨hwhole, rfl⟩
    rw [FileSystem.put_put]
    exact ⟨place, name, content, hopens, hwhole, rfl⟩
  · rintro - last ⟨rfl, count, hcount, rfl⟩
    rw [FileSystem.put_put]
    exact .brokenOff hopens hcount

/-- A change of a file keeps what setting the content of an opened file keeps. -/
theorem keeps_changeFile {invariant : FileSystem → Prop} {allowed : Fault → Prop} {path : Text}
    {keep : Bytes → Bytes} {addition : Bytes}
    (hrefused : ∀ {files fault after}, Refused files path fault after → allowed fault)
    (hbrokenOff : allowed .brokenOff)
    (hput : ∀ {files place name content} (written : Bytes), invariant files →
      Opens host files path place name content →
      invariant (files.put place name (.file written))) :
    Keeps invariant allowed (changeFile host path keep addition) := by
  intro files hfiles
  apply ends_changeFile.mono
  · rintro - _ ⟨place, name, content, hopens, -, rfl⟩
    exact ⟨trivial, hput _ hfiles hopens⟩
  · rintro fault after (h | ⟨hopens, -⟩)
    · exact ⟨hrefused h, h.1 ▸ hfiles⟩
    · exact ⟨hbrokenOff, hput _ hfiles hopens⟩

theorem ends_readFile {path : Text} :
    Ends (readFile host path) files
      (fun content after => after = files ∧ path.hasNull = false ∧
        ∃ place, files.lookup host .always path = .ok (place, .file content))
      (Refused files path) := by
  unfold readFile
  apply ends_ask_bind
  rintro ⟨place, node⟩ hnull hlookup hrefused
  cases node with
  | file content => exact ⟨rfl, hnull, place, hlookup⟩
  | pipe => exact hrefused _
  | directory entries => exact hrefused _
  | link target => exact hrefused _

theorem ends_listNames {path : Text} :
    Ends (listNames host path) files
      (fun names after => after = files ∧ path.hasNull = false ∧
        ∃ place entries, files.lookup host .always path = .ok (place, .directory entries) ∧
          names.Perm (Entries.names entries))
      (Refused files path) := by
  unfold listNames
  apply ends_ask_bind
  rintro ⟨place, node⟩ hnull hlookup hrefused
  cases node with
  | directory entries =>
      exact ⟨rfl, hnull, place, entries, hlookup, host.arrange_perm files place _⟩
  | pipe => exact hrefused _
  | file content => exact hrefused _
  | link target => exact hrefused _

/-- An entry that is no directory is removed. -/
theorem ends_removeEntry {path : Text} :
    Ends (removeEntry host path) files
      (fun _ after => ∃ place name node, Aims host files .never path place name false ∧
        files.at? (place ++ [name]) = some node ∧ node.isDirectory = false ∧
        after = files.remove place name)
      (Refused files path) := by
  unfold removeEntry
  apply ends_entrySpot_bind
  intro place name slashed haims hrefused
  simp only [ends_bind, ends_checkName, ends_nodeAt]
  refine ⟨fun _ => hrefused _, fun _ => ?_⟩
  have hentry : ∀ node, files.at? (place ++ [name]) = some node → node.isDirectory = false →
      Ends (if slashed = true then throw (.system .notDirectory path)
        else modify fun files : FileSystem => files.remove place name : Disk Unit) files
        (fun _ last => ∃ place name node, Aims host files .never path place name false ∧
          files.at? (place ++ [name]) = some node ∧ node.isDirectory = false ∧
          last = files.remove place name)
        (Refused files path) := by
    intro node hnode hkind
    cases hslashed : slashed with
    | true => exact hrefused _
    | false => exact ⟨place, name, node, hslashed ▸ haims, hnode, hkind, rfl⟩
  cases hnode : files.at? (place ++ [name]) with
  | none => exact hrefused _
  | some node =>
      cases node with
      | directory entries => exact hrefused _
      | file content => exact hentry _ hnode rfl
      | link target => exact hentry _ hnode rfl
      | pipe => exact hentry _ hnode rfl

theorem ends_removeDirectory {path : Text} :
    Ends (removeDirectory host path) files
      (fun _ after => ∃ place name slashed, Aims host files .never path place name slashed ∧
        files.at? (place ++ [name]) = some (.directory []) ∧
        after = files.removeDirectory place name)
      (Refused files path) := by
  unfold removeDirectory
  apply ends_entrySpot_bind
  intro place name slashed haims hrefused
  simp only [ends_bind, ends_checkName, ends_nodeAt]
  refine ⟨fun _ => hrefused _, fun _ => ?_⟩
  cases hnode : files.at? (place ++ [name]) with
  | none => exact hrefused _
  | some node =>
      cases node with
      | directory entries =>
          cases entries with
          | nil => exact ⟨place, name, slashed, haims, hnode, rfl⟩
          | cons entry rest => exact hrefused _
      | file content => exact hrefused _
      | link target => exact hrefused _
      | pipe => exact hrefused _

/-- An entry is relinked where neither place holds the other one and what is at the target may be
replaced.  Relinking an entry onto itself does nothing. -/
theorem ends_rename {source target : Text} :
    Ends (rename host source target) files
      (fun _ after => ∃ place name slashed targetPlace targetName targetSlashed node,
        Aims host files .never source place name slashed ∧
        Aims host files .never target targetPlace targetName targetSlashed ∧
        files.at? (place ++ [name]) = some node ∧ targetName.utf8Size ≤ host.nameLimit ∧
        ((slashed || targetSlashed) = true → node.isDirectory = true) ∧
        ¬ place ++ [name] <+: targetPlace ∧ ¬ targetPlace ++ [targetName] <+: place ∧
        (place ++ [name] = targetPlace ++ [targetName] ∧ after = files ∨
          place ++ [name] ≠ targetPlace ++ [targetName] ∧
          replaceFault? node (files.at? (targetPlace ++ [targetName])) = none ∧
          after = files.relink place name targetPlace targetName node))
      (fun fault after => after = files ∧
        ((source.hasNull || target.hasNull) = true ∧ fault = .nullByte ∨
          ∃ cause path, fault = .system cause path)) := by
  have hrefused : ∀ {path fault after}, (path = source ∨ path = target) →
      Refused files path fault after → after = files ∧
        ((source.hasNull || target.hasNull) = true ∧ fault = .nullByte ∨
          ∃ cause path, fault = .system cause path) := by
    rintro path fault after hpath ⟨rfl, hfault⟩
    refine ⟨rfl, ?_⟩
    split at hfault <;> rename_i hnull
    · refine .inl ⟨?_, hfault⟩
      rcases hpath with rfl | rfl <;> simp [hnull]
    · obtain ⟨cause, hcause⟩ := hfault
      exact .inr ⟨cause, path, hcause⟩
  unfold rename
  simp only [ends_guard, ends_bind]
  refine ⟨fun hnull => ⟨trivial, .inl ⟨by simp [hnull], trivial⟩⟩, fun _ =>
    ⟨fun _ => ⟨trivial, .inr ⟨_, _, rfl⟩⟩, fun _ => ?_⟩⟩
  apply ends_entrySpot.mono _ fun _ _ h => hrefused (.inl rfl) h
  rintro ⟨place, name, slashed⟩ after ⟨rfl, haims⟩
  apply ends_entrySpot.mono _ fun _ _ h => hrefused (.inr rfl) h
  rintro ⟨targetPlace, targetName, targetSlashed⟩ after ⟨rfl, htarget⟩
  simp only [ends_checkName, ends_nodeAt]
  refine ⟨fun _ => ⟨trivial, .inr ⟨_, _, rfl⟩⟩, fun _ => ?_⟩
  cases hnode : after.at? (place ++ [name]) with
  | none => exact ⟨rfl, .inr ⟨_, _, rfl⟩⟩
  | some node =>
      simp only [ends_bind, ends_checkName]
      refine ⟨fun _ => ⟨trivial, .inr ⟨_, _, rfl⟩⟩, fun htargetSize => ?_⟩
      split
      · exact ⟨rfl, .inr ⟨_, _, rfl⟩⟩
      split
      · exact ⟨rfl, .inr ⟨_, _, rfl⟩⟩
      split
      · exact ⟨rfl, .inr ⟨_, _, rfl⟩⟩
      rename_i hslashed hinside houtside
      rw [List.isPrefixOf_iff_prefix] at hinside houtside
      have hsize := Nat.le_of_not_lt htargetSize
      have hdirectory : (slashed || targetSlashed) = true → node.isDirectory = true := by
        intro hs
        simpa [hs] using hslashed
      split <;> rename_i hsame
      · refine ⟨place, name, slashed, targetPlace, targetName, targetSlashed, node, haims, htarget,
          hnode, hsize, hdirectory, hinside, houtside, .inl ⟨?_, rfl⟩⟩
        rw [hsame.1, hsame.2]
      · rw [ends_bind, ends_nodeAt]
        cases hreplace : replaceFault? node (after.at? (targetPlace ++ [targetName])) with
        | some cause => exact ⟨rfl, .inr ⟨_, _, rfl⟩⟩
        | none =>
            refine ⟨place, name, slashed, targetPlace, targetName, targetSlashed, node, haims,
              htarget, hnode, hsize, hdirectory, hinside, houtside,
              .inr ⟨fun heq => hsame ?_, hreplace, rfl⟩⟩
            exact (List.append_inj' heq rfl).imp_right List.singleton_inj.mp

end LineShell.Disk
