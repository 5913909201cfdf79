import LineShell.Command.Entries
import LineShell.Proofs.FileSystem.Deliveries
import LineShell.Proofs.FileSystem.WellFormed
import LineShell.Proofs.Session.OnFiles

/-!
# Several files to one directory

`cp` and `mv` bring several sources to a directory one after the other, each as if it were the only
one.  When all lines report success, every name that a source had is in the directory, with the last
source of that name: nothing sees to it that two sources have different names.
-/

namespace LineShell

namespace TransferCommand

/-- What a command is called. -/
def name : TransferCommand → Text
  | .copy => "cp"
  | .move => "mv"

/-- The line of success for a source. -/
def success (command : TransferCommand) (destination source : Text) : Text :=
  match command with
  | .copy => "Successfully copied " ++ source ++ " to " ++ destination ++ "\n"
  | .move => "Successfully moved " ++ source ++ " to " ++ destination ++ "\n"

/-- How the line for a missing source begins. -/
def missing : TransferCommand → Text
  | .copy => "Source file does not exist: "
  | .move => "Source does not exist: "

/-- How the line for any other fault begins. -/
def failed : TransferCommand → Text
  | .copy => "Failed to copy file: "
  | .move => "Failed to move file: "

/-- The line of failure for a source. -/
def failure (command : TransferCommand) (source : Text) (fault : Fault) : Text :=
  if fault.isNotFound then command.missing ++ source ++ "\n"
  else command.failed ++ fault.message ++ "\n"

/-- The report of a command on one source. -/
def report (command : TransferCommand) (setup : Setup) (destination source : Text) : Shell Text :=
  match command with
  | .copy => EntryCommands.copyOne setup destination source
  | .move => EntryCommands.moveOne setup destination source

/-- The second letter tells a line of failure from a line of success, whatever follows them. -/
theorem failure_append_ne (command : TransferCommand) (destination source : Text) (fault : Fault)
    (rest more : Text) :
    command.failure source fault ++ rest ≠ command.success destination source ++ more := by
  intro heq
  replace heq := congrArg (fun text => (text.drop 1).take 1) heq
  unfold failure at heq
  split at heq
  · have hletter : ['o'] = ['u'] := by cases command <;> exact heq
    exact absurd hletter (by decide)
  · have hletter : ['a'] = ['u'] := by cases command <;> exact heq
    exact absurd hletter (by decide)

variable {setup : Setup} {world : World} {destination source : Text}

/-- Both commands report alike. -/
theorem report_eq (command : TransferCommand) (setup : Setup) (destination source : Text) :
    command.report setup destination source = do
      let session ← Shell.session
      match ← Shell.onFiles (command.action setup.host (session.resolve source)
          (session.resolve destination)) with
      | .ok _ => return command.success destination source
      | .error fault =>
          if fault.isNotFound then return command.missing ++ source ++ "\n"
          else return command.failed ++ fault.message ++ "\n" := by
  cases command with
  | copy => rfl
  | move => rfl

/-- A report tells how the work on the files ended. -/
theorem ends_report_of_action {command : TransferCommand} {done : Text → World → Prop}
    (haction : Ends (command.action setup.host (world.session.resolve source)
        (world.session.resolve destination)) world.files
      (fun _ files => done (command.success destination source) { world with files })
      (fun fault files => done (command.failure source fault) { world with files })) :
    Ends (command.report setup destination source) world done (fun _ _ => True) := by
  rw [report_eq]
  simp only [ends_bind, Shell.ends_session, Shell.ends_onFiles]
  apply haction.mono
  · exact fun _ _ h => h
  · intro fault files hdone
    unfold failure at hdone
    split
    · trivial
    split
    · trivial
    · split
      · rename_i hfault
        rwa [if_pos hfault] at hdone
      · rename_i hfault
        rwa [if_neg hfault] at hdone

end TransferCommand

/-- The sources are files at different places outside of the destination, a directory that is there,
and there are no links. -/
structure Deliverable (host : Host) (session : Session) (destination : Text) (inner : Place)
    (deliveries : List Delivery) (files : FileSystem) : Prop where
  valid : files.Valid host
  linkFree : files.LinkFree
  placed : files.Placed (session.resolve destination)
  directory : ∃ entries,
    files.target? host (session.resolve destination) = some (inner, .directory entries)
  sources : ∀ delivery ∈ deliveries,
    files.target? host (session.resolve delivery.source) =
      some (delivery.place, .file delivery.content)
  outside : ∀ delivery ∈ deliveries, ¬ inner <+: delivery.place
  different : (deliveries.map Delivery.place).Nodup

namespace Deliverable

variable {host : Host} {session : Session} {destination : Text} {inner : Place}
variable {delivery : Delivery} {deliveries : List Delivery} {before after : FileSystem}

theorem isDirectory (h : Deliverable host session destination inner deliveries before) :
    before.isDirectory host (session.resolve destination) = true := by
  obtain ⟨entries, hentries⟩ := h.directory
  exact FileSystem.isDirectory_iff.mpr ⟨inner, entries, hentries⟩

theorem hasEntry (h : Deliverable host session destination inner deliveries before) :
    before.hasEntry host (session.resolve destination) = true := by
  obtain ⟨entries, hentries⟩ := h.directory
  rw [FileSystem.hasEntry, h.linkFree.entry?_eq, hentries]
  rfl

theorem denotes (h : Deliverable host session destination inner deliveries before) :
    before.kind? inner = some .directory ∧ before.Denotes (session.resolve destination) inner := by
  obtain ⟨entries, hentries⟩ := h.directory
  obtain ⟨hat, hdenotes⟩ := FileSystem.denotes_of_placed h.valid h.placed
    (FileSystem.target?_eq_some_iff.mp hentries).2 (by simp)
  exact ⟨FileSystem.kind?_of_at? hat, hdenotes⟩

/-- What is to come can be delivered as before when one file was. -/
theorem rest {command : TransferCommand}
    (h : Deliverable host session destination inner (delivery :: deliveries) before)
    (hstep : FileSystem.Delivered host command delivery.place (inner ++ [delivery.name])
      delivery.content before after) :
    Deliverable host session destination inner deliveries after := by
  obtain ⟨hsource, hsources⟩ := List.forall_mem_cons.mp h.sources
  obtain ⟨hplace, hplaces⟩ := List.nodup_cons.mp h.different
  have hfile := (FileSystem.names_of_file h.valid h.linkFree hsource).2
  have hsteady := hstep.steady h.linkFree hfile
  have hplaced : after.Placed (session.resolve destination) := by
    rw [FileSystem.Placed, hstep.working]
    exact h.placed
  have houtside := (List.forall_mem_cons.mp h.outside).2
  refine ⟨hstep.valid, hstep.linkFree h.linkFree, hplaced, ?_, fun other hother => ?_, houtside,
    hplaces⟩
  · obtain ⟨place, entries, hentries⟩ :=
      FileSystem.isDirectory_iff.mp (hsteady.isDirectory h.isDirectory)
    obtain ⟨-, hdenotes⟩ := FileSystem.denotes_of_placed hstep.valid hplaced
      (FileSystem.target?_eq_some_iff.mp hentries).2 (by simp)
    exact ⟨entries, hdenotes.unique (hsteady.denotes h.denotes.2) ▸ hentries⟩
  · apply hsteady.target?_file (hsources other hother)
    rw [hstep.kinds, if_neg, if_neg]
    · exact (FileSystem.names_of_file h.valid h.linkFree (hsources other hother)).2
    · rintro ⟨-, heq⟩
      exact hplace (heq ▸ List.mem_map_of_mem hother)
    · intro heq
      exact houtside other hother (heq ▸ List.prefix_append inner [delivery.name])

end Deliverable

namespace TransferCommand

variable {setup : Setup} {destination : Text} {inner : Place} {deliveries : List Delivery}
variable {world : World}

/-- A source is delivered, or a line of failure says that it was not. -/
theorem ends_report (command : TransferCommand) {delivery : Delivery}
    (h : Deliverable setup.host world.session destination inner (delivery :: deliveries)
      world.files) :
    Ends (command.report setup destination delivery.source) world
      (fun line after => after.session = world.session ∧
        (line = command.success destination delivery.source ∧
            FileSystem.Delivered setup.host command delivery.place (inner ++ [delivery.name])
              delivery.content world.files after.files ∨
          ∃ fault, line = command.failure delivery.source fault))
      (fun _ _ => True) := by
  have haction := Disk.ends_action_delivers h.valid h.linkFree
    (List.forall_mem_cons.mp h.sources).1 h.isDirectory h.denotes.2 h.denotes.1 command
  have hname : Path.lastComponent (world.session.resolve delivery.source) = delivery.name :=
    Path.lastComponent_join _ _
  rw [hname] at haction
  exact ends_report_of_action (haction.mono (fun _ files hstep => ⟨rfl, .inl ⟨rfl, hstep⟩⟩)
    fun fault files _ => ⟨rfl, .inr ⟨fault, rfl⟩⟩)

/-- The sources are delivered one after the other, if there are no lines but those of success. -/
theorem ends_forEach (command : TransferCommand)
    (h : Deliverable setup.host world.session destination inner deliveries world.files) :
    Ends (EntryCommands.forEach (command.report setup destination) (deliveries.map (·.source)))
      world
      (fun text after =>
        text = deliveries.flatMap (fun delivery => command.success destination delivery.source) →
        FileSystem.Delivers setup.host command inner deliveries world.files after.files)
      (fun _ _ => True) := by
  induction deliveries generalizing world with
  | nil => exact fun _ => .nil _
  | cons delivery rest ih =>
      simp only [List.map_cons, EntryCommands.forEach, ends_bind, ends_pure, List.flatMap_cons]
      apply (command.ends_report h).mono_done
      rintro line middle ⟨hsession, ⟨rfl, hstep⟩ | ⟨fault, rfl⟩⟩
      · apply (ih (hsession ▸ h.rest hstep)).mono_done
        exact fun text after hrest htext => .cons hstep (hrest (List.append_cancel_left htext))
      · apply (Gives.any _ _ trivial).mono _ fun _ _ h => trivial
        exact fun text after _ htext => absurd htext (command.failure_append_ne _ _ _ _ _)

end TransferCommand

namespace EntryCommands

variable {setup : Setup} {destination : Text} {inner : Place} {deliveries : List Delivery}
variable {world : World}

/-- With several sources and a directory for them, a command reports on one source after the other.
-/
theorem ends_run_transfer (setup : Setup) (command : TransferCommand) {sources : List Text}
    (hcount : 2 ≤ sources.length)
    (hentry : world.files.hasEntry setup.host (world.session.resolve destination) = true)
    (hdirectory : world.files.isDirectory setup.host (world.session.resolve destination) = true)
    (piped : Option Text) {done : Reply → World → Prop} {failed : Escape → World → Prop} :
    Ends (run setup { name := command.name, arguments := sources ++ [destination], piped }) world
        done failed ↔
      Ends (forEach (command.report setup destination) sources) world
        (fun text after => done (.say text) after) failed := by
  have hlength : 3 ≤ (sources ++ [destination]).length := by simp [hcount]
  have hlast : (sources ++ [destination]).getLastD [] = destination := by simp
  have hfront : (sources ++ [destination]).dropLast = sources := by simp
  generalize sources ++ [destination] = arguments at hlength hlast hfront
  cases command with
  | copy =>
      change Ends (copy setup arguments) _ _ _ ↔ _
      unfold copy
      split
      · simp at hlength
      · simp at hlength
      · simp at hlength
      · simp only [hlast, hfront, ends_bind, Shell.ends_session, Shell.ends_inspect, hentry,
          hdirectory, Bool.not_true, Bool.false_eq_true, if_false, ends_pure]
        rfl
  | move =>
      change Ends (move setup arguments) _ _ _ ↔ _
      unfold move
      split
      · simp at hlength
      · simp at hlength
      · simp at hlength
      · simp only [hlast, hfront, ends_bind, Shell.ends_session, Shell.ends_inspect, hdirectory,
          Bool.not_true, Bool.false_eq_true, if_false, ends_pure]
        rfl

/-- Several sources are delivered to a directory, if the reply has no lines but those of success. -/
theorem ends_run_delivers (command : TransferCommand) (hcount : 2 ≤ deliveries.length)
    (h : Deliverable setup.host world.session destination inner deliveries world.files)
    (piped : Option Text) :
    Ends (run setup
        { name := command.name
          arguments := deliveries.map (·.source) ++ [destination]
          piped }) world
      (fun reply after =>
        reply = .say (deliveries.flatMap fun delivery =>
          command.success destination delivery.source) →
        FileSystem.Delivers setup.host command inner deliveries world.files after.files)
      (fun _ _ => True) := by
  have hsources : 2 ≤ (deliveries.map (·.source)).length := by rwa [List.length_map]
  rw [ends_run_transfer setup command hsources h.hasEntry h.isDirectory piped]
  apply (command.ends_forEach h).mono_done
  intro text after hdelivers hreply
  exact hdelivers (Option.some.inj (congrArg Reply.text hreply))

/-- When several sources are reported as copied or moved to a directory, it holds the last source of
every name, and so it holds all of them exactly if those of one name do not differ. -/
theorem run_delivers (command : TransferCommand) {after : World} (hcount : 2 ≤ deliveries.length)
    (h : Deliverable setup.host world.session destination inner deliveries world.files)
    (piped : Option Text)
    (hrun : run setup
        { name := command.name
          arguments := deliveries.map (·.source) ++ [destination]
          piped } world =
      .ok (.say (deliveries.flatMap fun delivery => command.success destination delivery.source))
        after) :
    (∀ front delivery back, deliveries = front ++ delivery :: back →
        (∀ later ∈ back, later.name ≠ delivery.name) →
        after.files.at? (inner ++ [delivery.name]) = some (.file delivery.content)) ∧
      ((∀ delivery ∈ deliveries,
          after.files.at? (inner ++ [delivery.name]) = some (.file delivery.content)) ↔
        ∀ delivery ∈ deliveries, ∀ other ∈ deliveries, delivery.name = other.name →
          delivery.content = other.content) := by
  have hdelivers := (ends_run_delivers command hcount h piped).of_ok hrun rfl
  refine ⟨fun front delivery back hsplit hlast =>
    FileSystem.at?_file_iff.mpr (hdelivers.arrived h.outside hsplit hlast), fun hall => ?_,
    fun hsame delivery hmem => ?_⟩
  · intro delivery hmem other hother hname
    have hkept := (hall delivery hmem).symm.trans (hname ▸ hall other hother)
    simpa using hkept
  · obtain ⟨last, hlast, hname, hkind⟩ := hdelivers.exists_arrived h.outside hmem
    rw [FileSystem.at?_file_iff, hkind, hsame last hlast delivery hmem hname]

section Example

/-- Two directories that may have files, and one that the files are to go to. -/
def twinsWorld (entries others last : Entries) : World where
  files := { top := [("a", .directory entries), ("b", .directory others), ("d", .directory last)] }
  session := { directory := "/" }
  output := []
  reader := .nothing

/-- Two files of one name. -/
def twins : List Delivery :=
  [⟨"a/x", ["a", "x"], [1]⟩, ⟨"b/x", ["b", "x"], [2]⟩]

/-- The world with both files where they are. -/
def apartTwins : World :=
  twinsWorld [("x", .file [1])] [("x", .file [2])] []

theorem deliverable_twins :
    Deliverable {} { directory := "/" } "d" [("d" : Text)] twins apartTwins.files where
  valid := by
    have hfirst : (Node.directory [("x", .file [1])]).WellFormed {} :=
      Node.wellFormed_directory (by decide) (by decide)
        (List.forall_mem_singleton.mpr (Node.wellFormed_file [1]))
    have hsecond : (Node.directory [("x", .file [2])]).WellFormed {} :=
      Node.wellFormed_directory (by decide) (by decide)
        (List.forall_mem_singleton.mpr (Node.wellFormed_file [2]))
    have hempty : (Node.directory []).WellFormed {} :=
      Node.wellFormed_directory (by decide) (by decide) (by simp)
    exact FileSystem.valid_of_wellFormed (Node.wellFormed_directory (by decide) (by decide)
      (List.forall_mem_cons.mpr ⟨hfirst, List.forall_mem_cons.mpr ⟨hsecond,
        List.forall_mem_singleton.mpr hempty⟩⟩))
  linkFree := by
    have hholding : ∀ byte place target,
        (Node.directory [("x", .file [byte])]).kind? place ≠ some (.link target) := fun byte =>
      Node.linkFree_directory (List.forall_mem_singleton.mpr (Node.linkFree_file [byte]))
    exact Node.linkFree_directory (List.forall_mem_cons.mpr ⟨hholding 1, List.forall_mem_cons.mpr
      ⟨hholding 2, List.forall_mem_singleton.mpr (Node.linkFree_directory (by simp))⟩⟩)
  placed := .inl (by decide)
  directory := ⟨[], by cbv⟩
  sources := List.forall_mem_cons.mpr ⟨by cbv, List.forall_mem_singleton.mpr (by cbv)⟩
  outside := by decide
  different := by decide

/-- Both files are reported as moved, and both places are empty in the end. -/
theorem run_twins :
    run { host := {} } { name := "mv", arguments := ["a/x", "b/x", "d"] } apartTwins =
      .ok (.say "Successfully moved a/x to d\nSuccessfully moved b/x to d\n")
        (twinsWorld [] [] [("x", .file [2])]) := by
  change move _ ["a/x", "b/x", "d"] _ = _
  unfold move
  cbv

/-- The file that comes last is in the directory. -/
theorem run_delivers_twins :
    2 ≤ twins.length ∧
      Deliverable {} apartTwins.session "d" [("d" : Text)] twins apartTwins.files ∧
      run { host := {} } { name := "mv", arguments := ["a/x", "b/x", "d"] } apartTwins =
        .ok (.say "Successfully moved a/x to d\nSuccessfully moved b/x to d\n")
          (twinsWorld [] [] [("x", .file [2])]) ∧
      (twinsWorld [] [] [("x", .file [2])]).files.at? ["d", "x"] = some (.file [2]) := by
  refine ⟨by decide, deliverable_twins, run_twins, ?_⟩
  exact (run_delivers .move (by decide) deliverable_twins none run_twins).1
    [⟨"a/x", ["a", "x"], [1]⟩] ⟨"b/x", ["b", "x"], [2]⟩ [] rfl (by simp)

/-- The file that comes first is not. -/
theorem not_run_delivers_twins :
    2 ≤ twins.length ∧
      Deliverable {} apartTwins.session "d" [("d" : Text)] twins apartTwins.files ∧
      run { host := {} } { name := "mv", arguments := ["a/x", "b/x", "d"] } apartTwins =
        .ok (.say "Successfully moved a/x to d\nSuccessfully moved b/x to d\n")
          (twinsWorld [] [] [("x", .file [2])]) ∧
      ¬ ∀ delivery ∈ twins, (twinsWorld [] [] [("x", .file [2])]).files.at?
        ([("d" : Text)] ++ [delivery.name]) = some (.file delivery.content) := by
  refine ⟨by decide, deliverable_twins, run_twins, fun hall => ?_⟩
  have hfirst := hall ⟨"a/x", ["a", "x"], [1]⟩ List.mem_cons_self
  have hlast : (twinsWorld [] [] [("x", .file [2])]).files.at? ["d", "x"] = some (.file [2]) := by
    cbv
  exact absurd (Node.file.inj (Option.some.inj (hfirst.symm.trans hlast))) (by decide)

end Example

end EntryCommands

end LineShell
