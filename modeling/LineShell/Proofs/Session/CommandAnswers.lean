import LineShell.Command.Standard
import LineShell.Proofs.FileSystem.Reported
import Mathlib

/-!
# Every command is answered

Nothing breaks off a command as long as the current directory is absolute and no null character is
around: whatever goes wrong in it is told in a text.  This is shown for each of the standard
commands from the operations that it runs, with one invariant of the world all the way.
-/

namespace LineShell

/-- A world in which every path that a command puts together can be handed to the system. -/
structure World.Sound (world : World) : Prop where
  files : world.files.NullFree
  directory : Path.Sound world.session.directory

/-- Arguments without null characters. -/
def NullFreeArguments (arguments : List Text) : Prop :=
  ∀ argument ∈ arguments, argument.hasNull = false

/-- A computation that keeps the world sound and is never broken off. -/
abbrev Answers {A : Type} (action : Shell A) : Prop :=
  Keeps World.Sound (fun _ => False) action

namespace Shell

theorem answers_write (text : Text) : Answers (write text) :=
  fun _ hworld => ⟨trivial, hworld.files, hworld.directory⟩

theorem gives_session :
    Gives World.Sound (fun _ => False) (fun session => Path.Sound session.directory) session :=
  fun _ hworld => ⟨hworld.directory, hworld⟩

theorem answers_setSession (session : Session) (hsession : Path.Sound session.directory) :
    Answers (setSession session) :=
  fun _ hworld => ⟨trivial, hworld.files, hsession⟩

theorem answers_inspect {A : Type} (question : FileSystem → A) : Answers (inspect question) :=
  fun _ hworld => ⟨trivial, hworld⟩

theorem answers_onFiles {A : Type} {action : Disk A}
    (haction : Keeps FileSystem.NullFree Fault.Reported action) : Answers (onFiles action) := by
  intro world hworld
  have h := haction world.files hworld.files
  unfold Ends at h ⊢
  unfold onFiles
  cases hrun : action world.files with
  | ok value after =>
      rw [hrun] at h
      exact ⟨trivial, h.2, hworld.directory⟩
  | error fault after =>
      rw [hrun] at h
      obtain ⟨hreported, hafter⟩ := h
      cases fault with
      | nullByte => exact absurd rfl hreported.1
      | noWorkingDirectory => exact absurd rfl hreported.2
      | _ => exact ⟨trivial, hafter, hworld.directory⟩

theorem answers_onFilesOr {A : Type} {default : A} {action : Disk A}
    (haction : Keeps FileSystem.NullFree Fault.Reported action) :
    Answers (onFilesOr default action) := by
  refine (answers_onFiles haction).bind fun result _ => ?_
  split <;> exact .pure trivial

theorem gives_absolute {path : Text} (hpath : Path.Sound path) :
    Gives World.Sound (fun _ => False) Path.Sound (absolute path) := by
  intro world hworld
  simp only [absolute, ends_bind, ends_get,
    FileSystem.absolute?_of_isAbsolute _ hpath.isAbsolute]
  exact ⟨hpath.normalize, hworld⟩

theorem answers_writeTo (setup : Setup) (mode : WriteMode) {target : Text}
    (htarget : target.hasNull = false) (content : Text) :
    Answers (writeTo setup mode target content) := by
  refine gives_session.bind fun session hsession => ?_
  refine (answers_onFiles (Disk.keeps_writeText setup.host (hsession.join htarget))).bind
    fun result _ => ?_
  split <;> exact .pure trivial

theorem answers_setReader (reader : Reader) :
    Answers (modify fun world : World => { world with reader } : Shell Unit) :=
  fun _ hworld => ⟨trivial, hworld.files, hworld.directory⟩

theorem answers_capture (setup : Setup) (banner : Text) : Answers (capture setup banner) :=
  (answers_write _).bind fun _ _ => Gives.get.bind fun _ _ =>
    (answers_setReader _).bind fun _ _ => .pure trivial

end Shell

/-- A group that answers every call of its own commands. -/
def CommandGroup.Answers (group : CommandGroup) : Prop :=
  ∀ invocation, (∃ spec ∈ group.commands, spec.name = invocation.name) →
    NullFreeArguments invocation.arguments → LineShell.Answers (group.run invocation)

/-! ### The standard commands -/

namespace Navigation

theorem answers_goTo (setup : Setup) {path : Text} (hpath : path.hasNull = false) :
    Answers (goTo setup path) := by
  refine Shell.gives_session.bind fun session hsession => .ite (fun _ => .pure trivial) fun _ =>
    .ite (fun _ => Shell.answers_setSession _ hsession.directory) fun _ =>
    (Shell.answers_inspect _).bind fun _ _ => .ite (fun _ => ?_) fun _ => Shell.answers_write _
  exact (Shell.gives_absolute (hsession.join hpath)).bind
    fun _ hnormal => Shell.answers_setSession _ hnormal

theorem answers_changeDirectory (setup : Setup) {arguments : List Text}
    (harguments : NullFreeArguments arguments) : Answers (changeDirectory setup arguments) := by
  unfold changeDirectory
  split
  · exact (answers_goTo setup (harguments _ List.mem_cons_self)).bind fun _ _ => .pure trivial
  · exact (Shell.answers_write _).bind fun _ _ => .pure trivial

theorem answers_group (setup : Setup) : (group setup).Answers := by
  rintro ⟨name, arguments, piped⟩ ⟨spec, hspec, rfl⟩ harguments
  simp only [group, commands, List.mem_cons, List.not_mem_nil, or_false] at hspec
  rcases hspec with rfl | rfl
  · exact Shell.gives_session.bind fun _ _ => .pure trivial
  · exact answers_changeDirectory setup harguments

end Navigation

namespace EntryCommands

theorem answers_forEach {report : Text → Shell Text} {arguments : List Text}
    (hreport : ∀ argument ∈ arguments, Answers (report argument)) :
    Answers (forEach report arguments) := by
  induction arguments with
  | nil => exact .pure trivial
  | cons argument rest ih =>
      exact (hreport argument List.mem_cons_self).bind fun _ _ =>
        (ih fun other hother => hreport other (List.mem_cons_of_mem argument hother)).bind
          fun _ _ => .pure trivial

theorem answers_forEachOrUsage (usage : Text) {report : Text → Shell Text} {arguments : List Text}
    (hreport : ∀ argument ∈ arguments, Answers (report argument)) :
    Answers (forEachOrUsage usage report arguments) :=
  .ite (fun _ => .pure trivial) fun _ => (answers_forEach hreport).bind fun _ _ => .pure trivial

theorem answers_list (setup : Setup) (arguments : List Text) :
    Answers (list setup arguments) := by
  unfold list
  split
  · exact .pure trivial
  · refine Shell.gives_session.bind fun session hsession => ?_
    refine (Shell.answers_onFiles (Disk.keeps_listEntries setup.host hsession)).bind
      fun result _ => ?_
    split <;> exact .pure trivial

theorem answers_makeDirectory (setup : Setup) {name : Text} (hname : name.hasNull = false) :
    Answers (makeDirectory setup name) := by
  refine Shell.gives_session.bind fun session hsession => ?_
  refine (Shell.answers_onFilesOr
    (Disk.keeps_tryMakeDirectory setup.host (hsession.join hname))).bind fun _ _ => ?_
  exact .ite (fun _ => .pure trivial) fun _ => .pure trivial

theorem answers_removeDirectory (setup : Setup) {name : Text} (hname : name.hasNull = false) :
    Answers (removeDirectory setup name) :=
  Shell.gives_session.bind fun _ hsession =>
    (Shell.answers_onFilesOr
      (Disk.keeps_tryRemoveDirectory setup.host (hsession.join hname))).bind
        fun _ _ => .pure trivial

theorem answers_removeFile (setup : Setup) {name : Text} (hname : name.hasNull = false) :
    Answers (removeFile setup name) := by
  refine Shell.gives_session.bind fun session hsession => ?_
  refine (Shell.answers_onFilesOr
    (Disk.keeps_tryRemoveFile setup.host (hsession.join hname))).bind fun _ _ => ?_
  exact .ite (fun _ => .pure trivial) fun _ => .pure trivial

theorem answers_removeTree (setup : Setup) {name : Text} (hname : name.hasNull = false) :
    Answers (removeTree setup name) := by
  refine Shell.gives_session.bind fun session hsession =>
    (Shell.answers_inspect _).bind fun _ _ => .ite (fun _ => .pure trivial) fun _ => ?_
  refine (Shell.answers_onFilesOr ((Disk.callsKeep_nullFree setup.host).tryRemoveTree
    (hsession.join hname))).bind fun _ _ => ?_
  exact .ite (fun _ => .pure trivial) fun _ => .pure trivial

theorem answers_remove (setup : Setup) {arguments : List Text}
    (harguments : NullFreeArguments arguments) : Answers (remove setup arguments) := by
  unfold remove
  split
  · exact answers_forEachOrUsage _ fun argument hmem =>
      answers_removeTree setup (harguments argument (List.mem_cons_of_mem _ hmem))
  · exact answers_forEachOrUsage _ fun argument hmem =>
      answers_removeFile setup (harguments argument hmem)

theorem answers_createFile (setup : Setup) {name : Text} (hname : name.hasNull = false) :
    Answers (createFile setup name) :=
  Shell.gives_session.bind fun _ hsession =>
    (Shell.answers_onFilesOr
      (Disk.keeps_tryCreateFile setup.host (hsession.join hname))).bind fun _ _ => .pure trivial

theorem answers_copyOne (setup : Setup) {destination source : Text}
    (hdestination : destination.hasNull = false) (hsource : source.hasNull = false) :
    Answers (copyOne setup destination source) := by
  refine Shell.gives_session.bind fun session hsession => ?_
  refine (Shell.answers_onFiles (Disk.keeps_copy setup.host (hsession.join hsource)
    (hsession.join hdestination))).bind fun result _ => ?_
  split
  · exact .pure trivial
  · exact .ite (fun _ => .pure trivial) fun _ => .pure trivial

theorem answers_moveOne (setup : Setup) {destination source : Text}
    (hdestination : destination.hasNull = false) (hsource : source.hasNull = false) :
    Answers (moveOne setup destination source) := by
  refine Shell.gives_session.bind fun session hsession => ?_
  refine (Shell.answers_onFiles (Disk.keeps_move setup.host (hsession.join hsource)
    (hsession.join hdestination))).bind fun result _ => ?_
  split
  · exact .pure trivial
  · exact .ite (fun _ => .pure trivial) fun _ => .pure trivial

theorem hasNull_getLastD {arguments : List Text} (harguments : NullFreeArguments arguments) :
    (arguments.getLastD []).hasNull = false := by
  rcases List.eq_nil_or_concat arguments with rfl | ⟨init, last, rfl⟩
  · rfl
  · rw [List.concat_eq_append] at harguments ⊢
    rw [List.getLastD_concat]
    exact harguments last (by simp)

theorem answers_copy (setup : Setup) {arguments : List Text}
    (harguments : NullFreeArguments arguments) : Answers (copy setup arguments) := by
  have hlast := hasNull_getLastD harguments
  unfold copy
  split
  · exact .pure trivial
  · exact .pure trivial
  · exact (answers_copyOne setup (harguments _ (by simp)) (harguments _ (by simp))).bind
      fun _ _ => .pure trivial
  · refine Shell.gives_session.bind fun _ _ => (Shell.answers_inspect _).bind fun _ _ =>
      .ite (fun _ => .pure trivial) fun _ => (Shell.answers_inspect _).bind fun _ _ =>
      .ite (fun _ => .pure trivial) fun _ => ?_
    exact (answers_forEach fun argument hmem => answers_copyOne setup hlast
      (harguments argument (List.dropLast_subset _ hmem))).bind fun _ _ => .pure trivial

theorem answers_move (setup : Setup) {arguments : List Text}
    (harguments : NullFreeArguments arguments) : Answers (move setup arguments) := by
  have hlast := hasNull_getLastD harguments
  unfold move
  split
  · exact .pure trivial
  · exact .pure trivial
  · exact (answers_moveOne setup (harguments _ (by simp)) (harguments _ (by simp))).bind
      fun _ _ => .pure trivial
  · refine Shell.gives_session.bind fun _ _ => (Shell.answers_inspect _).bind fun _ _ =>
      .ite (fun _ => .pure trivial) fun _ => ?_
    exact (answers_forEach fun argument hmem => answers_moveOne setup hlast
      (harguments argument (List.dropLast_subset _ hmem))).bind fun _ _ => .pure trivial

theorem answers_group (setup : Setup) : (group setup).Answers := by
  rintro ⟨name, arguments, piped⟩ ⟨spec, hspec, rfl⟩ harguments
  simp only [group, commands, List.mem_cons, List.not_mem_nil, or_false] at hspec
  rcases hspec with rfl | rfl | rfl | rfl | rfl | rfl | rfl
  · exact answers_list setup arguments
  · exact answers_forEachOrUsage _ fun _ hmem => answers_makeDirectory setup (harguments _ hmem)
  · exact answers_forEachOrUsage _ fun _ hmem => answers_removeDirectory setup (harguments _ hmem)
  · exact answers_remove setup harguments
  · exact answers_forEachOrUsage _ fun _ hmem => answers_createFile setup (harguments _ hmem)
  · exact answers_copy setup harguments
  · exact answers_move setup harguments

end EntryCommands

namespace ContentCommands

theorem answers_showFile (setup : Setup) {name : Text} (hname : name.hasNull = false) :
    Answers (showFile setup name) := by
  refine Shell.gives_session.bind fun session hsession => ?_
  refine (Shell.answers_onFiles (Disk.keeps_readText setup.host (hsession.join hname))).bind
    fun result _ => ?_
  split
  · exact .pure trivial
  · exact .ite (fun _ => .pure trivial) fun _ => .pure trivial

theorem answers_showFiles (setup : Setup) {names : List Text} (hnames : NullFreeArguments names) :
    Answers (showFiles setup names) := by
  induction names with
  | nil => exact .pure trivial
  | cons name rest ih =>
      exact (answers_showFile setup (hnames name List.mem_cons_self)).bind fun _ _ =>
        (ih fun other hother => hnames other (List.mem_cons_of_mem name hother)).bind
          fun _ _ => .pure trivial

theorem answers_cat (setup : Setup) {arguments : List Text}
    (harguments : NullFreeArguments arguments) (piped : Option Text) :
    Answers (cat setup arguments piped) := by
  refine .ite (fun _ => (answers_showFiles setup harguments).bind fun _ _ => .pure trivial)
    fun _ => ?_
  split
  · exact .pure trivial
  · exact (Shell.answers_capture setup captureBanner).bind fun _ _ => .pure trivial

theorem answers_overwrite (setup : Setup) {arguments : List Text}
    (harguments : NullFreeArguments arguments) : Answers (overwrite setup arguments) := by
  unfold overwrite
  split
  · exact (Shell.answers_writeTo setup .overwrite (harguments _ List.mem_cons_self) _).bind
      fun _ _ => .pure trivial
  · exact .pure trivial

theorem answers_append (setup : Setup) {arguments : List Text}
    (harguments : NullFreeArguments arguments) (piped : Option Text) :
    Answers (append setup arguments piped) := by
  unfold append
  split
  · exact (Shell.answers_writeTo setup .append (harguments _ List.mem_cons_self) _).bind
      fun _ _ => .pure trivial
  · exact .pure trivial

theorem answers_group (setup : Setup) : (group setup).Answers := by
  rintro ⟨name, arguments, piped⟩ ⟨spec, hspec, rfl⟩ harguments
  simp only [group, commands, List.mem_cons, List.not_mem_nil, or_false] at hspec
  rcases hspec with rfl | rfl | rfl
  · exact answers_cat setup harguments piped
  · exact answers_overwrite setup harguments
  · exact answers_append setup harguments piped

end ContentCommands

namespace SessionCommands

theorem answers_group (listed : List CommandSpec) : (group listed).Answers := by
  rintro ⟨name, arguments, piped⟩ ⟨spec, hspec, rfl⟩ harguments
  simp only [group, commands, List.mem_cons, List.not_mem_nil, or_false] at hspec
  rcases hspec with rfl | rfl
  · exact .pure trivial
  · exact Shell.gives_session.bind fun session hsession =>
      (Shell.answers_setSession session.terminate hsession).bind fun _ _ =>
        .pure trivial

end SessionCommands

/-! ### Finding a command -/

namespace Registry

/-- An entry of a table leads to one of the groups, by the name of one of its commands. -/
def Enters (groups : List CommandGroup) (entry : Text × CommandGroup) : Prop :=
  entry.2 ∈ groups ∧ ∃ spec ∈ entry.2.commands, spec.name.lower = entry.1

theorem enters_of_mem_enter {groups : List CommandGroup} {group : CommandGroup}
    (hgroup : group ∈ groups) {specs : List CommandSpec}
    (hspecs : ∀ spec ∈ specs, spec ∈ group.commands)
    {table : List (Text × CommandGroup)} (htable : ∀ entry ∈ table, Enters groups entry) :
    ∀ entry ∈ (enter group specs table).2, Enters groups entry := by
  induction specs generalizing table with
  | nil => exact htable
  | cons spec rest ih =>
      rw [enter]
      split
      · exact htable
      · apply ih (fun other hother => hspecs other (List.mem_cons_of_mem spec hother))
        intro entry hentry
        rcases List.mem_append.mp hentry with hentry | hentry
        · exact htable entry hentry
        · rw [List.mem_singleton.mp hentry]
          exact ⟨hgroup, spec, hspecs spec List.mem_cons_self, rfl⟩

theorem table_register (registry : Registry) (group : CommandGroup) :
    (registry.register group).2.table = (enter group group.commands registry.table).2 := by
  unfold register
  split <;> rename_i hresult <;> rw [hresult]

theorem enters_of_mem_ofGroups {groups : List CommandGroup} {entry : Text × CommandGroup}
    (hentry : entry ∈ (ofGroups groups).table) : Enters groups entry := by
  suffices h : ∀ (rest : List CommandGroup) (registry : Registry),
      (∀ group ∈ rest, group ∈ groups) →
      (∀ entry ∈ registry.table, Enters groups entry) →
      ∀ entry ∈ (rest.foldl (fun registry group => (register registry group).2) registry).table,
        Enters groups entry from
    h groups empty (fun _ hgroup => hgroup) (by simp [empty]) entry hentry
  intro rest
  induction rest with
  | nil => exact fun registry _ htable => htable
  | cons group rest ih =>
      intro registry hgroups htable
      apply ih _ (fun other hother => hgroups other (List.mem_cons_of_mem group hother))
      rw [table_register]
      exact enters_of_mem_enter (hgroups group List.mem_cons_self) (fun _ h => h) htable

theorem enters_of_find? {groups : List CommandGroup} {name : Text} {group : CommandGroup}
    (h : (ofGroups groups).find? name = some group) : Enters groups (name.lower, group) := by
  obtain ⟨before, after, hsplit, -⟩ := List.lookup_eq_some_iff.mp h
  exact enters_of_mem_ofGroups (hsplit ▸ by simp)

end Registry

/-- The standard commands have names in small letters. -/
theorem lower_name_of_mem_standardCommands :
    ∀ spec ∈ standardCommands, spec.name.lower = spec.name := by
  decide +kernel

theorem mem_standardCommands {setup : Setup} {group : CommandGroup} {spec : CommandSpec}
    (hgroup : group ∈ standardGroups setup) (hspec : spec ∈ group.commands) :
    spec ∈ standardCommands := by
  simp only [standardGroups, List.mem_cons, List.not_mem_nil, or_false] at hgroup
  simp only [standardCommands, List.mem_append]
  rcases hgroup with rfl | rfl | rfl | rfl
  · exact .inl (.inl (.inl hspec))
  · exact .inl (.inl (.inr hspec))
  · exact .inl (.inr hspec)
  · exact .inr hspec

theorem keys_standardRegistry (setup : Setup) :
    (standardRegistry setup).table.map Prod.fst = standardCommands.map (·.name) := by
  cbv

/-- What a call of the standard commands comes to: its name is not known, or the command that has
the name in small letters is run by its group. -/
inductive Dispatched (setup : Setup) (invocation : Invocation) : Shell Reply → Prop
  | unknown (hname : invocation.name.lower ∉ standardCommands.map (·.name)) :
      Dispatched setup invocation (pure (Registry.unknownReply invocation.name))
  | navigation {spec : CommandSpec} (hspec : spec ∈ Navigation.commands)
      (hname : spec.name = invocation.name.lower) :
      Dispatched setup invocation (Navigation.run setup { invocation with name := spec.name })
  | entries {spec : CommandSpec} (hspec : spec ∈ EntryCommands.commands)
      (hname : spec.name = invocation.name.lower) :
      Dispatched setup invocation (EntryCommands.run setup { invocation with name := spec.name })
  | content {spec : CommandSpec} (hspec : spec ∈ ContentCommands.commands)
      (hname : spec.name = invocation.name.lower) :
      Dispatched setup invocation (ContentCommands.run setup { invocation with name := spec.name })
  | session {spec : CommandSpec} (hspec : spec ∈ SessionCommands.commands)
      (hname : spec.name = invocation.name.lower) :
      Dispatched setup invocation
        (SessionCommands.run standardCommands { invocation with name := spec.name })

theorem dispatched (setup : Setup) (invocation : Invocation) :
    Dispatched setup invocation ((standardRegistry setup).dispatch invocation) := by
  unfold Registry.dispatch
  cases hfind : (standardRegistry setup).find? invocation.name with
  | none =>
      refine .unknown fun hmem => ?_
      rw [← keys_standardRegistry setup] at hmem
      obtain ⟨entry, hentry, hname⟩ := List.mem_map.mp hmem
      simpa [hname] using List.lookup_eq_none_iff.mp hfind entry hentry
  | some group =>
      obtain ⟨hgroup, spec, hspec, hname⟩ := Registry.enters_of_find? hfind
      simp only [] at hgroup hspec hname ⊢
      rw [lower_name_of_mem_standardCommands spec (mem_standardCommands hgroup hspec)] at hname
      rw [← hname]
      simp only [standardGroups, List.mem_cons, List.not_mem_nil, or_false] at hgroup
      rcases hgroup with rfl | rfl | rfl | rfl
      · exact .navigation hspec hname
      · exact .entries hspec hname
      · exact .content hspec hname
      · exact .session hspec hname

/-- A registry that answers every call. -/
structure Registry.Answers (registry : Registry) : Prop where
  dispatch : ∀ {invocation}, NullFreeArguments invocation.arguments →
    LineShell.Answers (registry.dispatch invocation)

theorem answers_standardRegistry (setup : Setup) : (standardRegistry setup).Answers := by
  refine ⟨fun {invocation} harguments => ?_⟩
  have hdispatched := dispatched setup invocation
  generalize (standardRegistry setup).dispatch invocation = action at hdispatched
  cases hdispatched with
  | unknown => exact .pure trivial
  | navigation hspec => exact Navigation.answers_group setup _ ⟨_, hspec, rfl⟩ harguments
  | entries hspec => exact EntryCommands.answers_group setup _ ⟨_, hspec, rfl⟩ harguments
  | content hspec => exact ContentCommands.answers_group setup _ ⟨_, hspec, rfl⟩ harguments
  | session hspec =>
      exact SessionCommands.answers_group standardCommands _ ⟨_, hspec, rfl⟩ harguments

end LineShell
