import LineShell.Proofs.FileSystem.ExactCopies
import LineShell.Proofs.FileSystem.Parents
import LineShell.Proofs.FileSystem.SingleEntries
import LineShell.Proofs.FileSystem.Steady

/-!
# Files brought into a directory

Without links, a file that is copied or moved into a directory is there afterwards under its own
name, whatever file had that name before, and nothing else has changed but that a moved file is gone
from where it was.  Relinking it and copying it and removing it come to the same.
-/

namespace LineShell

/-- The commands that bring their sources to another place. -/
inductive TransferCommand where
  | copy
  | move
  deriving DecidableEq

/-- What a command does with one source. -/
def TransferCommand.action (command : TransferCommand) (host : Host) (source destination : Text) :
    Disk Text :=
  match command with
  | .copy => Disk.copy host source destination
  | .move => Disk.move host source destination

/-- A file to be brought into a directory: its path, where it stands, and what it holds. -/
structure Delivery where
  source : Text
  place : Place
  content : Bytes

/-- The name that a file is to have in the directory, its own. -/
def Delivery.name (delivery : Delivery) : Name :=
  Path.lastComponent delivery.source

namespace FileSystem

/-- A file was brought from one place to another, where it replaced what had been there, and nothing
else has changed. -/
structure Delivered (host : Host) (command : TransferCommand) (place landing : Place)
    (content : Bytes) (before after : FileSystem) : Prop where
  replaced : before.kind? landing ≠ some .directory
  kinds : ∀ other, after.kind? other =
    if other = landing then some (.file content)
    else if command = .move ∧ other = place then none else before.kind? other
  working : after.working = before.working
  valid : after.Valid host

namespace Delivered

variable {host : Host} {command : TransferCommand} {place landing : Place} {content old : Bytes}
variable {before after : FileSystem}

theorem linkFree (h : Delivered host command place landing content before after)
    (hlinks : before.LinkFree) : after.LinkFree := by
  intro other target
  rw [h.kinds]
  split
  · simp
  split
  · simp
  · exact hlinks other target

/-- Paths lead where they led before, because only files have come and gone. -/
theorem steady (h : Delivered host command place landing content before after)
    (hlinks : before.LinkFree) (hplace : before.kind? place = some (.file old)) :
    before.Steady after := by
  refine ⟨fun other target => iff_of_false (h.linkFree hlinks other target) (hlinks other target),
    fun other hother => ?_, h.working⟩
  rw [h.kinds, if_neg, if_neg, hother]
  · rintro ⟨-, rfl⟩
    simp [hplace] at hother
  · rintro rfl
    exact h.replaced hother

end Delivered

/-! ### One delivery after the other -/

/-- Files were brought into a directory one after the other. -/
inductive Delivers (host : Host) (command : TransferCommand) (inner : Place) :
    List Delivery → FileSystem → FileSystem → Prop where
  | nil (files : FileSystem) : Delivers host command inner [] files files
  | cons {delivery : Delivery} {rest : List Delivery} {before middle after : FileSystem}
      (hstep : Delivered host command delivery.place (inner ++ [delivery.name]) delivery.content
        before middle)
      (hrest : Delivers host command inner rest middle after) :
      Delivers host command inner (delivery :: rest) before after

namespace Delivers

variable {host : Host} {command : TransferCommand} {inner : Place} {deliveries : List Delivery}
variable {before after : FileSystem}

/-- Under a name that no file has, the directory holds what it held. -/
theorem kept (h : Delivers host command inner deliveries before after)
    (houtside : ∀ delivery ∈ deliveries, ¬ inner <+: delivery.place) {name : Name}
    (hname : ∀ delivery ∈ deliveries, delivery.name ≠ name) :
    after.kind? (inner ++ [name]) = before.kind? (inner ++ [name]) := by
  induction h with
  | nil => rfl
  | @cons delivery rest _ _ _ hstep _ ih =>
      obtain ⟨hdelivery, houtside⟩ := List.forall_mem_cons.mp houtside
      obtain ⟨hne, hname⟩ := List.forall_mem_cons.mp hname
      rw [ih houtside hname, hstep.kinds, if_neg, if_neg]
      · rintro ⟨-, heq⟩
        exact hdelivery (heq ▸ List.prefix_append inner [name])
      · intro heq
        exact hne (List.singleton_inj.mp (List.append_cancel_left heq)).symm

/-- A file is there as long as no later one has its name. -/
theorem arrived (h : Delivers host command inner deliveries before after)
    (houtside : ∀ delivery ∈ deliveries, ¬ inner <+: delivery.place)
    {front back : List Delivery} {delivery : Delivery}
    (hsplit : deliveries = front ++ delivery :: back)
    (hlast : ∀ later ∈ back, later.name ≠ delivery.name) :
    after.kind? (inner ++ [delivery.name]) = some (.file delivery.content) := by
  induction h generalizing front with
  | nil => cases front <;> cases hsplit
  | cons hstep hrest ih =>
      have hothers := (List.forall_mem_cons.mp houtside).2
      cases front with
      | nil =>
          obtain ⟨rfl, rfl⟩ := List.cons.inj hsplit
          rw [hrest.kept hothers hlast, hstep.kinds, if_pos rfl]
      | cons first front => exact ih hothers (List.cons.inj hsplit).2

/-- Under the name of a file, the directory holds one of the files of that name. -/
theorem exists_arrived (h : Delivers host command inner deliveries before after)
    (houtside : ∀ delivery ∈ deliveries, ¬ inner <+: delivery.place) {delivery : Delivery}
    (hmem : delivery ∈ deliveries) :
    ∃ last ∈ deliveries, last.name = delivery.name ∧
      after.kind? (inner ++ [delivery.name]) = some (.file last.content) := by
  induction h generalizing delivery with
  | nil => cases hmem
  | @cons first rest _ _ _ hstep hrest ih =>
      have hothers := (List.forall_mem_cons.mp houtside).2
      by_cases hlater : ∃ later ∈ rest, later.name = delivery.name
      · obtain ⟨later, hrestMem, hname⟩ := hlater
        obtain ⟨last, hlastMem, hlast, hkind⟩ := ih hothers hrestMem
        exact ⟨last, List.mem_cons_of_mem _ hlastMem, hlast.trans hname, hname ▸ hkind⟩
      · obtain rfl : delivery = first :=
          (List.mem_cons.mp hmem).resolve_right fun hrestMem => hlater ⟨_, hrestMem, rfl⟩
        refine ⟨delivery, hmem, rfl, ?_⟩
        rw [hrest.kept hothers fun later hmem heq => hlater ⟨later, hmem, heq⟩, hstep.kinds,
          if_pos rfl]

end Delivers

/-! ### Files without links -/

/-- A file that a path finds where there are no links is named by the path. -/
theorem names_of_file {host : Host} {files : FileSystem} {path : Text} {place : Place}
    {content : Bytes} (hfiles : files.Valid host) (hlinks : files.LinkFree)
    (hfile : files.target? host path = some (place, .file content)) :
    files.Names path place false ∧ files.kind? place = some (.file content) := by
  have hentry := (hlinks.entry?_eq path).trans hfile
  have hnames := names_of_lookup hfiles (entry?_eq_some_iff.mp hentry).2 (by simp [Node.kind])
  have hdenoted := denotes_of_placed hfiles hnames.placed (target?_eq_some_iff.mp hfile).2 (by simp)
  exact ⟨hnames, kind?_of_at? hdenoted.1⟩

/-- The working directory is in no way concerned when anything but a directory is relinked. -/
theorem relink_leaf {host : Host} {files : FileSystem} {place target : Place}
    {name targetName : Name} (hfiles : files.Valid host)
    (hplace : files.kind? (place ++ [name]) ≠ some .directory)
    (htarget : files.kind? (target ++ [targetName]) ≠ some .directory) (node : Node) :
    files.relink place name target targetName node =
      (files.remove place name).put target targetName node := by
  have hworking : (files.working.afterRemoval (target ++ [targetName])).afterMove (place ++ [name])
      (target ++ [targetName]) = files.working := by
    rw [WorkingDirectory.afterRemoval, if_neg, WorkingDirectory.afterMove, if_neg]
    · intro hbegins
      exact hplace <| kind?_directory_of_prefix hfiles.lasting
        (List.isPrefixOf_iff_prefix.mp hbegins)
    · intro heq
      exact htarget (heq ▸ hfiles.lasting)
  have hsame : ((files.remove place name).put target targetName node).working = files.working := by
    simp
  unfold relink
  dsimp only
  rw [hworking, ← hsame]

end FileSystem

namespace Disk

open FileSystem (Delivered)

variable {host : Host} {files : FileSystem} {source target : Text} {place inner : Place}
variable {name : Name} {content : Bytes}

/-- No parents are made for an entry in a directory that is there. -/
theorem ends_ensureParent_there (hfiles : files.Valid host) (hlinks : files.LinkFree)
    (htarget : files.Denotes target (inner ++ [name]))
    (hinner : files.kind? inner = some .directory) :
    Ends (ensureParent host target) files (fun _ after => after = files)
      (fun _ after => after = files) := by
  have hsame : ∀ {after}, files.Extended host (· <+: (inner ++ [name]).dropLast) after →
      after = files := by
    rintro after hafter
    rcases hafter.new with hsame | ⟨other, hother, hnone, -⟩
    · exact hsame
    · rw [List.dropLast_concat] at hother
      have hthere := FileSystem.kind?_directory_of_prefix hinner hother
      rw [hnone] at hthere
      cases hthere
  exact (ends_ensureParent hfiles hlinks htarget).mono (fun _ _ h => hsame h.2.2) fun _ _ => hsame

/-- A file is not taken for a directory to go into. -/
theorem not_isDirectory_of_file (hfiles : files.Valid host)
    (hnames : files.Names source place false) (hkind : files.kind? place = some (.file content)) :
    ¬ (files.isDirectory host source && !files.isLink host source) = true := by
  intro htest
  have hdirectory := hnames.kind?_eq_directory hfiles htest
  rw [hkind] at hdirectory
  cases hdirectory

/-- A tree that is a single file is removed as such. -/
theorem ends_removeTree_file (hfiles : files.Valid host) (hnames : files.Names source place false)
    (hkind : files.kind? place = some (.file content)) :
    Ends (removeTree host source) files (fun _ after => files.Changed host place none after)
      (fun _ _ => True) := by
  simp only [removeTree, stripTree, ends_bind, ends_get]
  rw [if_neg (not_isDirectory_of_file hfiles hnames hkind), ends_bind]
  apply ends_removeEntry.mono _ fun _ _ _ => trivial
  rintro - after ⟨directory, name, node, haims, -, -, rfl⟩
  obtain ⟨rfl, -⟩ := (haims.names hfiles).unique hnames
  exact changed_remove hfiles (by simp [hkind])

/-- A file that was copied is removed where it was, or the move fails. -/
theorem ends_removeSource_file (hfiles : files.Valid host) (hnames : files.Names source place false)
    (hkind : files.kind? place = some (.file content)) :
    Ends (do if !(← tryRemoveTree host source) then throw (.sourceKept source) : Disk Unit) files
      (fun _ after => files.Changed host place none after) (fun _ _ => True) := by
  simp only [tryRemoveTree, succeeds, ends_bind, ends_get]
  split
  · rw [ends_bind, ends_attempt]
    apply (ends_removeTree_file hfiles hnames hkind).mono
    · exact fun _ after hafter => hafter
    · intro fault after _
      split
      · trivial
      · trivial
  · trivial

section Deliver

variable (hfiles : files.Valid host) (hlinks : files.LinkFree)
  (hsource : files.Names source place false) (hfile : files.kind? place = some (.file content))
  (htarget : files.Names target (inner ++ [name]) false)
include hfiles hlinks hsource hfile htarget

/-- A copied file replaces the one that had its name. -/
theorem ends_copyFile_delivers :
    Ends (copyFile host source target) files
      (fun _ after => place ≠ inner ++ [name] ∧
        Delivered host .copy place (inner ++ [name]) content files after)
      (fun _ _ => True) := by
  apply (ends_copyFile hfiles).mono _ fun _ _ _ => trivial
  rintro - after ⟨found, landing, copied, -, hfound, hdenotes, hlanding, hne, hold, hworking,
    hvalid, hafter⟩
  obtain rfl := hdenotes.unique (hsource.denotes (hlinks place))
  obtain rfl := hlanding.unique (htarget.denotes (hlinks _))
  obtain rfl : copied = content := by simpa [hfile] using hfound.symm
  refine ⟨hne, fun hdirectory => ?_, fun other => ?_, hworking, hvalid⟩
  · obtain ⟨old, hfalse⟩ := hold _ hdirectory
    cases hfalse
  · rw [hafter, if_neg (by simp : ¬ (TransferCommand.copy = .move ∧ other = _))]

omit hlinks in
/-- A relinked file replaces the one that had its name. -/
theorem ends_rename_delivers :
    Ends (rename host source target) files
      (fun _ after => Delivered host .move place (inner ++ [name]) content files after)
      (fun _ after => after = files) := by
  apply ends_rename.mono _ fun _ _ h => h.1
  rintro - after ⟨directory, sourceName, slashed, targetDirectory, targetName, targetSlashed, node,
    haims, htargetAims, hnode, hsize, -, -, -, hafter⟩
  obtain ⟨rfl, -⟩ := (haims.names hfiles).unique hsource
  obtain ⟨hlanding, -⟩ := (htargetAims.names hfiles).unique htarget
  obtain ⟨rfl, hname⟩ := List.append_inj' hlanding rfl
  obtain rfl := List.singleton_inj.mp hname
  obtain rfl : node = .file content :=
    Option.some.inj (hnode.symm.trans (FileSystem.at?_file_iff.mpr hfile))
  obtain ⟨hdirectory, hname⟩ := htargetAims.isName hfiles
  have hplace : files.kind? (directory ++ [sourceName]) ≠ some .directory := by simp [hfile]
  rcases hafter with ⟨heq, rfl⟩ | ⟨hne, hreplace, rfl⟩
  · rw [← heq]
    refine ⟨hplace, fun other => ?_, rfl, hfiles⟩
    split
    · rename_i hother
      rw [hother, hfile]
    · rename_i hother
      rw [if_neg fun h => hother h.2]
  · have hreplaced : files.kind? (targetDirectory ++ [targetName]) ≠ some .directory := by
      intro hkind
      obtain ⟨entries, hentries⟩ := FileSystem.exists_entries_of_kind? hkind
      rw [hentries] at hreplace
      cases entries <;> cases hreplace
    have hremoved := changed_remove hfiles hplace
    have hput : FileSystem.Changed host (files.remove directory sourceName)
        (targetDirectory ++ [targetName]) (some (Node.file content).kind)
        ((files.remove directory sourceName).put targetDirectory targetName (.file content)) := by
      apply changed_put hremoved.valid _ hname hsize _ (.inl (by simp [Node.kind]))
      · rw [hremoved.kinds, if_neg, hdirectory]
        rintro rfl
        exact hplace hdirectory
      · rw [hremoved.kinds, if_neg hne.symm]
        exact hreplaced
    rw [FileSystem.relink_leaf hfiles hplace hreplaced]
    refine ⟨hreplaced, fun other => ?_, hput.working.trans hremoved.working, hput.valid⟩
    rw [hput.kinds, hremoved.kinds]
    simp [Node.kind]

/-- Copying a file and removing it comes to the same as relinking it. -/
theorem ends_moveByCopying_delivers :
    Ends (moveByCopying host source target) files
      (fun _ after => Delivered host .move place (inner ++ [name]) content files after)
      (fun _ _ => True) := by
  simp only [moveByCopying, ends_bind, ends_get]
  rw [if_neg (not_isDirectory_of_file hfiles hsource hfile), ends_bind]
  apply (ends_copyFile_delivers hfiles hlinks hsource hfile htarget).mono_done
  rintro - middle ⟨hne, hmiddle⟩
  -- The source is named and stands as before, so it is what is removed.
  have hnames : middle.Names source place false := (hmiddle.steady hlinks hfile).names hsource
  have hthere : middle.kind? place = some (.file content) := by
    rw [hmiddle.kinds, if_neg hne, if_neg (by simp), hfile]
  apply (ends_removeSource_file hmiddle.valid hnames hthere).mono _ fun _ _ _ => trivial
  rintro - after hafter
  refine ⟨hmiddle.replaced, fun other => ?_, hafter.working.trans hmiddle.working, hafter.valid⟩
  rw [hafter.kinds]
  by_cases hplace : other = place
  · rw [if_pos hplace, if_neg (hplace ▸ hne), if_pos ⟨rfl, hplace⟩]
  · rw [if_neg hplace, hmiddle.kinds, if_neg (by simp : ¬ (TransferCommand.copy = .move ∧ _)),
      if_neg fun h : TransferCommand.move = .move ∧ _ => hplace h.2]

end Deliver

/-- A path that names a file ends in its name. -/
theorem isName_lastComponent (hnames : files.Names source place false) :
    Path.IsName (Path.lastComponent source) := by
  obtain ⟨front, name, directory, hsplit, hname, -, -⟩ := hnames.exists_front
  exact ⟨Path.lastComponent_of_splitOn hsplit ▸ hname, Path.not_slash_lastComponent source⟩

/-- The target of a file that goes to a directory is the entry of its name there. -/
theorem names_targetFor (hnames : files.Names source place false) {destination : Text}
    (hdirectory : files.isDirectory host destination = true)
    (hdestination : files.Denotes destination inner) :
    files.Names (targetFor files host source destination)
      (inner ++ [Path.lastComponent source]) false := by
  have hname := isName_lastComponent hnames
  rw [targetFor, if_pos hdirectory, Path.lastComponent_normalize hname.naming]
  exact FileSystem.names_join hdestination hname

section Directory

variable (hfiles : files.Valid host) (hlinks : files.LinkFree)
  (hsource : files.target? host source = some (place, .file content)) {destination : Text}
  (hdirectory : files.isDirectory host destination = true)
  (hdestination : files.Denotes destination inner) (hinner : files.kind? inner = some .directory)
include hfiles hlinks hsource hdirectory hdestination hinner

theorem ends_copy_delivers :
    Ends (copy host source destination) files
      (fun _ after => Delivered host .copy place (inner ++ [Path.lastComponent source]) content
        files after)
      (fun _ _ => True) := by
  obtain ⟨hnames, hfile⟩ := FileSystem.names_of_file hfiles hlinks hsource
  have htarget := names_targetFor hnames hdirectory hdestination
  have hto : Ends (copyTo host source (targetFor files host source destination)) files
      (fun _ after => Delivered host .copy place (inner ++ [Path.lastComponent source]) content
        files after)
      (fun _ _ => True) := by
    simp only [copyTo, ends_bind, ends_get]
    rw [if_neg (by simp [FileSystem.isDirectory, hsource]), ends_bind]
    apply (ends_ensureParent_there hfiles hlinks (htarget.denotes (hlinks _)) hinner).mono _
      fun _ _ _ => trivial
    rintro - _ rfl
    exact (ends_copyFile_delivers hfiles hlinks hnames hfile htarget).mono (fun _ _ h => h.2)
      fun _ _ h => h
  apply ends_copy_target.mono _ fun _ _ _ => trivial
  rintro - after ⟨-, rfl, hrun⟩
  exact hto.of_ok hrun

/-- Where relinking fails, the file system is as it was, and the file is copied and removed. -/
theorem ends_move_delivers :
    Ends (move host source destination) files
      (fun _ after => Delivered host .move place (inner ++ [Path.lastComponent source]) content
        files after)
      (fun _ _ => True) := by
  obtain ⟨hnames, hfile⟩ := FileSystem.names_of_file hfiles hlinks hsource
  have htarget := names_targetFor hnames hdirectory hdestination
  have hcopying := ends_moveByCopying_delivers hfiles hlinks hnames hfile htarget
  simp only [move, ends_bind, ends_get, ends_guard]
  refine ⟨fun _ => trivial, fun _ => ?_⟩
  rw [if_neg (by simp [FileSystem.isDirectory, hsource])]
  simp only [moveByRelinking, ends_bind, ends_attempt]
  apply (ends_ensureParent_there hfiles hlinks (htarget.denotes (hlinks _)) hinner).mono
  · rintro - _ rfl
    apply (ends_rename_delivers hfiles hnames hfile htarget).mono
    · exact fun _ after h => h
    · rintro fault _ rfl
      split
      · trivial
      · exact hcopying
  · rintro fault _ rfl
    split
    · trivial
    · exact hcopying

/-- A file that is copied or moved to a directory is there under its name afterwards. -/
theorem ends_action_delivers (command : TransferCommand) :
    Ends (command.action host source destination) files
      (fun _ after => Delivered host command place (inner ++ [Path.lastComponent source]) content
        files after)
      (fun _ _ => True) := by
  cases command with
  | copy => exact ends_copy_delivers hfiles hlinks hsource hdirectory hdestination hinner
  | move => exact ends_move_delivers hfiles hlinks hsource hdirectory hdestination hinner

end Directory

end Disk

end LineShell
