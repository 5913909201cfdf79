import LineShell.Proofs.FileSystem.CopyingMoves
import LineShell.Proofs.FileSystem.NullFree
import LineShell.Proofs.FileSystem.Parents

/-!
# Copying in place of relinking

Where an entry could be relinked, a machine that relinks nothing copies it and removes it instead.
In a file system of files and directories both moves give the same and leave the same tree, except
where the path of a directory goes into a directory inside of it.
-/

namespace LineShell

namespace Disk

variable {host other : Host} {files middle : FileSystem} {source target destination : Text}
variable {place inner : Place} {node : Node}

/-- The source is found not to hold the target, where the places say so. -/
theorem completes_isWithin (hfiles : files.Plain host) (hsource : files.Rooted source)
    (htarget : files.Rooted target) (hplace : files.Denotes source place)
    (hinner : files.Denotes target inner) (houtside : ¬ place <+: inner) :
    Completes (isWithin target source) files
      fun within after => within = false ∧ after = files := by
  apply (ends_isWithin_denotes hfiles.valid hfiles.linkFree hplace hinner).mono
  · rintro within _ ⟨rfl, -, -, hwithin⟩
    exact ⟨Bool.eq_false_iff.mpr fun htrue => houtside (hwithin.mp htrue).2, rfl⟩
  · rintro _ _ ⟨-, -, hrooted⟩
    exact absurd ⟨hsource, htarget⟩ hrooted

section Guarded

variable (hentry : files.hasEntry host source = true)
include hentry

/-- A source that is found not to hold the target is relinked, or else copied. -/
theorem ends_move_unguarded (hguard : files.isDirectory host source = true →
      Completes (isWithin (targetFor files host source destination) source) files
        fun within after => within = false ∧ after = files)
    {done : Text → FileSystem → Prop} {failed : Fault → FileSystem → Prop}
    (hmove : Ends (do
        match ← attempt (moveByRelinking host source (targetFor files host source destination)) with
        | .ok _ => return targetFor files host source destination
        | .error _ =>
            moveByCopying host source (targetFor files host source destination)
            return targetFor files host source destination : Disk Text) files done failed) :
    Ends (move host source destination) files done failed := by
  simp only [move, ends_bind, ends_get, ends_guard, hentry]
  refine ⟨by simp, fun _ => ?_⟩
  by_cases hdirectory : files.isDirectory host source = true
  · simp only [hdirectory, if_true, ends_bind, ends_guard]
    apply (hguard hdirectory).ends
    rintro within after ⟨rfl, rfl⟩
    rw [ends_bind] at hmove
    exact ⟨by simp, fun _ => hmove⟩
  · rw [if_neg hdirectory]
    exact hmove

/-- A directory that is found from a removed working directory is not moved. -/
theorem move_unplaced (hdirectory : files.isDirectory host source = true)
    (hplaced : ¬ files.Rooted source) :
    move host source destination files = .error .noWorkingDirectory files := by
  have hnone : files.absolute? source = none := by
    by_contra hsome
    exact hplaced (FileSystem.exists_absolute?_iff.mp (Option.ne_none_iff_exists'.mp hsome))
  apply Ends.eq_error
  simp only [move, ends_bind, ends_get, ends_guard, hentry, hdirectory, if_true, isWithin, absolute]
  refine ⟨by simp, fun _ => ?_⟩
  split
  · simp [hnone]
  · simp

end Guarded

/-- A machine that relinks nothing makes the missing parents and stops there. -/
theorem moveByRelinking_of_not_relinks (hcopies : host.relinks = false)
    (hnull : target.hasNull = false) (hparent : ensureParent host target files = .ok () middle) :
    moveByRelinking host source target files = .error (.system .otherDevice source) middle := by
  rw [moveByRelinking, bind_of_ok hparent]
  apply Ends.eq_error
  simp only [rename, ends_guard, ends_bind]
  exact ⟨by simp [hnull], fun _ => ⟨fun _ => ⟨trivial, trivial⟩, by simp [hcopies]⟩⟩

/-- A move has come to where its source can be relinked: the missing parents of the target were
made, which left the source alone. -/
structure Prepared (host : Host) (files middle : FileSystem) (source target : Text)
    (place inner : Place) (node : Node) : Prop where
  parent : ensureParent host target files = .ok () middle
  extended : files.Extended host (· <+: inner.dropLast) middle
  rooted : files.Rooted target
  stands : files.at? place = some node
  denotesSource : files.Denotes source place
  denotesTarget : files.Denotes target inner
  relinkable : ∃ moved, Relinkable host middle source target place inner moved

/-- A move that relinks its source to another entry carries it over. -/
theorem exists_prepared {relinked : FileSystem} (hfiles : files.Plain host)
    (hsource : files.entry? host source = some (place, node))
    (hnames : ∀ slashed, ¬ files.Names target place slashed)
    (hrelinks : moveByRelinking host source target files = .ok () relinked) :
    ∃ middle inner, Prepared host files middle source target place inner node ∧
      FileSystem.Carried place inner middle relinked := by
  have hlinks := hfiles.linkFree
  obtain ⟨_, middle, hparent, hrename⟩ := exists_of_bind_ok hrelinks
  obtain ⟨inner, hinner⟩ : ∃ inner, files.Denotes target inner := hlinks.exists_leads _ _
  obtain ⟨hrooted, -, hextended⟩ := (ends_ensureParent hfiles.valid hlinks hinner).of_ok hparent
  have hplain := hextended.plain hfiles
  -- Without links, paths name after the making of parents what they named before.
  have hsame : ∀ place link, files.kind? place = some (.link link) ↔
      middle.kind? place = some (.link link) := fun place link =>
    iff_of_false (hlinks place link) (hplain.linkFree place link)
  have hstart := FileSystem.startOf_congr (congrArg _ hextended.working.symm)
  obtain ⟨found, slashed, hfound, hcase⟩ := (ends_rename_carried hplain).of_ok hrename
  have hfound := hfound.congr hsame (hstart source)
  have hlookup := (FileSystem.entry?_eq_some_iff.mp hsource).2
  have hat := (FileSystem.stands_of_lookup hfiles.valid hfound.placed hlookup).1
  have hplace : files.Denotes source place := by
    refine (FileSystem.denotes_of_placed hfiles.valid hfound.placed hlookup fun link heq => ?_).2
    exact hlinks place link (FileSystem.at?_link_iff.mp (heq ▸ hat))
  obtain rfl := (hfound.denotes (hlinks _)).unique hplace
  rcases hcase with ⟨slashed, hsameEntry⟩ | ⟨other, moved, hrelinkable, hcarried⟩
  · exact absurd (hsameEntry.congr hsame (hstart target)) (hnames slashed)
  · obtain ⟨directory, name, slashed, rfl, -, -, haims⟩ := hrelinkable.aimsTarget
    have hother : middle.Denotes target (directory ++ [name]) :=
      (haims.walks hplain.valid).leads (hplain.linkFree _)
    obtain rfl := (hother.congr hsame (hstart target)).unique hinner
    exact ⟨middle, _, ⟨hparent, hextended, hrooted, hat, hplace, hinner, moved, hrelinkable⟩,
      hcarried⟩

namespace Prepared

variable (h : Prepared host files middle source target place inner node)
include h

theorem apart : place.Apart inner := by
  obtain ⟨moved, hrelinkable⟩ := h.relinkable
  exact hrelinkable.apart

theorem hasNull : target.hasNull = false := by
  obtain ⟨moved, hrelinkable⟩ := h.relinkable
  obtain ⟨_, _, _, _, _, _, haims⟩ := hrelinkable.aimsTarget
  exact haims.hasNull

theorem kind?_below (rest : Place) : middle.kind? (place ++ rest) = node.kind? rest := by
  rw [← FileSystem.kind?_append h.stands]
  apply h.extended.kind?_eq
  intro hbegins
  have hinside := ((List.prefix_append place rest).trans hbegins).trans (List.dropLast_prefix inner)
  exact h.apart.left hinside

theorem fits (hnull : files.NullFree) (hsource : source.hasNull = false)
    (hsizes : ∀ rest kind, node.kind? rest = some kind →
      (Path.below source rest).utf8Size ≤ host.pathLimit ∧
        (Path.below target rest).utf8Size ≤ host.pathLimit)
    {rest : Place} {kind : Kind} (hkind : middle.kind? (place ++ rest) = some kind) :
    Path.Fits host (Path.below source rest) ∧ Path.Fits host (Path.below target rest) := by
  have hnode := (h.kind?_below rest).symm.trans hkind
  have hfree : ∀ name ∈ rest, name.hasNull = false := fun name hmem =>
    hnull.names ((FileSystem.kind?_append h.stands rest).trans hnode) name
      (List.mem_append_right place hmem)
  obtain ⟨hsourceSize, htargetSize⟩ := hsizes rest kind hnode
  exact ⟨⟨hsourceSize, Path.hasNull_below hsource hfree⟩,
    ⟨htargetSize, Path.hasNull_below h.hasNull hfree⟩⟩

theorem completes_isWithin (hfiles : files.Plain host) (hsource : files.Rooted source) :
    Completes (isWithin target source) files fun within after => within = false ∧ after = files :=
  Disk.completes_isWithin hfiles hsource h.rooted h.denotesSource h.denotesTarget h.apart.left

/-- On a machine that relinks nothing, the source is copied instead. -/
theorem ends_moveByCopying (hfiles : files.Plain host) (halike : host.Alike other)
    (hroomy : other.Roomy) (hsource : node.kind = .directory → files.Rooted source)
    (hfits : ∀ rest kind, middle.kind? (place ++ rest) = some kind →
      Path.Fits host (Path.below source rest) ∧ Path.Fits host (Path.below target rest)) :
    Ends (moveByCopying other source target) middle
      (fun _ after => files.Avoids source place ∧ FileSystem.Carried place inner middle after)
      (fun _ _ => ¬ files.Avoids source place) := by
  obtain ⟨moved, hrelinkable⟩ := h.relinkable
  have hmoved : moved.kind = node.kind := by
    have hkind := h.kind?_below []
    rw [List.append_nil, FileSystem.kind?_of_at? hrelinkable.stands] at hkind
    exact Option.some.inj hkind
  have hkept : ∀ path, files.Rooted path → middle.Rooted path := fun path hpath => by
    rw [FileSystem.Rooted, h.extended.working]
    exact hpath
  have hends := (hrelinkable.alike halike).ends_moveByCopying (halike.plain (h.extended.plain hfiles))
    (fun rest kind hkind => (hfits rest kind hkind).imp halike.fits halike.fits)
    hroomy (fun hnode => hkept _ (hsource (hmoved ▸ hnode))) (hkept _ h.rooted)
  simpa only [FileSystem.Avoids.congr h.extended.working] using hends

end Prepared

/-- A machine that relinks nothing and has room copies the source and removes it, if the path of the
source goes into no directory inside of it. -/
theorem ends_move_copied (hfiles : files.Plain host) (halike : host.Alike other)
    (hroomy : other.Roomy) (hcopies : other.relinks = false)
    (hentry : files.hasEntry host source = true)
    (hguard : files.isDirectory host source = true →
      Completes (isWithin (targetFor files host source destination) source) files
        fun within after => within = false ∧ after = files)
    (hprepared : Prepared host files middle source (targetFor files host source destination) place
      inner node)
    (hplaced : node.kind = .directory → files.Rooted source)
    (hfits : ∀ rest kind, middle.kind? (place ++ rest) = some kind →
      Path.Fits host (Path.below source rest) ∧
        Path.Fits host (Path.below (targetFor files host source destination) rest)) :
    Ends (move other source destination) files
      (fun path after => path = targetFor files host source destination ∧
        files.Avoids source place ∧ FileSystem.Carried place inner middle after)
      (fun _ _ => ¬ files.Avoids source place) := by
  have hrefused : moveByRelinking other source (targetFor files host source destination) files =
      .error (.system .otherDevice source) middle :=
    moveByRelinking_of_not_relinks hcopies hprepared.hasNull
      (halike.ensureParent_eq ▸ hprepared.parent)
  apply ends_move_unguarded
  · rw [FileSystem.hasEntry, halike.entry?_eq]
    exact hentry
  · rw [halike.isDirectory_eq, halike.targetFor_eq]
    exact hguard
  · rw [halike.targetFor_eq, ends_bind, ends_attempt, Ends.iff_of_error hrefused, if_neg (by simp),
      ends_bind]
    apply (hprepared.ends_moveByCopying hfiles halike hroomy hplaced hfits).mono
    · exact fun _ _ h => ⟨rfl, h⟩
    · exact fun _ _ h => h

section Agreement

variable {relinked : FileSystem} (halike : host.Alike other) (hroomy : other.Roomy)
  (hcopies : other.relinks = false)
  (hfiles : files.Plain host) (hnull : files.NullFree)
  (hsource : files.entry? host source = some (place, node))
  (hnames : ∀ slashed, ¬ files.Names (targetFor files host source destination) place slashed)
  (hrelinks : moveByRelinking host source (targetFor files host source destination) files =
    .ok () relinked)
  (hfits : ∀ rest kind, node.kind? rest = some kind →
    (Path.below source rest).utf8Size ≤ host.pathLimit ∧
      (Path.below (targetFor files host source destination) rest).utf8Size ≤ host.pathLimit)
include halike hroomy hcopies hfiles hnull hsource hnames hrelinks hfits

/-- In a file system of files and directories, let a machine be able to relink the source under the
target, which names another entry, and let another machine of the same limits relink nothing, have
room for what is copied and list names in any order.  Unless the working directory was removed, the
first move gives the target, and the second one gives the same and leaves the same tree, exactly if
the path of the source goes into no directory inside of it. -/
theorem move_copying_iff :
    Ends (move host source destination) files
      (fun path after => path = targetFor files host source destination ∧ after = relinked ∧
        ((∃ copied, move other source destination files = .ok path copied ∧
          after.SameTree copied) ↔ files.Avoids source place))
      (fun fault after => fault = .noWorkingDirectory ∧ after = files ∧ ¬ files.Rooted source ∧
        move other source destination files = .error fault after) := by
  have hnullSource := (FileSystem.entry?_eq_some_iff.mp hsource).1
  obtain ⟨middle, inner, hprepared, hcarried⟩ := exists_prepared hfiles hsource hnames hrelinks
  have hentry : files.hasEntry host source = true := by
    rw [FileSystem.hasEntry, hsource]
    rfl
  have hdirectory : files.isDirectory host source = true ↔ node.kind = .directory := by
    rw [FileSystem.isDirectory, ← hfiles.linkFree.entry?_eq, hsource]
    cases node <;> simp [Node.kind]
  by_cases hplaced : node.kind = .directory → files.Rooted source
  · have hguard : files.isDirectory host source = true →
        Completes (isWithin (targetFor files host source destination) source) files
          fun within after => within = false ∧ after = files := fun hthere =>
      hprepared.completes_isWithin hfiles (hplaced (hdirectory.mp hthere))
    have hother := ends_move_copied hfiles halike hroomy hcopies hentry hguard hprepared hplaced
      fun _ _ => hprepared.fits hnull hnullSource hfits
    apply ends_move_unguarded hentry hguard
    rw [ends_bind, ends_attempt, Ends.iff_of_ok hrelinks]
    refine ⟨rfl, rfl, ?_, ?_⟩
    · rintro ⟨copied, hrun, -⟩
      exact (hother.of_ok hrun).2.1
    · intro havoids
      have hcompletes := hother.mono (fun _ _ h => h) fun _ _ h => h havoids
      obtain ⟨_, copied, hrun, rfl, -, hcopied⟩ := Completes.exists_ok hcompletes
      exact ⟨copied, hrun, hcarried.sameTree hcopied⟩
  · -- The source is a directory found from a removed working directory: both stop at the guard.
    obtain ⟨hnode, hplaced⟩ := Classical.not_imp.mp hplaced
    have hthere := hdirectory.mpr hnode
    rw [Ends.iff_of_error (move_unplaced hentry hthere hplaced)]
    refine ⟨rfl, rfl, hplaced, move_unplaced ?_ ?_ hplaced⟩
    · rw [FileSystem.hasEntry, halike.entry?_eq]
      exact hentry
    · rw [halike.isDirectory_eq]
      exact hthere

end Agreement

section Example

/-- A directory that holds a directory with a file. -/
def holdingFiles : FileSystem :=
  { top := [("a", .directory [("x", .directory [("f", .file [1, 2])])])] }

theorem holdingFiles_wellFormed : (Node.directory holdingFiles.top).WellFormed {} := by
  have hinner : (Node.directory [("f", .file [1, 2])]).WellFormed {} :=
    Node.wellFormed_directory (by decide) (by decide)
      (List.forall_mem_singleton.mpr (Node.wellFormed_file [1, 2]))
  have houter : (Node.directory [("x", .directory [("f", .file [1, 2])])]).WellFormed {} :=
    Node.wellFormed_directory (by decide) (by decide) (List.forall_mem_singleton.mpr hinner)
  exact Node.wellFormed_directory (by decide) (by decide) (List.forall_mem_singleton.mpr houter)

theorem holdingFiles_plain : holdingFiles.Plain {} := by
  have hfile : ∀ rest kind, (Node.file [1, 2]).kind? rest = some kind → kind.Plain :=
    Node.forall_kind?_leaf (fun _ => rfl) (.inr ⟨[1, 2], rfl⟩)
  have hkinds : ∀ place kind, holdingFiles.kind? place = some kind → kind.Plain :=
    Node.forall_kind?_directory (.inl rfl) (List.forall_mem_singleton.mpr
      (Node.forall_kind?_directory (.inl rfl) (List.forall_mem_singleton.mpr
        (Node.forall_kind?_directory (.inl rfl) (List.forall_mem_singleton.mpr hfile)))))
  exact ⟨FileSystem.valid_of_wellFormed holdingFiles_wellFormed, hkinds _ _,
    holdingFiles_wellFormed.distinct⟩

theorem holdingFiles_nullFree : holdingFiles.NullFree :=
  holdingFiles_wellFormed.nullFree

theorem not_names_of_components (hlinks : files.LinkFree)
    (htarget : Path.isAbsolute target = true) (hne : Path.components target ≠ place)
    (slashed : Bool) : ¬ files.Names target place slashed := by
  intro hnames
  have hdenotes := hnames.denotes fun link => hlinks _ link
  exact hne (hlinks.eq_components htarget hdenotes).symm

/-- The paths of all that is in the directory fit if those of its three entries do. -/
theorem holdingFiles_fits {path : Text} (hfile : (Path.below path ["x", "f"]).utf8Size ≤ 4095)
    (hinner : (Path.below path ["x"]).utf8Size ≤ 4095) (hself : path.utf8Size ≤ 4095) :
    ∀ rest kind, (Node.directory [("x", .directory [("f", .file [1, 2])])]).kind? rest = some kind →
      (Path.below path rest).utf8Size ≤ 4095 := by
  have hinside : ∀ rest kind, (Node.directory [("f", .file [1, 2])]).kind? rest = some kind →
      (Path.below path (("x" : Text) :: rest)).utf8Size ≤ 4095 :=
    Node.forall_kind?_directory hinner
      (List.forall_mem_singleton.mpr (Node.forall_kind?_leaf (fun _ => rfl) hfile))
  exact Node.forall_kind?_directory hself (List.forall_mem_singleton.mpr hinside)

/-- A path may go up and down again outside of the directory: copied and removed, the directory
leaves the tree as it does relinked, under parents that were missing. -/
theorem move_copying_holdingFiles :
    Host.Alike {} copyingHost ∧ copyingHost.Roomy ∧ holdingFiles.Plain {} ∧
      holdingFiles.NullFree ∧
      holdingFiles.entry? {} "/a/../a" =
        some ([("a" : Text)], .directory [("x", .directory [("f", .file [1, 2])])]) ∧
      (∀ slashed, ¬ holdingFiles.Names "/n/b" [("a" : Text)] slashed) ∧
      holdingFiles.Avoids "/a/../a" [("a" : Text)] ∧
      move {} "/a/../a" "/n/b" holdingFiles = .ok "/n/b" { top := [("n", .directory
        [("b", .directory [("x", .directory [("f", .file [1, 2])])])])] } ∧
      ∃ copied, move copyingHost "/a/../a" "/n/b" holdingFiles = .ok "/n/b" copied ∧
        FileSystem.SameTree { top := [("n", .directory
          [("b", .directory [("x", .directory [("f", .file [1, 2])])])])] } copied := by
  have halike : Host.Alike {} copyingHost := ⟨rfl, rfl, rfl, rfl⟩
  have hroomy : copyingHost.Roomy := fun _ _ _ => rfl
  have hentry : holdingFiles.entry? {} "/a/../a" =
      some ([("a" : Text)], .directory [("x", .directory [("f", .file [1, 2])])]) := by
    cbv
  have hother := not_names_of_components holdingFiles_plain.linkFree
    (by decide : Path.isAbsolute "/n/b" = true)
    (by decide : Path.components "/n/b" ≠ [("a" : Text)])
  have htarget : targetFor holdingFiles {} "/a/../a" "/n/b" = "/n/b" := by cbv
  have hrelinks : moveByRelinking {} "/a/../a" "/n/b" holdingFiles = .ok () { top := [("n",
      .directory [("b", .directory [("x", .directory [("f", .file [1, 2])])])])] } := by
    cbv
  have hrun : move {} "/a/../a" "/n/b" holdingFiles = .ok "/n/b" { top := [("n",
      .directory [("b", .directory [("x", .directory [("f", .file [1, 2])])])])] } := by
    cbv
  have havoids : holdingFiles.Avoids "/a/../a" [("a" : Text)] := by
    unfold FileSystem.Avoids
    decide
  rw [← htarget] at hrelinks hother
  have hmoved := (move_copying_iff halike hroomy rfl holdingFiles_plain holdingFiles_nullFree hentry
    hother hrelinks fun rest kind hkind => ⟨?_, ?_⟩).of_ok hrun
  · exact ⟨halike, hroomy, holdingFiles_plain, holdingFiles_nullFree, hentry, htarget ▸ hother,
      havoids, hrun, hmoved.2.2.mpr havoids⟩
  · exact holdingFiles_fits (by decide) (by decide) (by decide) _ _ hkind
  · rw [htarget]
    exact holdingFiles_fits (by decide) (by decide) (by decide) _ _ hkind

/-- A directory whose path goes through a directory inside of it is copied, but it cannot be removed
by that path, where relinking takes it along. -/
theorem not_move_copying_holdingFiles :
    holdingFiles.Plain {} ∧ holdingFiles.NullFree ∧
      holdingFiles.entry? {} "/a/x/../../a" =
        some ([("a" : Text)], .directory [("x", .directory [("f", .file [1, 2])])]) ∧
      (∀ slashed, ¬ holdingFiles.Names "/b" [("a" : Text)] slashed) ∧
      (∀ rest kind,
        (Node.directory [("x", .directory [("f", .file [1, 2])])]).kind? rest = some kind →
        (Path.below "/a/x/../../a" rest).utf8Size ≤ 4095 ∧ (Path.below "/b" rest).utf8Size ≤ 4095) ∧
      move {} "/a/x/../../a" "/b" holdingFiles =
        .ok "/b" { top := [("b", .directory [("x", .directory [("f", .file [1, 2])])])] } ∧
      move copyingHost "/a/x/../../a" "/b" holdingFiles =
        .error (.sourceKept "/a/x/../../a")
          { top := [("a", .directory []),
            ("b", .directory [("x", .directory [("f", .file [1, 2])])])] } := by
  refine ⟨holdingFiles_plain, holdingFiles_nullFree, by cbv, ?_, fun rest kind hkind => ?_, by cbv,
    by cbv⟩
  · exact not_names_of_components holdingFiles_plain.linkFree (by decide) (by decide)
  · exact ⟨holdingFiles_fits (by decide) (by decide) (by decide) _ _ hkind,
      holdingFiles_fits (by decide) (by decide) (by decide) _ _ hkind⟩

end Example

end Disk

end LineShell
