import LineShell.FileSystem.Entry
import LineShell.Proofs.FileSystem.JoinedNames
import LineShell.Proofs.FileSystem.WellFormed

/-!
# Descriptions of the entries of a directory

A listing has every name of its directory once.  Whether an entry is there is asked at the path with
the name joined to it, but what it is is told at the normal form of that path.  The two agree for all
entries if and only if the normal form of the directory's path leads to the directory as well, but
for links that only one of the two paths can follow to their end.
-/

namespace LineShell

namespace FileSystem

variable {host : Host} {files : FileSystem} {path : Text} {place : Place} {name : Name}
variable {entries : Entries}

/-- The description of a name in a directory, which is taken at a normal form. -/
def entryAt (files : FileSystem) (host : Host) (path : Text) (name : Name) : Entry where
  path := Path.normalize (Path.join path name)
  name := name
  isDirectory := files.isDirectory host (Path.normalize (Path.join path name))

/-- A description is that of the name in the directory at a path. -/
structure Describes (files : FileSystem) (host : Host) (directory : Text) (entry : Entry) :
    Prop where
  path : files.entry? host entry.path = files.entry? host (Path.join directory entry.name)
  kind : entry.isDirectory = files.isDirectory host (Path.join directory entry.name)

/-- One of two paths leads to a directory, and the other one is stopped for the number of links that
it has led through. -/
def PartedByLinks (files : FileSystem) (host : Host) (left right : Text) : Prop :=
  files.isDirectory host left = true ∧ files.lookup host .always right = .error .linkLoop ∨
    files.lookup host .always left = .error .linkLoop ∧ files.isDirectory host right = true

theorem describe_join (hpath : Path.isAbsolute path = true) (hname : Path.IsName name)
    (hentry : files.hasEntry host (Path.join path name) = true) :
    files.describe host (Path.join path name) = .ok (files.entryAt host path name) := by
  have hlast : Path.lastComponent (Path.join path name) = name := by
    rw [Path.lastComponent_join, (Path.lastComponent_of_not_slash hname.not_slash).1]
  have hnormal : Path.lastComponent (Path.normalize (Path.join path name)) = name := by
    rw [Path.lastComponent_normalize (hlast.symm ▸ hname.naming), hlast]
  rw [describe, if_neg (by simpa using Path.join_ne_nil path hname), hentry,
    absolute?_of_isAbsolute files (Path.isAbsolute_join hpath), entryAt]
  simp [hnormal]

end FileSystem

namespace Disk

variable {host : Host} {files after : FileSystem} {path : Text} {place : Place} {name : Name}
variable {entries : Entries} {described : List Entry}

/-- Only a directory is listed. -/
theorem isDirectory_of_listEntries (h : listEntries host path files = .ok described after) :
    files.isDirectory host path = true := by
  have hends : Ends (listEntries host path) files (fun _ _ => files.isDirectory host path = true)
      fun _ _ => True := by
    unfold listEntries
    simp only [ends_bind, ends_get, ends_guard, ends_pure]
    refine ⟨fun _ => trivial, fun _ => ⟨fun _ => trivial, fun hdirectory => ?_⟩⟩
    exact (Gives.any (listNames host path) files trivial).mono
      (fun _ _ _ => ⟨fun _ => trivial, fun _ => by simpa using hdirectory⟩) fun _ _ _ => trivial
  exact hends.of_ok h

theorem listNames_eq (htarget : files.target? host path = some (place, .directory entries)) :
    listNames host path files = .ok (host.arrange files place (Entries.names entries)) files := by
  obtain ⟨hnull, hlookup⟩ := FileSystem.target?_eq_some_iff.mp htarget
  have hask : ask path (fun files => files.lookup host .always path) files =
      .ok (place, .directory entries) files := by
    simp [ask, hnull, hlookup]
  rw [listNames, bind_of_ok hask]
  rfl

section Listed

variable (hfiles : files.Valid host) (hpath : Path.isAbsolute path = true)
variable (htarget : files.target? host path = some (place, .directory entries))
variable (hname : name ∈ Entries.names entries) (hfits : Path.Fits host (Path.join path name))
include hfiles hpath htarget hname

theorem exists_at?_of_listed : Path.IsName name ∧ ∃ node, files.at? (place ++ [name]) = some node := by
  have hentries := FileSystem.at?_of_lookup (.inl hpath)
    (FileSystem.target?_eq_some_iff.mp htarget).2 (.inl hpath)
  obtain ⟨kind, hkind⟩ := (FileSystem.mem_names_iff hentries).mp hname
  obtain ⟨node, hnode, -⟩ := FileSystem.exists_at?_of_kind? hkind
  exact ⟨hfiles.isName hkind, node, hnode⟩

end Listed

/-- A directory whose names make no path too long is listed whole. -/
theorem listEntries_eq (hfiles : files.Valid host) (hpath : Path.isAbsolute path = true)
    (htarget : files.target? host path = some (place, .directory entries))
    (hfits : ∀ name ∈ Entries.names entries, Path.Fits host (Path.join path name)) :
    listEntries host path files =
      .ok ((host.arrange files place (Entries.names entries)).map (files.entryAt host path))
        files := by
  have hreaches : files.reaches host path = true := by rw [FileSystem.reaches, htarget]; rfl
  have hdirectory : files.isDirectory host path = true :=
    FileSystem.isDirectory_iff.mpr ⟨place, entries, htarget⟩
  have hdescribed : ∀ name ∈ host.arrange files place (Entries.names entries),
      files.describe host (Path.join path name) = .ok (files.entryAt host path name) := by
    intro name hmem
    have hmem := (host.arrange_perm files place _).mem_iff.mp hmem
    obtain ⟨hname, node, hnode⟩ := exists_at?_of_listed hfiles hpath htarget hmem
    have hentry := FileSystem.entry?_join hfiles hpath hname htarget (hfits name hmem) hnode
    refine FileSystem.describe_join hpath hname ?_
    rw [FileSystem.hasEntry, hentry]
    rfl
  have hmap : (host.arrange files place (Entries.names entries)).map
      (fun name => files.describe host (Path.join path name)) =
      (host.arrange files place (Entries.names entries)).map
        (fun name => .ok (files.entryAt host path name)) := List.map_congr_left hdescribed
  have hget : (get : Disk FileSystem) files = .ok files files := rfl
  rw [listEntries, bind_of_ok hget]
  simp only [hreaches, hdirectory, Bool.not_true, Bool.false_eq_true, if_false]
  rw [bind_of_ok (listNames_eq htarget), hmap, if_neg (by simp [Entry.isUnplaced])]
  rw [List.filterMap_map]
  exact congrArg (fun names => EStateM.Result.ok names files)
    (congrFun List.filterMap_eq_map' _)

section Described

variable (hfiles : files.Valid host) (hpath : Path.isAbsolute path = true)
variable (htarget : files.target? host path = some (place, .directory entries))
variable (hname : name ∈ Entries.names entries) (hfits : Path.Fits host (Path.join path name))
include hfiles hpath htarget hname hfits

/-- The path of a description is that of the entry if and only if the normal form of the directory's
path leads to the directory. -/
theorem entry?_entryAt_iff :
    files.entry? host (files.entryAt host path name).path =
        files.entry? host (Path.join path name) ↔
      files.target? host (Path.normalize path) = files.target? host path := by
  obtain ⟨hisName, node, hnode⟩ := exists_at?_of_listed hfiles hpath htarget hname
  have hnormal := Path.isAbsolute_normalize hpath
  have hentry := FileSystem.entry?_join hfiles hpath hisName htarget hfits hnode
  have hjoined := Path.normalize_join hpath hisName
  rw [FileSystem.entryAt, hjoined, hentry, htarget]
  constructor
  · intro hsame
    obtain ⟨others, hothers⟩ :=
      FileSystem.target?_of_entry?_join hfiles hnormal hisName hsame
    have hat := FileSystem.at?_of_lookup (.inl hpath)
      (FileSystem.target?_eq_some_iff.mp htarget).2 (.inl hpath)
    have hat' := FileSystem.at?_of_lookup (.inl hnormal)
      (FileSystem.target?_eq_some_iff.mp hothers).2 (.inl hnormal)
    rw [hothers, Option.some.inj (hat.symm.trans hat')]
  · intro hsame
    refine FileSystem.entry?_join hfiles hnormal hisName hsame ?_ hnode
    exact hjoined ▸ hfits.normalize (Path.isAbsolute_join hpath)

/-- Where the normal form leads to the directory, the kind is wrong only where the links of one of
the two paths are too many. -/
theorem isDirectory_entryAt_iff
    (hsame : files.target? host (Path.normalize path) = files.target? host path) :
    (files.entryAt host path name).isDirectory = files.isDirectory host (Path.join path name) ↔
      ¬ files.PartedByLinks host (files.entryAt host path name).path (Path.join path name) := by
  have hisName := (exists_at?_of_listed hfiles hpath htarget hname).1
  have hnormal := Path.isAbsolute_normalize hpath
  have hjoined := Path.normalize_join hpath hisName
  have hfits' := hjoined ▸ hfits.normalize (Path.isAbsolute_join hpath)
  have harrives := ((FileSystem.target?_directory_iff hfiles hpath).mp ⟨entries, htarget⟩).2
  have harrives' :=
    ((FileSystem.target?_directory_iff hfiles hnormal).mp ⟨entries, hsame.trans htarget⟩).2
  have hfound := FileSystem.lookup_join_congr hfiles hnormal hisName hpath harrives' harrives hfits'
    hfits .always
  rw [FileSystem.entryAt, FileSystem.PartedByLinks, hjoined]
  rcases hfound with hloop | hloop | hfound
  · have hleft := FileSystem.isDirectory_of_lookup_error hloop
    simp [hleft, hloop]
  · have hright := FileSystem.isDirectory_of_lookup_error hloop
    simp [hright, hloop]
  · have hkind := FileSystem.isDirectory_congr hfits'.hasNull hfits.hasNull hfound
    rw [hkind, hfound]
    refine iff_of_true rfl ?_
    rintro (⟨hdirectory, hloop⟩ | ⟨hloop, hdirectory⟩)
    · rw [FileSystem.isDirectory_of_lookup_error hloop] at hdirectory
      cases hdirectory
    · rw [FileSystem.isDirectory_of_lookup_error hloop] at hdirectory
      cases hdirectory

theorem describes_entryAt_iff :
    files.Describes host path (files.entryAt host path name) ↔
      files.target? host (Path.normalize path) = files.target? host path ∧
        ¬ files.PartedByLinks host (files.entryAt host path name).path (Path.join path name) := by
  constructor
  · rintro ⟨hentry, hkind⟩
    have hsame := (entry?_entryAt_iff hfiles hpath htarget hname hfits).mp hentry
    exact ⟨hsame, (isDirectory_entryAt_iff hfiles hpath htarget hname hfits hsame).mp hkind⟩
  · rintro ⟨hsame, hwithin⟩
    exact ⟨(entry?_entryAt_iff hfiles hpath htarget hname hfits).mpr hsame,
      (isDirectory_entryAt_iff hfiles hpath htarget hname hfits hsame).mpr hwithin⟩

/-- Where going up leads back, what is a directory is described as one. -/
theorem isDirectory_entryAt_of_goesBack (hback : files.GoesBack (Text.splitOn '/' path))
    (hdirectory : files.isDirectory host (Path.join path name) = true) :
    (files.entryAt host path name).isDirectory = true := by
  have hisName := (exists_at?_of_listed hfiles hpath htarget hname).1
  have harrives := ((FileSystem.target?_directory_iff hfiles hpath).mp ⟨entries, htarget⟩).2
  have hjoined := Path.normalize_join hpath hisName
  have hnull := (hfits.normalize (Path.isAbsolute_join hpath)).hasNull
  rcases FileSystem.lookup_join_normalize hfiles hpath hisName hback harrives hfits .always
    with hloop | hsame
  · rw [FileSystem.isDirectory_of_lookup_error hloop] at hdirectory
    cases hdirectory
  · rw [FileSystem.entryAt, FileSystem.isDirectory_congr hnull hfits.hasNull (hjoined ▸ hsame)]
    exact hdirectory

end Described

/-- A directory is listed with each of its names once, and every entry is described at the normal
form of its path.  The descriptions are those of the entries if and only if there are none or the
normal form of the directory's path leads to the directory as well, and no entry is a link that only
one of the two paths can follow to its end.  Where going up leads back this normal form leads to the
directory, and what is a directory is described as one. -/
theorem listEntries_describes_iff (hfiles : files.Valid host) (hdistinct : files.Distinct)
    (hpath : Path.isAbsolute path = true)
    (hfits : ∀ place entries, files.target? host path = some (place, .directory entries) →
      ∀ name ∈ Entries.names entries, Path.Fits host (Path.join path name))
    (h : listEntries host path files = .ok described after) :
    after = files ∧ ∃ place entries,
      files.target? host path = some (place, .directory entries) ∧
      (described.map (·.name)).Nodup ∧ (described.map (·.name)).Perm (Entries.names entries) ∧
      (∀ entry ∈ described, entry = files.entryAt host path entry.name) ∧
      ((∀ entry ∈ described, files.Describes host path entry) ↔
        described = [] ∨
          files.target? host (Path.normalize path) = files.target? host path ∧
            ∀ entry ∈ described,
              ¬ files.PartedByLinks host entry.path (Path.join path entry.name)) ∧
      (files.GoesBack (Text.splitOn '/' path) →
        files.target? host (Path.normalize path) = files.target? host path ∧
          ∀ entry ∈ described, files.isDirectory host (Path.join path entry.name) = true →
            entry.isDirectory = true) := by
  obtain ⟨place, entries, htarget⟩ :=
    FileSystem.isDirectory_iff.mp (isDirectory_of_listEntries h)
  have hfits := hfits place entries htarget
  rw [listEntries_eq hfiles hpath htarget hfits] at h
  obtain ⟨rfl, rfl⟩ : _ = described ∧ files = after := by simpa using h
  have hat := FileSystem.at?_of_lookup (.inl hpath)
    (FileSystem.target?_eq_some_iff.mp htarget).2 (.inl hpath)
  have hperm := host.arrange_perm files place (Entries.names entries)
  have hlisted : ∀ {name}, name ∈ host.arrange files place (Entries.names entries) →
      name ∈ Entries.names entries := fun hname => hperm.mem_iff.mp hname
  have hnames : ((host.arrange files place (Entries.names entries)).map
      (files.entryAt host path)).map (·.name) =
        host.arrange files place (Entries.names entries) := by
    rw [List.map_map]
    exact List.map_id _
  refine ⟨rfl, place, entries, htarget, ?_, ?_, ?_, ?_, ?_⟩
  · rw [hnames, hperm.nodup_iff]
    exact hdistinct place entries hat
  · rw [hnames]
    exact hperm
  · rintro entry hentry
    obtain ⟨name, -, rfl⟩ := List.mem_map.mp hentry
    rfl
  · have hdescribes : ∀ entry ∈ (host.arrange files place (Entries.names entries)).map
        (files.entryAt host path), files.Describes host path entry ↔
          files.target? host (Path.normalize path) = files.target? host path ∧
            ¬ files.PartedByLinks host entry.path (Path.join path entry.name) := by
      rintro entry hentry
      obtain ⟨name, hname, rfl⟩ := List.mem_map.mp hentry
      exact describes_entryAt_iff hfiles hpath htarget (hlisted hname) (hfits name (hlisted hname))
    rw [forall₂_congr hdescribes]
    by_cases hnone : (host.arrange files place (Entries.names entries)).map
        (files.entryAt host path) = []
    · simp [hnone]
    · obtain ⟨first, hfirst⟩ := List.exists_mem_of_ne_nil _ hnone
      rw [or_iff_right hnone]
      exact ⟨fun h => ⟨(h first hfirst).1, fun entry hentry => (h entry hentry).2⟩,
        fun h entry hentry => ⟨h.1, h.2 entry hentry⟩⟩
  · intro hback
    have hsame := FileSystem.target?_normalize hfiles hpath hback htarget
    refine ⟨hsame.trans htarget.symm, fun entry hentry hdirectory => ?_⟩
    obtain ⟨name, hname, rfl⟩ := List.mem_map.mp hentry
    exact isDirectory_entryAt_of_goesBack hfiles hpath htarget (hlisted hname)
      (hfits name (hlisted hname)) hback hdirectory

section Example

/-! A directory with a link to one elsewhere, which holds a directory and a file. -/

/-- A directory with a link, the directory that the link leads to, and a file. -/
def linkingFiles : FileSystem where
  top := [("a", .directory [("link", .link "/b/c")]),
    ("b", .directory [("c", .directory []), ("f", .file [1])])]

theorem linkingFiles_wellFormed : linkingFiles.root.WellFormed {} := by
  have hlink : (Node.directory [("link", .link "/b/c")]).WellFormed {} :=
    Node.wellFormed_directory (by decide) (by decide) fun entry hentry => by
      obtain rfl := List.mem_singleton.mp hentry
      exact Node.wellFormed_link (by decide)
  have hinner : (Node.directory [("c", .directory []), ("f", .file [1])]).WellFormed {} := by
    refine Node.wellFormed_directory (by decide) (by decide) fun entry hentry => ?_
    rcases List.mem_pair.mp hentry with rfl | rfl
    · exact Node.wellFormed_directory (by decide) (by decide) nofun
    · exact Node.wellFormed_file _
  refine Node.wellFormed_directory (by decide) (by decide) fun entry hentry => ?_
  rcases List.mem_pair.mp hentry with rfl | rfl
  · exact hlink
  · exact hinner

theorem linkingFiles_valid : linkingFiles.Valid {} :=
  FileSystem.valid_of_wellFormed linkingFiles_wellFormed

/-- What is in the directory with the link is described as it is, however the directory is spelled.
-/
theorem listEntries_describes_linkingFiles :
    linkingFiles.Valid {} ∧ linkingFiles.Distinct ∧ Path.isAbsolute "/b/../a//" = true ∧
      listEntries {} "/b/../a//" linkingFiles = .ok [⟨"/a/link", "link", true⟩] linkingFiles ∧
      linkingFiles.Describes {} "/b/../a//" ⟨"/a/link", "link", true⟩ := by
  have htarget : linkingFiles.target? {} "/b/../a//" =
      some ([("a" : Text)], .directory [("link", .link "/b/c")]) := by
    cbv
  have hfits : ∀ place entries,
      linkingFiles.target? {} "/b/../a//" = some (place, .directory entries) →
      ∀ name ∈ Entries.names entries, Path.Fits {} (Path.join "/b/../a//" name) := by
    intro place entries hfound name hname
    have hsame := Option.some.inj (htarget.symm.trans hfound)
    obtain rfl := Node.directory.inj (Prod.mk.inj hsame).2
    obtain rfl := List.mem_singleton.mp hname
    exact ⟨by decide, by decide⟩
  have hnormal : Path.normalize (Path.join "/b/../a//" "link") = ("/a/link" : Text) := by decide
  have hlinked : linkingFiles.isDirectory {} "/a/link" = true := by cbv
  have hentry : linkingFiles.entryAt {} "/b/../a//" "link" = ⟨"/a/link", "link", true⟩ := by
    rw [FileSystem.entryAt, hnormal, hlinked]
  have hlisted : listEntries {} "/b/../a//" linkingFiles =
      .ok [⟨"/a/link", "link", true⟩] linkingFiles :=
    hentry ▸ listEntries_eq linkingFiles_valid (by decide) htarget (hfits _ _ htarget)
  obtain ⟨-, place, entries, -, -, -, -, hdescribes, -⟩ := listEntries_describes_iff
    linkingFiles_valid linkingFiles_wellFormed.distinct (by decide) hfits hlisted
  refine ⟨linkingFiles_valid, linkingFiles_wellFormed.distinct, by decide, hlisted, ?_⟩
  refine hdescribes.mpr (.inr ⟨?_, fun entry hmem hparted => ?_⟩) _ (List.mem_singleton.mpr rfl)
  · have hdirectory : Path.normalize "/b/../a//" = ("/a" : Text) := by decide
    have hfound : linkingFiles.target? {} "/a" =
        some ([("a" : Text)], .directory [("link", .link "/b/c")]) := by
      cbv
    rw [hdirectory, hfound, htarget]
  · obtain rfl := List.mem_singleton.mp hmem
    have hjoined : linkingFiles.isDirectory {} (Path.join "/b/../a//" "link") = true := by cbv
    rcases hparted with ⟨-, hloop⟩ | ⟨hloop, -⟩
    · rw [FileSystem.isDirectory_of_lookup_error hloop] at hjoined
      cases hjoined
    · have hnone := FileSystem.isDirectory_of_lookup_error hloop
      cases hlinked.symm.trans hnone

/-- Where the path goes up from where the link leads to, a directory is described as none, and
nothing is at the path in its description. -/
theorem not_listEntries_describes_linkingFiles :
    linkingFiles.Valid {} ∧ linkingFiles.Distinct ∧
      listEntries {} "/a/link/.." linkingFiles =
        .ok [⟨"/a/c", "c", false⟩, ⟨"/a/f", "f", false⟩] linkingFiles ∧
      linkingFiles.isDirectory {} (Path.join "/a/link/.." "c") = true ∧
      linkingFiles.entry? {} (Path.join "/a/link/.." "c") =
        some ([("b" : Text), "c"], .directory []) ∧
      linkingFiles.entry? {} "/a/c" = none := by
  have htarget : linkingFiles.target? {} "/a/link/.." =
      some ([("b" : Text)], .directory [("c", .directory []), ("f", .file [1])]) := by
    cbv
  have hnormal : Path.normalize (Path.join "/a/link/.." "c") = ("/a/c" : Text) := by decide
  have hnormal' : Path.normalize (Path.join "/a/link/.." "f") = ("/a/f" : Text) := by decide
  have hmissing : linkingFiles.isDirectory {} "/a/c" = false := by cbv
  have hmissing' : linkingFiles.isDirectory {} "/a/f" = false := by cbv
  have hfits : ∀ name ∈ [("c" : Text), "f"], Path.Fits {} (Path.join "/a/link/.." name) := by
    intro name hname
    rcases List.mem_pair.mp hname with rfl | rfl
    · exact ⟨by decide, by decide⟩
    · exact ⟨by decide, by decide⟩
  refine ⟨linkingFiles_valid, linkingFiles_wellFormed.distinct, ?_, by cbv, by cbv, by cbv⟩
  rw [listEntries_eq linkingFiles_valid (by decide) htarget hfits]
  simp only [Entries.names, List.map_cons, List.map_nil, FileSystem.entryAt, hnormal, hnormal',
    hmissing, hmissing']

end Example

end Disk

end LineShell
