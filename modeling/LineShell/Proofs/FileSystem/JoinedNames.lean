import LineShell.Proofs.FileSystem.GoingBack
import LineShell.Proofs.FileSystem.Found
import LineShell.Proofs.FileSystem.Rules
import LineShell.Proofs.Path.NormalJoins

/-!
# Names joined to the paths of directories

Two paths that lead to one directory can be joined with a name of it, and both then denote its entry.
Following the entry if it is a link they come to the same, unless one of them is stopped because it
has led through too many links before.
-/

namespace LineShell

variable {host : Host} {files : FileSystem}

/-- A walk through fewer links comes to the same, unless it is stopped for their number. -/
theorem Walk.walk_of_fewer {fewer more : Nat} (hfewer : fewer ≤ more) (rule : LinkRule)
    (place : Place) (components : List Text) :
    walk host files rule fewer place components = .error .linkLoop ∨
      walk host files rule more place components =
        walk host files rule fewer place components := by
  have hcompares : Compares files rule rule fun outcome other =>
      outcome = .error .linkLoop ∨ other = outcome := by
    refine ⟨fun _ => .inr rfl, fun slashed _ hrelated => ?_⟩
    split
    · exact hrelated
    · exact .inr rfl
  induction fewer generalizing more place components with
  | zero =>
      obtain ⟨follow, hfollow⟩ := exists_follow host files rule more
      rw [hfollow]
      exact hcompares.steps (fun _ _ => .inl rfl) place components
  | succ fewer ih =>
      obtain ⟨others, rfl⟩ : ∃ others, more = others + 1 := ⟨more - 1, by omega⟩
      exact hcompares.steps (ih (Nat.le_of_succ_le_succ hfewer)) place components

theorem Walk.bind_of_fewer {A : Type} {fewer more : Nat} (hfewer : fewer ≤ more) (rule : LinkRule)
    (place : Place) (components : List Text) (next : Spot → Except Cause A) :
    (walk host files rule fewer place components >>= next) = .error .linkLoop ∨
      (walk host files rule more place components >>= next) =
        (walk host files rule fewer place components >>= next) := by
  rcases walk_of_fewer hfewer rule place components with hloop | hsame
  · exact .inl (by rw [hloop]; rfl)
  · exact .inr (by rw [hsame])

/-- A walk along a way goes on at its end, with the links that the way has left. -/
theorem Arrives.exists_walk_eq (hfiles : files.Valid host) {links : Nat} {start place : Place}
    {front : List Text} {name : Name} (hname : Path.Naming name)
    (h : Arrives files links start front place) :
    ∃ used ≤ links, Arrives files used start front place ∧ ∀ rule more,
      Walk.walk host files rule (used + more) start (front ++ [name]) =
        Walk.walk host files rule more place [name] := by
  induction h with
  | done hplace =>
      exact ⟨0, Nat.zero_le _, .done hplace, fun rule more => by rw [Nat.zero_add]; rfl⟩
  | skip hcomponent _ ih =>
      obtain ⟨used, hused, harrives, hwalk⟩ := ih
      refine ⟨used, hused, .skip hcomponent harrives, fun rule more => ?_⟩
      obtain ⟨follow, hfollow⟩ := Walk.exists_follow host files rule (used + more)
      rw [hfollow, List.cons_append, Walk.steps_of_skipped hcomponent, ← hfollow]
      exact hwalk rule more
  | up _ ih =>
      obtain ⟨used, hused, harrives, hwalk⟩ := ih
      refine ⟨used, hused, .up harrives, fun rule more => ?_⟩
      obtain ⟨follow, hfollow⟩ := Walk.exists_follow host files rule (used + more)
      rw [hfollow, List.cons_append, Walk.steps_up, ← hfollow]
      exact hwalk rule more
  | enter hinner hkind _ ih =>
      obtain ⟨used, hused, harrives, hwalk⟩ := ih
      refine ⟨used, hused, .enter hinner hkind harrives, fun rule more => ?_⟩
      obtain ⟨follow, hfollow⟩ := Walk.exists_follow host files rule (used + more)
      rw [hfollow, List.cons_append, Walk.steps_enter hinner (hname.not_all_empty _ [])
        (hfiles.size hkind) hkind, ← hfollow]
      exact hwalk rule more
  | follow hinner hkind _ ih =>
      obtain ⟨used, hused, harrives, hwalk⟩ := ih
      refine ⟨used + 1, Nat.succ_le_succ hused, .follow hinner hkind harrives, fun rule more => ?_⟩
      have hnext := hwalk rule more
      rw [List.append_assoc] at hnext
      rw [Nat.add_right_comm, Walk.walk, List.cons_append, Walk.steps_follow hinner hkind
        (fun hempty => absurd hempty (by simp [hname.not_all_empty])) fun _ => hfiles.size hkind]
      exact hnext

namespace FileSystem

variable {path other : Text} {place : Place} {name : Name} {links : Nat}

theorem isDirectory_of_lookup_error {cause : Cause}
    (h : files.lookup host .always path = .error cause) : files.isDirectory host path = false := by
  rw [isDirectory, target?, h]
  split <;> simp_all [Except.toOption]

theorem isDirectory_congr (hpath : path.hasNull = false) (hother : other.hasNull = false)
    (h : files.lookup host .always path = files.lookup host .always other) :
    files.isDirectory host path = files.isDirectory host other := by
  rw [isDirectory, isDirectory, target?, target?, hpath, hother, h]

/-- What precedes a name that is joined to a path arrives where the path does. -/
theorem exists_splitOn_join (files : FileSystem) (path : Text) (hname : Path.IsName name) :
    ∃ front, Text.splitOn '/' (Path.join path name) = front ++ [name] ∧ ∀ links place,
      Arrives files links [] front place ↔ Arrives files links [] (Text.splitOn '/' path) place := by
  obtain ⟨front, hfront, hsplit⟩ := Path.splitOn_join path hname.not_slash
  refine ⟨front, hsplit, fun links place => ?_⟩
  rcases hfront with hfront | hfront
  · rw [hfront]
  · rw [hfront]
    refine ⟨fun h => ?_, fun h => h.of_append_empty rfl rfl⟩
    have hempty : Arrives files 0 place [[]] place := .of_all_empty h.kind?_last rfl
    exact h.append hempty

section Joined

variable (hfiles : files.Valid host) (hpath : Path.isAbsolute path = true) (hname : Path.IsName name)
include hfiles hpath hname

/-- A name joined to the path of a directory leads to the entry in the directory. -/
theorem aims_join (h : Arrives files host.linkLimit [] (Text.splitOn '/' path) place)
    (hfits : Path.Fits host (Path.join path name)) :
    Disk.Aims host files .never (Path.join path name) place name false := by
  obtain ⟨front, hsplit, harrives⟩ := exists_splitOn_join files path hname
  have hway : files.Way host (Path.join path name) front place := by
    rw [Way, Path.isAbsolute_join hpath, if_pos rfl]
    exact (harrives _ _).mpr h
  exact Disk.aims_of_ahead ⟨hsplit, hname.naming, rfl, hway⟩ hfiles hfits fun _ _ => rfl

theorem entry?_join {entries : Entries} {node : Node}
    (h : files.target? host path = some (place, .directory entries))
    (hfits : Path.Fits host (Path.join path name)) (hnode : files.at? (place ++ [name]) = some node) :
    files.entry? host (Path.join path name) = some (place ++ [name], node) := by
  have harrives := ((target?_directory_iff hfiles hpath).mp ⟨entries, h⟩).2
  exact (aims_join hfiles hpath hname harrives hfits).entry?_eq hfiles hnode nofun

/-- A path whose join with a name denotes an entry leads to the directory of the entry. -/
theorem target?_of_entry?_join {node : Node}
    (h : files.entry? host (Path.join path name) = some (place ++ [name], node)) :
    ∃ entries, files.target? host path = some (place, .directory entries) := by
  obtain ⟨hnull, hlookup⟩ := entry?_eq_some_iff.mp h
  obtain ⟨spot, hlocate, hspot⟩ := exists_spot_of_lookup hlookup
  obtain ⟨front, hsplit, harrives⟩ := exists_splitOn_join files path hname
  obtain ⟨there, rfl, hahead⟩ := Disk.exists_ahead_of_locate hfiles hsplit hname.naming rfl rfl hlocate
  obtain ⟨hthere, -, -⟩ := at?_of_atSpot_entry hspot
  obtain rfl : place = there := (List.append_inj' hthere rfl).1
  have hway := hahead.way
  rw [Way, Path.isAbsolute_join hpath, if_pos rfl] at hway
  have hfits := Path.Fits.of_locate hnull hlocate
  refine (target?_directory_iff hfiles hpath).mpr ⟨?_, (harrives _ _).mp hway⟩
  obtain ⟨tail, hjoin, -⟩ := Path.exists_join_eq hpath (Path.isAbsolute_of_not_slash hname.not_slash)
  exact hfits.of_beginning (hjoin ▸ List.prefix_append path tail)

/-- The links of a path that leads to a directory are taken off from those that may be followed from
there. -/
theorem exists_lookup_join (hlinks : links ≤ host.linkLimit)
    (h : Arrives files links [] (Text.splitOn '/' path) place)
    (hfits : Path.Fits host (Path.join path name)) :
    ∃ used ≤ links, Arrives files used [] (Text.splitOn '/' path) place ∧ ∀ rule,
      files.lookup host rule (Path.join path name) =
        Walk.walk host files rule (host.linkLimit - used) place [name] >>= files.atSpot host := by
  obtain ⟨front, hsplit, harrives⟩ := exists_splitOn_join files path hname
  obtain ⟨used, hused, hfront, hwalk⟩ :=
    ((harrives _ _).mpr h).exists_walk_eq hfiles hname.naming
  refine ⟨used, hused, (harrives _ _).mp hfront, fun rule => ?_⟩
  have hlimit : used + (host.linkLimit - used) = host.linkLimit := by omega
  have hwhole := hwalk rule (host.linkLimit - used)
  rw [hlimit, ← hsplit] at hwhole
  rw [lookup, locate, if_neg (by simpa using Path.join_ne_nil path hname),
    if_neg (Nat.not_lt.mpr hfits.size), if_pos (Path.isAbsolute_join hpath), hwhole]

/-- Two paths of one directory find the same at a name of it, unless one of them is stopped for the
number of its links. -/
theorem lookup_join_congr (hother : Path.isAbsolute other = true)
    (h : Arrives files host.linkLimit [] (Text.splitOn '/' path) place)
    (h' : Arrives files host.linkLimit [] (Text.splitOn '/' other) place)
    (hfits : Path.Fits host (Path.join path name)) (hfits' : Path.Fits host (Path.join other name))
    (rule : LinkRule) :
    files.lookup host rule (Path.join path name) = .error .linkLoop ∨
      files.lookup host rule (Path.join other name) = .error .linkLoop ∨
      files.lookup host rule (Path.join path name) =
        files.lookup host rule (Path.join other name) := by
  obtain ⟨used, -, -, hlookup⟩ := exists_lookup_join hfiles hpath hname le_rfl h hfits
  obtain ⟨used', -, -, hlookup'⟩ := exists_lookup_join hfiles hother hname le_rfl h' hfits'
  rw [hlookup, hlookup']
  rcases Nat.le_total used used' with hle | hle
  · rcases Walk.bind_of_fewer (Nat.sub_le_sub_left hle host.linkLimit) rule place [name]
      (files.atSpot host) with hloop | hsame
    · exact .inr (.inl hloop)
    · exact .inr (.inr hsame)
  · rcases Walk.bind_of_fewer (Nat.sub_le_sub_left hle host.linkLimit) rule place [name]
      (files.atSpot host) with hloop | hsame
    · exact .inl hloop
    · exact .inr (.inr hsame.symm)

/-- Where going up leads back, the normal form of a path finds what the path finds. -/
theorem lookup_join_normalize (hback : files.GoesBack (Text.splitOn '/' path))
    (h : Arrives files host.linkLimit [] (Text.splitOn '/' path) place)
    (hfits : Path.Fits host (Path.join path name)) (rule : LinkRule) :
    files.lookup host rule (Path.join path name) = .error .linkLoop ∨
      files.lookup host rule (Path.join (Path.normalize path) name) =
        files.lookup host rule (Path.join path name) := by
  have hnormal := Path.isAbsolute_normalize hpath
  have hjoined : Path.Fits host (Path.join (Path.normalize path) name) := by
    rw [← Path.normalize_join hpath hname]
    exact hfits.normalize (Path.isAbsolute_join hpath)
  obtain ⟨used, hused, harrives, hlookup⟩ :=
    exists_lookup_join hfiles hpath hname le_rfl h hfits
  obtain ⟨fewer, hfewer, -, hlookup'⟩ := exists_lookup_join hfiles hnormal hname hused
    (hback.arrives_normalize hpath harrives) hjoined
  rw [hlookup, hlookup']
  exact Walk.bind_of_fewer (Nat.sub_le_sub_left hfewer host.linkLimit) rule place [name]
    (files.atSpot host)

end Joined

end FileSystem

end LineShell
