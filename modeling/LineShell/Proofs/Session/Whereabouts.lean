import LineShell.Proofs.FileSystem.GoingBack
import LineShell.Proofs.Session.Console

/-!
# Where `cd` ends up

`cd` tests the path that it was given, where links are followed, and keeps its normal form, where
`..` takes away the name before it.  The two are one directory unless going up from where a link led
to comes to somewhere else.
-/

namespace LineShell

namespace Navigation

variable {setup : Setup} {path : Text} {world : World}

/-- The path leads to no directory, and it is none of the two that are not looked up. -/
def Rejects (setup : Setup) (path : Text) (world : World) : Prop :=
  path ≠ Path.self ∧ path ≠ Path.up ∧
    world.files.isDirectory setup.host (world.session.resolve path) = false

/-- The path is looked up, and it leads to a directory. -/
def Accepts (setup : Setup) (path : Text) (world : World) : Prop :=
  path ≠ Path.self ∧ path ≠ Path.up ∧
    world.files.isDirectory setup.host (world.session.resolve path) = true

/-- Going up in what is looked up leads back. -/
def GoesBack (path : Text) (world : World) : Prop :=
  world.files.GoesBack (Text.splitOn '/' (world.session.resolve path))

theorem goTo_of_rejects (h : Rejects setup path world) :
    goTo setup path world =
      .ok () { world with
        output := world.output ++ ["Directory not found: " ++ path ++ "\n"] } := by
  obtain ⟨hself, hup, hmissing⟩ := h
  rw [goTo_elsewhere setup hself hup]
  simp only [hmissing, Bool.false_eq_true, if_false]
  rfl

theorem goTo_of_accepts (habsolute : Path.isAbsolute world.session.directory = true)
    (h : Accepts setup path world) :
    goTo setup path world =
      .ok () { world with
        session := { world.session with
          directory := Path.normalize (world.session.resolve path) } } := by
  obtain ⟨hself, hup, hthere⟩ := h
  have hresolved : Path.isAbsolute (world.session.resolve path) = true :=
    Path.isAbsolute_join habsolute
  rw [goTo_elsewhere setup hself hup]
  simp only [hthere, if_true, FileSystem.absolute?_of_isAbsolute _ hresolved]

theorem goTo_up (setup : Setup) (world : World) :
    goTo setup Path.up world =
      .ok () { world with
        session := { world.session with directory := Path.directory world.session.directory } } :=
  rfl

theorem goTo_self (setup : Setup) (world : World) : goTo setup Path.self world = .ok () world :=
  rfl

/-- `cd` with one argument in a session whose directory is there.  A path that leads to no directory
is complained of once and changes nothing else; any other one is taken without a word.  What is kept
of a path that was looked up is its normal form.  The new directory is there as well, and it is the
one that was looked up, if going up in the path leads back. -/
theorem changeDirectory_arrives (hfiles : world.files.Valid setup.host)
    (hnormal : Path.Normal world.session.directory)
    (hthere : world.files.isDirectory setup.host world.session.directory = true) :
    Completes (changeDirectory setup [path]) world fun reply after =>
      reply = .say [] ∧ after.files = world.files ∧ after.reader = world.reader ∧
      (Rejects setup path world → after.session = world.session ∧
        after.output = world.output ++ ["Directory not found: " ++ path ++ "\n"]) ∧
      (¬ Rejects setup path world → after.output = world.output) ∧
      (Accepts setup path world → after.session = { world.session with
        directory := Path.normalize (world.session.resolve path) }) ∧
      (path = Path.self ∨ path = Path.up ∨ Rejects setup path world ∨ GoesBack path world →
        after.files.isDirectory setup.host after.session.directory = true) ∧
      (Accepts setup path world → GoesBack path world → ∃ place entries,
        world.files.target? setup.host (world.session.resolve path) =
            some (place, .directory entries) ∧
          after.files.target? setup.host after.session.directory =
            some (place, .directory entries)) := by
  unfold changeDirectory
  rw [Completes, ends_bind]
  by_cases hself : path = Path.self
  · subst hself
    rw [Ends.iff_of_ok (goTo_self setup world)]
    exact ⟨rfl, rfl, rfl, fun h => absurd rfl h.1, fun _ => rfl, fun h => absurd rfl h.1,
      fun _ => hthere, fun h => absurd rfl h.1⟩
  by_cases hup : path = Path.up
  · subst hup
    rw [Ends.iff_of_ok (goTo_up setup world)]
    exact ⟨rfl, rfl, rfl, fun h => absurd rfl h.2.1, fun _ => rfl, fun h => absurd rfl h.2.1,
      fun _ => FileSystem.isDirectory_directory hfiles hnormal hthere, fun h => absurd rfl h.2.1⟩
  cases hlooked : world.files.isDirectory setup.host (world.session.resolve path) with
  | false =>
      have hrejects : Rejects setup path world := ⟨hself, hup, hlooked⟩
      rw [Ends.iff_of_ok (goTo_of_rejects hrejects)]
      have haccepts : ¬ Accepts setup path world := fun h => by
        rw [h.2.2] at hlooked
        cases hlooked
      exact ⟨rfl, rfl, rfl, fun _ => ⟨rfl, rfl⟩, fun h => absurd hrejects h,
        fun h => absurd h haccepts, fun _ => hthere, fun h => absurd h haccepts⟩
  | true =>
      have haccepts : Accepts setup path world := ⟨hself, hup, hlooked⟩
      have hrejects : ¬ Rejects setup path world := fun h => by
        rw [h.2.2] at hlooked
        cases hlooked
      have hresolved : Path.isAbsolute (world.session.resolve path) = true :=
        Path.isAbsolute_join hnormal.isAbsolute
      obtain ⟨place, entries, hfound⟩ := FileSystem.isDirectory_iff.mp hlooked
      have hsame : GoesBack path world → world.files.target? setup.host
          (Path.normalize (world.session.resolve path)) = some (place, .directory entries) :=
        fun hback => FileSystem.target?_normalize hfiles hresolved hback hfound
      rw [Ends.iff_of_ok (goTo_of_accepts hnormal.isAbsolute haccepts)]
      refine ⟨rfl, rfl, rfl, fun h => absurd h hrejects, fun _ => rfl, fun _ => rfl, fun h => ?_,
        fun _ hback => ⟨place, entries, hfound, hsame hback⟩⟩
      rcases h with h | h | h | hback
      · exact absurd h hself
      · exact absurd h hup
      · exact absurd h hrejects
      · exact FileSystem.isDirectory_iff.mpr ⟨place, entries, hsame hback⟩

section Example

/-- Two directories in a directory, and elsewhere a link to the first of them. -/
def linkedFiles : FileSystem :=
  { top := [("a", .directory [("link", .link "/b/c")]),
      ("b", .directory [("c", .directory []), ("x", .directory [])])] }

/-- A session at the root of these files. -/
def linkedWorld : World where
  files := linkedFiles
  session := { directory := "/" }
  output := []
  reader := .scripted []

theorem linkedFiles_valid : linkedFiles.Valid {} := by
  have hname : ∀ name ∈ (["a", "b", "c", "x", "link"] : List Text),
      Path.IsName name ∧ name.utf8Size ≤ 255 := by
    simp only [List.mem_cons, List.not_mem_nil, or_false]
    rintro name (rfl | rfl | rfl | rfl | rfl) <;>
      exact ⟨⟨⟨by decide, by decide, by decide⟩, by decide⟩, by decide⟩
  have hput : ∀ {files : FileSystem} {place : Place} {name : Name} {node : Node},
      files.Valid {} → name ∈ (["a", "b", "c", "x", "link"] : List Text) →
      files.kind? place = some .directory → files.kind? (place ++ [name]) ≠ some .directory →
      (∀ other, node.child? other = none) → (files.put place name node).Valid {} :=
    fun hfiles hmem hplace hkind hleaf =>
      hfiles.put_leaf hplace (hname _ hmem).1 (hname _ hmem).2 hkind hleaf
  let outer := (FileSystem.empty.put [] "a" (.directory [])).put [] "b" (.directory [])
  have houter : outer.Valid {} :=
    hput (hput (FileSystem.valid_empty {}) (by decide) rfl (by decide) fun _ => rfl) (by decide)
      rfl (by decide) fun _ => rfl
  let linked := outer.put ["a"] "link" (.link "/b/c")
  have hlinked : linked.Valid {} := hput houter (by decide) rfl (by decide) fun _ => rfl
  have hfirst : (linked.put ["b"] "c" (.directory [])).Valid {} :=
    hput hlinked (by decide) rfl (by decide) fun _ => rfl
  have hsecond : ((linked.put ["b"] "c" (.directory [])).put ["b"] "x" (.directory [])).Valid {} :=
    hput hfirst (by decide) rfl (by decide) fun _ => rfl
  exact hsecond

/-- Going up from a directory before the link is followed, the directory is reached. -/
theorem changeDirectory_arrives_linked :
    linkedFiles.Valid {} ∧ Path.Normal linkedWorld.session.directory ∧
      linkedFiles.isDirectory {} linkedWorld.session.directory = true ∧
      GoesBack "b/../a/link" linkedWorld ∧
      changeDirectory { host := {} } ["b/../a/link"] linkedWorld =
        .ok (.say []) { linkedWorld with session := { directory := "/a/link" } } ∧
      linkedFiles.target? {} "/b/../a/link" = some ([("b" : Text), "c"], .directory []) ∧
      linkedFiles.target? {} "/a/link" = some ([("b" : Text), "c"], .directory []) := by
  have hnormal : Path.Normal linkedWorld.session.directory := ⟨by decide, by decide⟩
  have hthere : linkedFiles.isDirectory {} linkedWorld.session.directory = true := by cbv
  have hback : GoesBack "b/../a/link" linkedWorld := by
    have hpieces : Text.splitOn '/' (linkedWorld.session.resolve "b/../a/link") =
        ([[], "b"] : List Text) ++ Path.up :: ["a", "link"] := by
      cbv
    apply FileSystem.goesBack_of_unlinked
    intro front rest names name holder hsplit hnames hholder target
    rw [hpieces] at hsplit
    obtain ⟨rfl, -, -⟩ :=
      (List.append_cons_inj_of_notMem (by decide) (by decide)).mp hsplit
    obtain ⟨rfl, rfl⟩ : names = [] ∧ name = "b" := by
      have hreduced : Path.reduced [[], "b"] = ([] : List Text) ++ [("b" : Text)] := by decide
      obtain ⟨hinit, hlast⟩ := List.append_inj' (hnames.symm.trans hreduced) rfl
      exact ⟨hinit, List.singleton_inj.mp hlast⟩
    have hkind : linkedFiles.kind? [("b" : Text)] = some .directory := rfl
    obtain rfl := hholder.eq_of_nil
    intro hlink
    cases hkind.symm.trans hlink
  have hrun : changeDirectory { host := {} } ["b/../a/link"] linkedWorld =
      .ok (.say []) { linkedWorld with session := { directory := "/a/link" } } := by
    cbv
  have harrives : Completes (changeDirectory { host := {} } ["b/../a/link"]) linkedWorld _ :=
    changeDirectory_arrives linkedFiles_valid hnormal hthere
  obtain ⟨-, -, -, -, -, -, -, hsame⟩ := harrives.of_ok hrun
  obtain ⟨place, entries, hlooked, hkept⟩ := hsame ⟨by decide, by decide, by cbv⟩ hback
  have hfound : linkedFiles.target? {} "/b/../a/link" =
      some ([("b" : Text), "c"], .directory []) := by
    cbv
  refine ⟨linkedFiles_valid, hnormal, hthere, hback, hrun, hfound, ?_⟩
  exact hkept.trans (hlooked.symm.trans hfound)

/-- Going up from where the link leads to, the directory that is found is not the one that is kept,
and that one is not there. -/
theorem not_changeDirectory_arrives_linked :
    linkedFiles.Valid {} ∧ Path.Normal linkedWorld.session.directory ∧
      linkedFiles.isDirectory {} linkedWorld.session.directory = true ∧
      Accepts { host := {} } "a/link/../x" linkedWorld ∧
      linkedFiles.target? {} (linkedWorld.session.resolve "a/link/../x") =
        some ([("b" : Text), "x"], .directory []) ∧
      changeDirectory { host := {} } ["a/link/../x"] linkedWorld =
        .ok (.say []) { linkedWorld with session := { directory := "/a/x" } } ∧
      linkedFiles.hasEntry {} "/a/x" = false := by
  refine ⟨linkedFiles_valid, ⟨by decide, by decide⟩, by cbv, ⟨by decide, by decide, by cbv⟩, by cbv,
    by cbv, by cbv⟩

end Example

end Navigation

end LineShell
