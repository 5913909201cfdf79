import LineShell.Path.Normal
import LineShell.Proofs.Text.Pieces

/-!
# Sound paths

A path is sound when the system can be handed it wherever it is used: it is absolute, so that no
working directory matters, and no null character is in it.  The operations on the spelling of paths
stay among the sound ones.
-/

namespace LineShell.Path

/-- A path that is absolute and has no null character. -/
structure Sound (path : Text) : Prop where
  isAbsolute : isAbsolute path = true
  hasNull : path.hasNull = false

theorem hasNull_eq_false_iff {text : Text} : text.hasNull = false ↔ '\x00' ∉ text := by
  simp [Text.hasNull]

theorem isAbsolute_iff {path : Text} : isAbsolute path = true ↔ ∃ rest, path = '/' :: rest := by
  cases path with
  | nil => simp [isAbsolute, Text.startsWith]
  | cons first rest =>
      have hhead : isAbsolute (first :: rest) = ('/' == first) := by
        simp [isAbsolute, Text.startsWith, List.isPrefixOf]
      rw [hhead, beq_iff_eq]
      exact ⟨fun h => ⟨rest, by rw [h]⟩, fun ⟨_, h⟩ => (List.cons.inj h).1.symm⟩

/-! ### Joining -/

theorem mem_of_mem_join {base path : Text} {character : Char} (hmem : character ∈ join base path) :
    character ∈ base ∨ character ∈ path ∨ character = '/' := by
  unfold join at hmem
  split at hmem
  · exact .inr (.inl hmem)
  split at hmem
  · exact (List.mem_append.mp hmem).imp_right .inl
  · rcases List.mem_append.mp hmem with hmem | hmem
    · exact (List.mem_append.mp hmem).imp_right fun hslash => .inr (by simpa using hslash)
    · exact .inr (.inl hmem)

theorem isAbsolute_join {base path : Text} (hbase : isAbsolute base = true) :
    isAbsolute (join base path) = true := by
  obtain ⟨rest, rfl⟩ := isAbsolute_iff.mp hbase
  unfold join
  split
  · assumption
  split <;> exact isAbsolute_iff.mpr ⟨_, rfl⟩

theorem hasNull_join {base path : Text} (hbase : base.hasNull = false)
    (hpath : path.hasNull = false) : (join base path).hasNull = false := by
  refine hasNull_eq_false_iff.mpr fun hmem => ?_
  rcases mem_of_mem_join hmem with hmem | hmem | hslash
  · exact hasNull_eq_false_iff.mp hbase hmem
  · exact hasNull_eq_false_iff.mp hpath hmem
  · exact absurd hslash (by decide)

theorem Sound.join {base path : Text} (hbase : Sound base) (hpath : path.hasNull = false) :
    Sound (join base path) :=
  ⟨isAbsolute_join hbase.isAbsolute, hasNull_join hbase.hasNull hpath⟩

/-! ### Taking apart -/

theorem mem_of_mem_lastComponent {path : Text} {character : Char}
    (hmem : character ∈ lastComponent path) : character ∈ path := by
  exact List.mem_reverse.mp ((List.takeWhile_sublist _).subset (List.mem_reverse.mp hmem))

theorem mem_of_mem_directory {path : Text} {character : Char}
    (hmem : character ∈ directory path) : character ∈ path := by
  have hhead : ∀ character ∈ (path.reverse.dropWhile (!isSlash ·)).reverse, character ∈ path := by
    intro character hmem
    exact List.mem_reverse.mp ((List.dropWhile_sublist _).subset (List.mem_reverse.mp hmem))
  simp only [directory] at hmem
  split at hmem
  · exact hhead _ hmem
  · exact hhead _ (Text.mem_of_mem_trimEndWhere hmem)

theorem isAbsolute_directory {path : Text} (hpath : isAbsolute path = true) :
    isAbsolute (directory path) = true := by
  obtain ⟨rest, rfl⟩ := isAbsolute_iff.mp hpath
  obtain ⟨more, hhead⟩ : ∃ more, (('/' :: rest).reverse.dropWhile (!isSlash ·)).reverse =
      '/' :: more := by
    rw [List.reverse_cons, List.dropWhile_append]
    split
    · exact ⟨[], by simp [isSlash]⟩
    · exact ⟨(rest.reverse.dropWhile (!isSlash ·)).reverse, by simp⟩
  rw [directory, hhead]
  split <;> rename_i hall
  · exact isAbsolute_iff.mpr ⟨more, rfl⟩
  · rw [Text.trimEndWhere, List.reverse_cons, List.dropWhile_append]
    split
    · rename_i hempty
      refine absurd ?_ hall
      simpa [isSlash, List.dropWhile_eq_nil_iff] using hempty
    · exact isAbsolute_iff.mpr ⟨(more.reverse.dropWhile isSlash).reverse, by simp⟩

theorem hasNull_directory {path : Text} (hpath : path.hasNull = false) :
    (directory path).hasNull = false :=
  hasNull_eq_false_iff.mpr fun hmem => hasNull_eq_false_iff.mp hpath (mem_of_mem_directory hmem)

theorem hasNull_splitLast {path : Text} (hpath : path.hasNull = false) :
    (splitLast path).1.hasNull = false := by
  unfold Path.splitLast
  split
  · exact hasNull_directory (hasNull_directory hpath)
  · exact hasNull_directory hpath

theorem Sound.directory {path : Text} (hpath : Sound path) : Sound (directory path) :=
  ⟨isAbsolute_directory hpath.isAbsolute, hasNull_directory hpath.hasNull⟩

theorem Sound.splitLast {path : Text} (hpath : Sound path) : Sound (splitLast path).1 := by
  unfold Path.splitLast
  split
  · exact hpath.directory.directory
  · exact hpath.directory

/-! ### Normal forms -/

theorem mem_push {rooted : Bool} {stack : List Text} {component other : Text}
    (hmem : other ∈ push rooted stack component) :
    other ∈ stack ∨ other = component ∨ other = up := by
  unfold push at hmem
  split at hmem
  · exact .inl hmem
  split at hmem
  · split at hmem
    · split at hmem
      · simp at hmem
      · exact .inr (.inr (by simpa using hmem))
    · split at hmem
      · exact (List.mem_cons.mp hmem).elim (fun heq => .inr (.inr heq)) .inl
      · exact .inl (List.mem_cons_of_mem _ hmem)
  · exact (List.mem_cons.mp hmem).elim (fun heq => .inr (.inl heq)) .inl

theorem mem_of_mem_foldl_push {rooted : Bool} {components stack : List Text} {other : Text}
    (hmem : other ∈ components.foldl (push rooted) stack) :
    other ∈ stack ∨ other ∈ components ∨ other = up := by
  induction components generalizing stack with
  | nil => exact .inl hmem
  | cons component rest ih =>
      rcases ih hmem with hstack | hrest | hup
      · rcases mem_push hstack with hstack | rfl | hup
        · exact .inl hstack
        · exact .inr (.inl List.mem_cons_self)
        · exact .inr (.inr hup)
      · exact .inr (.inl (List.mem_cons_of_mem component hrest))
      · exact .inr (.inr hup)

theorem mem_of_mem_normalize {path : Text} {character : Char}
    (hmem : character ∈ normalize path) :
    character ∈ path ∨ character = '/' ∨ character = '.' := by
  have hcomponents : ∀ component ∈ components path, character ∈ component →
      character ∈ path ∨ character = '.' := by
    intro component hcomponent hcharacter
    rcases mem_of_mem_foldl_push (List.mem_reverse.mp hcomponent) with hstack | hpiece | rfl
    · cases hstack
    · exact .inl (Text.mem_of_mem_splitWhere hpiece hcharacter)
    · exact .inr (by simpa [up] using hcharacter)
  simp only [normalize] at hmem
  split at hmem
  · exact .inr (.inr (by simpa [self] using hmem))
  · rcases List.mem_append.mp hmem with hslash | hmem
    · exact .inr (.inl (List.eq_of_mem_replicate hslash))
    · rcases Text.mem_of_mem_joinWith hmem with hslash | ⟨component, hcomponent, hcharacter⟩
      · exact .inr (.inl (by simpa using hslash))
      · exact (hcomponents component hcomponent hcharacter).imp_right .inr

theorem isAbsolute_normalize {path : Text} (hpath : isAbsolute path = true) :
    isAbsolute (normalize path) = true := by
  have hslashes : ∃ more, List.replicate (leadingSlashes path) '/' = '/' :: more := by
    unfold leadingSlashes
    rw [hpath]
    split
    · simp_all
    · split <;> exact ⟨_, rfl⟩
  obtain ⟨more, hslashes⟩ := hslashes
  rw [normalize, hslashes]
  exact isAbsolute_iff.mpr ⟨_, rfl⟩

theorem Sound.normalize {path : Text} (hpath : Sound path) : Sound (normalize path) := by
  refine ⟨isAbsolute_normalize hpath.isAbsolute, hasNull_eq_false_iff.mpr fun hmem => ?_⟩
  rcases mem_of_mem_normalize hmem with hmem | hslash | hdot
  · exact hasNull_eq_false_iff.mp hpath.hasNull hmem
  · exact absurd hslash (by decide)
  · exact absurd hdot (by decide)

end LineShell.Path
