import LineShell.Proofs.Path.Normal

/-!
# Joining a component to a path

A path with a component joined to it has the components of the path and that one as its last.  A
slash that ends the path stands for one more empty component, which the new one takes the place of.
A relative path that is joined to an absolute one leaves the slashes in front of it as they are.
-/

namespace LineShell.Path

theorem isAbsolute_of_not_slash {name : Text} (hname : '/' ∉ name) : isAbsolute name = false := by
  rw [Bool.eq_false_iff]
  intro habsolute
  obtain ⟨rest, hrest⟩ := isAbsolute_iff.mp habsolute
  exact hname (hrest ▸ List.mem_cons_self)

theorem splitOn_of_not_slash {name : Text} (hname : '/' ∉ name) :
    Text.splitOn '/' name = [name] :=
  Text.splitOn_of_not_mem hname

theorem splitOn_append_slash (left right : Text) :
    Text.splitOn '/' (left ++ '/' :: right) = Text.splitOn '/' left ++ Text.splitOn '/' right :=
  Text.splitWhere_append_cons left right (by decide)

theorem isAbsolute_join_of_not_slash {base name : Text} (hname : '/' ∉ name) :
    isAbsolute (join base name) = isAbsolute base := by
  cases base with
  | nil =>
      have hjoin : join [] name = name := by
        rw [join, isAbsolute_of_not_slash hname]
        rfl
      rw [hjoin, isAbsolute_of_not_slash hname]
      rfl
  | cons first rest =>
      have hhead : ∀ more, isAbsolute (first :: more) = (first == '/') := by
        intro more
        simp [isAbsolute, Text.startsWith, List.isPrefixOf, eq_comm]
      rw [join, isAbsolute_of_not_slash hname]
      simp only [Bool.false_eq_true, if_false]
      split <;> rw [hhead] <;> exact hhead _

/-- The components of a path, but for an empty last one, come before the one joined to it. -/
theorem splitOn_join (base : Text) {name : Text} (hname : '/' ∉ name) :
    ∃ front, (Text.splitOn '/' base = front ∨ Text.splitOn '/' base = front ++ [[]]) ∧
      Text.splitOn '/' (join base name) = front ++ [name] := by
  unfold join
  rw [isAbsolute_of_not_slash hname]
  simp only [Bool.false_eq_true, if_false]
  by_cases hempty : base = []
  · refine ⟨[], .inr (by rw [hempty]; rfl), ?_⟩
    simp [hempty, splitOn_of_not_slash hname]
  by_cases hslash : Text.endsWith base "/" = true
  · obtain ⟨front, rfl⟩ := List.isSuffixOf_iff_suffix.mp hslash
    refine ⟨Text.splitOn '/' front, .inr (splitOn_append_slash front []), ?_⟩
    have hjoin : (front ++ "/" ++ name : Text) = front ++ '/' :: name := by simp
    rw [hslash, Bool.or_true, if_pos rfl, hjoin, splitOn_append_slash, splitOn_of_not_slash hname]
  · refine ⟨Text.splitOn '/' base, .inl rfl, ?_⟩
    have hjoin : (base ++ "/" ++ name : Text) = base ++ '/' :: name := by simp
    have hnotempty : base.isEmpty = false := by simpa using hempty
    rw [Bool.not_eq_true] at hslash
    rw [hnotempty, hslash, Bool.or_false, if_neg (by simp), hjoin, splitOn_append_slash,
      splitOn_of_not_slash hname]

section Relative

variable {base path : Text}

/-- How many slashes a path begins with is told by the two characters after the first slash. -/
theorem leadingSlashes_slash (rest : Text) :
    leadingSlashes ('/' :: rest) =
      if rest.head? = some '/' ∧ rest.tail.head? ≠ some '/' then 2 else 1 := by
  by_cases hsecond : rest.head? = some '/'
  · obtain ⟨more, rfl⟩ := List.head?_eq_some_iff.mp hsecond
    cases more with
    | nil => rfl
    | cons third others =>
        by_cases hthird : third = '/'
        · subst hthird
          rfl
        · simp [leadingSlashes, isAbsolute, Text.startsWith, List.isPrefixOf, hthird,
            Ne.symm hthird]
  · rw [leadingSlashes_cons hsecond, if_neg fun h => hsecond h.1]

theorem head?_ne_of_not_isAbsolute (hpath : isAbsolute path = false) : path.head? ≠ some '/' := by
  intro hslash
  obtain ⟨rest, rfl⟩ := List.head?_eq_some_iff.mp hslash
  rw [isAbsolute_iff.mpr ⟨rest, rfl⟩] at hpath
  cases hpath

/-- A relative path is appended to an absolute one, with a slash in between unless there is one. -/
theorem exists_join_eq (hbase : isAbsolute base = true) (hpath : isAbsolute path = false) :
    ∃ tail, join base path = base ++ tail ∧
      (tail = path ∧ ['/'] <:+ base ∨ tail = '/' :: path ∧ ¬ ['/'] <:+ base) := by
  have hnotempty : base.isEmpty = false := by
    obtain ⟨rest, rfl⟩ := isAbsolute_iff.mp hbase
    rfl
  unfold join
  rw [hpath, hnotempty, Bool.false_or]
  by_cases hslash : Text.endsWith base "/" = true
  · exact ⟨path, by rw [if_pos hslash]; rfl, .inl ⟨rfl, List.isSuffixOf_iff_suffix.mp hslash⟩⟩
  · refine ⟨'/' :: path, by rw [if_neg hslash]; simp, .inr ⟨rfl, fun hsuffix => hslash ?_⟩⟩
    exact List.isSuffixOf_iff_suffix.mpr hsuffix

/-- A relative path is joined to an absolute one behind the slashes that this begins with. -/
theorem leadingSlashes_join (hbase : isAbsolute base = true) (hpath : isAbsolute path = false) :
    leadingSlashes (join base path) = leadingSlashes base := by
  have hhead := head?_ne_of_not_isAbsolute hpath
  obtain ⟨tail, hjoin, htail⟩ := exists_join_eq hbase hpath
  obtain ⟨rest, rfl⟩ := isAbsolute_iff.mp hbase
  rw [hjoin, List.cons_append, leadingSlashes_slash, leadingSlashes_slash]
  rcases rest with _ | ⟨second, _ | ⟨third, others⟩⟩
  · rcases htail with ⟨rfl, -⟩ | ⟨-, hslash⟩
    · simp [hhead]
    · exact absurd (List.suffix_refl _) hslash
  · rcases htail with ⟨rfl, -⟩ | ⟨-, hslash⟩
    · simp [hhead]
    · have hsecond : second ≠ '/' := by
        rintro rfl
        exact hslash (List.suffix_append ['/'] ['/'])
      simp [hsecond]
  · rfl

/-- The components of a relative path are taken onto those of the path that it is joined to. -/
theorem components_join (hbase : isAbsolute base = true) (hpath : isAbsolute path = false) :
    components (join base path) =
      ((Text.splitOn '/' path).foldl (push true) (components base).reverse).reverse := by
  obtain ⟨tail, hjoin, htail⟩ := exists_join_eq hbase hpath
  rw [components_of_isAbsolute (isAbsolute_join hbase), components_of_isAbsolute hbase,
    List.reverse_reverse, hjoin]
  rcases htail with ⟨rfl, front, rfl⟩ | ⟨rfl, -⟩
  · have hwhole : front ++ ['/'] ++ tail = front ++ '/' :: tail := by simp
    have hsplit : Text.splitOn '/' (front ++ ['/']) = Text.splitOn '/' front ++ [[]] :=
      splitOn_append_slash front []
    rw [hwhole, splitOn_append_slash, hsplit, List.foldl_append, List.foldl_append,
      List.foldl_cons, push_of_skipped (.inl rfl), List.foldl_nil]
  · rw [splitOn_append_slash, List.foldl_append]

end Relative

end LineShell.Path
