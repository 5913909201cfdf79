import LineShell.Proofs.Path.Joined

/-!
# Names joined to normal forms

A name may be joined to a path before the path is normalised or afterwards: the result is the same.
-/

namespace LineShell.Path

variable {base name : Text} {slashes : Nat} {names : List Text}

/-- A path that is spelled from names ends in the last one, behind a slash. -/
theorem spell_concat (slashes : Nat) (names : List Text) (name : Text) :
    spell slashes (names ++ [name]) =
      if names = [] then spell slashes [] ++ name else spell slashes names ++ '/' :: name := by
  split
  · rename_i hnil
    subst hnil
    simp [spell, Text.joinWith, List.intercalate]
  · rename_i hne
    have hjoin : (Text.joinWith "/" names ++ "/" ++ name : Text) =
        Text.joinWith "/" names ++ '/' :: name := by simp
    rw [spell, spell, Text.joinWith_concat _ hne, hjoin, List.append_assoc]

/-- A path that is spelled from names does not end in a slash. -/
theorem not_slash_suffix_spell (slashes : Nat) (hnames : ∀ name ∈ names, IsName name)
    (hne : names ≠ []) : ¬ ['/'] <:+ spell slashes names := by
  obtain ⟨init, last, rfl⟩ := (List.eq_nil_or_concat names).resolve_left hne
  rw [List.concat_eq_append] at hnames ⊢
  have hlast := hnames last (by simp)
  obtain ⟨first, final, rfl⟩ := (List.eq_nil_or_concat last).resolve_left hlast.naming.1
  rw [List.concat_eq_append] at hlast ⊢
  have hend : ∀ front : Text, ¬ ['/'] <:+ front ++ (first ++ [final]) := by
    rintro front ⟨before, hbefore⟩
    rw [← List.append_assoc] at hbefore
    have hfinal := List.singleton_inj.mp (List.append_inj' hbefore rfl).2
    exact hlast.not_slash (by simp [← hfinal])
  rw [spell_concat]
  split
  · exact hend _
  · rw [List.append_cons]
    exact hend _

/-- A name is joined to a path that is spelled from names as one more of them. -/
theorem join_spell (hslashes : slashes = 1 ∨ slashes = 2) (hnames : ∀ name ∈ names, IsName name)
    (hname : '/' ∉ name) : join (spell slashes names) name = spell slashes (names ++ [name]) := by
  obtain ⟨tail, hjoin, htail⟩ :=
    exists_join_eq (isAbsolute_spell hslashes names) (isAbsolute_of_not_slash hname)
  rw [hjoin, spell_concat]
  by_cases hnil : names = []
  · subst hnil
    have hslash : ['/'] <:+ spell slashes [] := by
      rcases hslashes with rfl | rfl
      · exact List.suffix_refl _
      · exact List.suffix_append ['/'] ['/']
    obtain ⟨rfl, -⟩ := htail.resolve_right fun h => h.2 hslash
    rw [if_pos rfl]
  · obtain ⟨rfl, -⟩ := htail.resolve_left fun h => not_slash_suffix_spell _ hnames hnil h.2
    rw [if_neg hnil]

/-- A name is the last component that a normal form takes over. -/
theorem normalize_join (hbase : isAbsolute base = true) (hname : IsName name) :
    normalize (join base name) = join (normalize base) name := by
  have hrelative := isAbsolute_of_not_slash hname.not_slash
  have hcomponents : components (join base name) = components base ++ [name] := by
    rw [components_join hbase hrelative, splitOn_of_not_slash hname.not_slash, List.foldl_cons,
      List.foldl_nil, push_of_naming hname.naming, List.reverse_cons, List.reverse_reverse]
  rw [normalize_eq (isAbsolute_join hbase), hcomponents, leadingSlashes_join hbase hrelative,
    normalize_eq hbase]
  exact (join_spell (leadingSlashes_eq hbase) (fun _ => isName_of_mem_components hbase)
    hname.not_slash).symm

end LineShell.Path
