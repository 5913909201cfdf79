import LineShell.Proofs.Text.Parts
import LineShell.Text.Case
import Mathlib.Data.List.Forall2

/-!
# Texts that differ in case

Two texts that differ in the case of ASCII letters only have one small form, in which the letters
around a sigma decide on its form as they did before.  They have the same characters besides, so they
are trimmed and split at the same places.
-/

namespace LineShell.Text

/-- Two texts differ in nothing but the case of ASCII letters. -/
def SameLetters (text other : Text) : Prop :=
  List.Forall₂ (fun left right : Char => left.toLower = right.toLower) text other

/-! ### Single characters -/

/-- The code points of the ASCII letters. -/
def IsLetter (character : Char) : Prop :=
  0x41 ≤ character.toNat ∧ character.toNat ≤ 0x5A ∨ 0x61 ≤ character.toNat ∧ character.toNat ≤ 0x7A

instance (character : Char) : Decidable (IsLetter character) :=
  inferInstanceAs (Decidable (_ ∨ _))

section Characters

variable {left right : Char}

theorem toNat_toLower (character : Char) :
    character.toLower.toNat =
      if 0x41 ≤ character.toNat ∧ character.toNat ≤ 0x5A then character.toNat + 0x20
      else character.toNat := by
  have hcode : character.val ≥ 'A'.val ∧ character.val ≤ 'Z'.val ↔
      0x41 ≤ character.toNat ∧ character.toNat ≤ 0x5A := by
    rw [ge_iff_le, UInt32.le_iff_toNat_le, UInt32.le_iff_toNat_le]
    rfl
  unfold Char.toLower
  split <;> rename_i hupper <;> rw [hcode] at hupper
  · rw [if_pos hupper]
    change (character.val + ('a'.val - 'A'.val)).toNat = character.val.toNat + 0x20
    rw [UInt32.toNat_add, Nat.mod_eq_of_lt]
    · rfl
    · exact Nat.lt_of_le_of_lt (Nat.add_le_add_right hupper.2 _) (by decide)
  · rw [if_neg hupper]

/-- Where the small forms are the same, the characters are, or they are both letters. -/
theorem eq_or_isLetter (h : left.toLower = right.toLower) :
    left = right ∨ IsLetter left ∧ IsLetter right := by
  have hcodes := congrArg Char.toNat h
  rw [toNat_toLower, toNat_toLower] at hcodes
  rw [← Char.toNat_inj, IsLetter, IsLetter]
  split at hcodes <;> split at hcodes <;> omega

theorem eq_of_not_isLetter (h : left.toLower = right.toLower) (hright : ¬ IsLetter right) :
    left = right :=
  (eq_or_isLetter h).resolve_right fun hletters => hright hletters.2

theorem IsLetter.not_isBlank (h : IsLetter left) : isBlank left = false := by
  unfold IsLetter at h
  simp only [isBlank, Bool.or_eq_false_iff, Bool.and_eq_false_iff, decide_eq_false_iff_not,
    beq_eq_false_iff_ne]
  omega

theorem IsLetter.ascii (h : IsLetter left) : left ≤ '~' := by
  unfold IsLetter at h
  have hcode : left.toNat ≤ 0x7E := by omega
  exact hcode

/-- The letters are cased, and no letter is looked past. -/
theorem IsLetter.holds (h : IsLetter left) :
    CaseTable.casedRanges.holds left = true ∧ CaseTable.ignorableRanges.holds left = false := by
  constructor
  · refine List.any_eq_true.mpr ?_
    rcases h with h | h
    · exact ⟨(0x41, 0x5A), List.mem_cons_self, by simpa using h⟩
    · exact ⟨(0x61, 0x7A), List.mem_cons_of_mem _ List.mem_cons_self, by simpa using h⟩
  · have hapart : ∀ range ∈ CaseTable.ignorableRanges,
        range.2 < 0x41 ∨ 0x5A < range.1 ∧ range.2 < 0x61 ∨ 0x7A < range.1 := by
      decide +kernel
    refine List.any_eq_false.mpr fun range hrange => ?_
    have hrange := hapart range hrange
    unfold IsLetter at h
    simp only [Bool.and_eq_true, decide_eq_true_eq]
    omega

end Characters

/-! ### Whole texts -/

section Texts

variable {text other before before' tail : Text}

theorem SameLetters.refl (text : Text) : SameLetters text text :=
  List.forall₂_same.mpr fun _ _ => rfl

theorem SameLetters.symm (h : SameLetters text other) : SameLetters other text :=
  List.Forall₂.flip (h.imp fun _ _ heq => heq.symm)

theorem SameLetters.ne_nil (h : SameLetters text other) (hne : text ≠ []) : other ≠ [] := by
  rintro rfl
  exact hne (List.forall₂_nil_right_iff.mp h)

/-- Characters that are no letters are in both texts. -/
theorem SameLetters.mem_of_mem (h : SameLetters text other) {character : Char}
    (hcharacter : ¬ IsLetter character) (hmem : character ∈ other) : character ∈ text := by
  induction h with
  | nil => exact hmem
  | cons hfirst _ ih =>
      rcases List.mem_cons.mp hmem with rfl | hrest
      · exact eq_of_not_isLetter hfirst hcharacter ▸ List.mem_cons_self
      · exact List.mem_cons_of_mem _ (ih hrest)

theorem SameLetters.not_isBlank (h : SameLetters text other)
    (htext : ∀ character ∈ text, isBlank character = false) :
    ∀ character ∈ other, isBlank character = false := by
  intro character hmem
  by_cases hletter : IsLetter character
  · exact hletter.not_isBlank
  · exact htext character (h.mem_of_mem hletter hmem)

/-- A text without letters has no other spelling. -/
theorem SameLetters.eq_of_not_isLetter (h : SameLetters text other)
    (hother : ∀ character ∈ other, ¬ IsLetter character) : text = other := by
  induction h with
  | nil => rfl
  | cons hfirst _ ih =>
      obtain ⟨hright, hrest⟩ := List.forall_mem_cons.mp hother
      rw [Text.eq_of_not_isLetter hfirst hright, ih hrest]

theorem holds_congr {left right : Char} (h : left.toLower = right.toLower) :
    CaseTable.casedRanges.holds left = CaseTable.casedRanges.holds right ∧
      CaseTable.ignorableRanges.holds left = CaseTable.ignorableRanges.holds right := by
  rcases eq_or_isLetter h with rfl | ⟨hleft, hright⟩
  · exact ⟨rfl, rfl⟩
  · exact ⟨hleft.holds.1.trans hright.holds.1.symm, hleft.holds.2.trans hright.holds.2.symm⟩

theorem meetsCased_cons (first : Char) (rest : Text) :
    CaseTable.meetsCased (first :: rest) =
      if CaseTable.ignorableRanges.holds first then CaseTable.meetsCased rest
      else CaseTable.casedRanges.holds first := by
  unfold CaseTable.meetsCased
  by_cases hignorable : CaseTable.ignorableRanges.holds first = true
  · rw [List.dropWhile_cons_of_pos hignorable, if_pos hignorable]
  · rw [List.dropWhile_cons_of_neg hignorable, if_neg hignorable]
    rfl

theorem SameLetters.meetsCased (h : SameLetters text other) :
    CaseTable.meetsCased text = CaseTable.meetsCased other := by
  induction h with
  | nil => rfl
  | cons hfirst _ ih =>
      obtain ⟨hcased, hignorable⟩ := holds_congr hfirst
      rw [meetsCased_cons, meetsCased_cons, hcased, hignorable, ih]

theorem lowerChar_congr {left right : Char} (h : left.toLower = right.toLower) :
    lowerChar left = lowerChar right := by
  rcases eq_or_isLetter h with rfl | ⟨hleft, hright⟩
  · rfl
  · rw [lowerChar, lowerChar, if_pos hleft.ascii, if_pos hright.ascii, h]

/-- The small form of a character in a text with some characters before and behind it. -/
def lowerAt (before : Text) (character : Char) (after : Text) : Text :=
  if character = 'Σ' then [lowerSigma before after] else lowerChar character

/-- The small form of a text that stands behind another one. -/
def lowerBehind (before : Text) : Text → Text
  | [] => []
  | character :: rest => lowerAt before character rest ++ lowerBehind (before ++ [character]) rest

theorem lower_eq_lowerBehind (text : Text) : lower text = lowerBehind [] text := by
  have hwhole : ∀ before text : Text,
      (text.zipIdx before.length).flatMap (fun entry =>
        lowerAt ((before ++ text).take entry.2) entry.1 ((before ++ text).drop (entry.2 + 1))) =
      lowerBehind before text := by
    intro before text
    induction text generalizing before with
    | nil => rfl
    | cons character rest ih =>
        have hrest := ih (before ++ [character])
        rw [List.length_append, List.length_singleton, List.append_assoc,
          List.singleton_append] at hrest
        rw [List.zipIdx_cons, List.flatMap_cons, hrest, lowerBehind]
        simp
  exact hwhole [] text

theorem SameLetters.lowerAt_eq {left right : Char} (hbefore : SameLetters before before')
    (h : left.toLower = right.toLower) (hafter : SameLetters text other) :
    lowerAt before left text = lowerAt before' right other := by
  have hsigma : ¬ IsLetter 'Σ' := by decide
  have hlower : lowerSigma before text = lowerSigma before' other := by
    have hreverse : SameLetters before.reverse before'.reverse :=
      List.forall₂_reverse_iff.mpr hbefore
    rw [lowerSigma, lowerSigma, hreverse.meetsCased, hafter.meetsCased]
  have hsame : left = 'Σ' ↔ right = 'Σ' := by
    constructor
    · rintro rfl
      exact Text.eq_of_not_isLetter h.symm hsigma
    · rintro rfl
      exact Text.eq_of_not_isLetter h hsigma
  rw [lowerAt, lowerAt, hlower, lowerChar_congr h]
  simp only [hsame]

theorem SameLetters.lowerBehind_eq (h : SameLetters text other) (hbefore : SameLetters before before') :
    lowerBehind before text = lowerBehind before' other := by
  induction h generalizing before before' with
  | nil => rfl
  | @cons left right rest others hfirst hrest ih =>
      have hnext := List.rel_append hbefore (.cons hfirst .nil)
      rw [lowerBehind, lowerBehind, hbefore.lowerAt_eq hfirst hrest, ih hnext]

/-- The small form of a text has those of its ASCII characters. -/
theorem mem_lower {character : Char} (hascii : character ≤ '~') (hmem : character ∈ text) :
    character.toLower ∈ text.lower := by
  rw [lower_eq_lowerBehind]
  generalize ([] : Text) = before
  induction text generalizing before with
  | nil => cases hmem
  | cons first rest ih =>
      rw [lowerBehind, List.mem_append]
      rcases List.mem_cons.mp hmem with rfl | hrest
      · have hsigma : character ≠ 'Σ' := by
          rintro rfl
          exact absurd hascii (by decide)
        exact .inl (by simp [lowerAt, hsigma, lowerChar, hascii])
      · exact .inr (ih hrest _)

/-- Texts that differ in case have one small form. -/
theorem SameLetters.lower_eq (h : SameLetters text other) : text.lower = other.lower := by
  rw [lower_eq_lowerBehind, lower_eq_lowerBehind, h.lowerBehind_eq (.refl [])]

end Texts

end LineShell.Text
