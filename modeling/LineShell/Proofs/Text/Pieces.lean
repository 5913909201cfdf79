import LineShell.Text.Blank
import Mathlib.Data.List.DropRight

/-!
# Trimming and splitting composed texts

A line is often one text with another one written behind it.  These lemmas say how the runs of
blanks at the ends and the pieces between separators of the whole come from those of its parts.
-/

namespace LineShell.Text

section Trimming

variable {trims : Char → Bool} {text tail : Text}

/-- A tail of trimmed characters goes first. -/
theorem trimEndWhere_append_of_all (htail : ∀ character ∈ tail, trims character = true) :
    trimEndWhere trims (text ++ tail) = trimEndWhere trims text := by
  have hdrop : (tail.reverse ++ text.reverse).dropWhile trims = text.reverse.dropWhile trims :=
    List.dropWhile_append_of_pos fun character hmem => htail character (List.mem_reverse.mp hmem)
  rw [trimEndWhere, trimEndWhere, List.reverse_append, hdrop]

/-- Nothing is trimmed behind a character that stays. -/
theorem trimEndWhere_concat {character : Char} (hstays : trims character = false) :
    trimEndWhere trims (text ++ [character]) = text ++ [character] := by
  simp [trimEndWhere, hstays]

/-- A text is what is left of it and a run of trimmed characters. -/
theorem exists_eq_trimEndWhere_append (trims : Char → Bool) (text : Text) :
    ∃ tail, text = trimEndWhere trims text ++ tail ∧
      ∀ character ∈ tail, trims character = true := by
  refine ⟨(text.reverse.takeWhile trims).reverse, ?_, ?_⟩
  · have hparts : text.reverse.takeWhile trims ++ text.reverse.dropWhile trims = text.reverse :=
      List.takeWhile_append_dropWhile
    rw [trimEndWhere, ← List.reverse_append, hparts, List.reverse_reverse]
  · intro character hmem
    exact List.mem_takeWhile_imp (List.mem_reverse.mp hmem)

/-- What is left of a text does not end in a trimmed character. -/
theorem not_trims_of_trimEndWhere {init : Text} {character : Char}
    (h : trimEndWhere trims text = init ++ [character]) : trims character = false := by
  have hhead := List.head?_dropWhile_not trims text.reverse
  rw [← List.reverse_reverse (text.reverse.dropWhile trims)] at hhead
  have hdrop : (text.reverse.dropWhile trims).reverse = init ++ [character] := h
  simpa [hdrop] using hhead

theorem mem_of_mem_trimEndWhere {character : Char} (hmem : character ∈ trimEndWhere trims text) :
    character ∈ text :=
  List.mem_reverse.mp ((List.dropWhile_sublist trims).subset (List.mem_reverse.mp hmem))

@[simp]
theorem isBlank_space : isBlank ' ' = true := by decide

theorem mem_of_mem_trim {character : Char} (hmem : character ∈ trim text) : character ∈ text :=
  (List.dropWhile_sublist isBlank).subset (mem_of_mem_trimEndWhere hmem)

/-- Blanks behind a text do not show once it is trimmed. -/
theorem trim_append_of_blank (htail : ∀ character ∈ tail, isBlank character = true) :
    trim (text ++ tail) = trim text := by
  rw [trim, trim, trimWhere, trimWhere, List.dropWhile_append]
  split <;> rename_i hempty
  · rw [List.isEmpty_iff.mp hempty, List.dropWhile_eq_nil_iff.mpr htail]
  · exact trimEndWhere_append_of_all htail

/-- Only the blanks in front go where a text ends in a word that begins with another character. -/
theorem trim_append_of_not_blank (text : Text) {first : Char} (middle : Text) {last : Char}
    (hfirst : isBlank first = false) (hlast : isBlank last = false) :
    trim (text ++ first :: middle ++ [last]) =
      text.dropWhile isBlank ++ first :: middle ++ [last] := by
  have hdrop : (text ++ first :: middle ++ [last]).dropWhile isBlank =
      text.dropWhile isBlank ++ first :: middle ++ [last] := by
    rw [List.append_assoc, List.dropWhile_append]
    split <;> rename_i hempty
    · simp [List.isEmpty_iff.mp hempty, hfirst]
    · simp
  rw [trim, trimWhere, hdrop, trimEndWhere_concat hlast]

theorem trim_space_cons (text : Text) : trim (' ' :: text) = trim text := by
  simp [trim, trimWhere]

/-- A text without blanks is trimmed already. -/
theorem trim_of_not_blank (hblank : ∀ character ∈ text, isBlank character = false) :
    trim text = text := by
  have hdrop : text.dropWhile isBlank = text := by
    rw [List.dropWhile_eq_self_iff]
    intro hlength
    simp [hblank _ (List.getElem_mem hlength)]
  rw [trim, trimWhere, hdrop]
  refine List.rdropWhile_eq_self_iff.mpr fun hne => ?_
  simp [hblank _ (List.getLast_mem hne)]

/-- Blanks in front of a text do not show once it is trimmed. -/
theorem trim_dropWhile (text : Text) : trim (text.dropWhile isBlank) = trim text := by
  rw [trim, trimWhere, List.dropWhile_idempotent, ← trimWhere, ← trim]

/-- Only blanks are trimmed away altogether. -/
theorem dropWhile_isBlank_of_trim (hblank : trim text = []) : text.dropWhile isBlank = [] := by
  obtain ⟨tail, hparts, htail⟩ := exists_eq_trimEndWhere_append isBlank (text.dropWhile isBlank)
  rw [← trimWhere, ← trim, hblank, List.nil_append] at hparts
  rw [← List.dropWhile_idempotent, hparts, List.dropWhile_eq_nil_iff]
  exact htail

/-- A trimmed text begins with no blank. -/
theorem dropWhile_isBlank_trim (text : Text) : (trim text).dropWhile isBlank = trim text := by
  obtain ⟨tail, hparts, -⟩ := exists_eq_trimEndWhere_append isBlank (text.dropWhile isBlank)
  have hhead := List.head?_dropWhile_not isBlank text
  rw [hparts, ← trimWhere, ← trim] at hhead
  cases htrim : trim text with
  | nil => rfl
  | cons first rest =>
      rw [htrim] at hhead
      simp [show isBlank first = false by simpa using hhead]

/-- A trimmed text ends in no blank. -/
theorem exists_concat_of_trim {text : Text} (hne : text ≠ []) (htrim : trim text = text) :
    ∃ init last, text = init ++ [last] ∧ isBlank last = false := by
  refine ⟨_, _, (List.dropLast_append_getLast hne).symm, ?_⟩
  have hend : (text.dropWhile isBlank).rdropWhile isBlank = text := htrim
  have htwice : text.rdropWhile isBlank = text := by
    rw [← hend, List.rdropWhile_idempotent]
  simpa using List.rdropWhile_eq_self_iff.mp htwice hne

theorem trim_trim (text : Text) : trim (trim text) = trim text := by
  conv_lhs => rw [trim, trimWhere, dropWhile_isBlank_trim]
  exact List.rdropWhile_idempotent isBlank (text.dropWhile isBlank)

end Trimming

section Splitting

variable {separates : Char → Bool}

/-- A text without separators is one piece. -/
theorem splitWhere_of_none {text : Text} (hnone : ∀ character ∈ text, separates character = false) :
    splitWhere separates text = [text] := by
  induction text with
  | nil => rfl
  | cons first rest ih =>
      have hrest := ih fun character hmem => hnone character (List.mem_cons_of_mem first hmem)
      simp [splitWhere, hnone first List.mem_cons_self, hrest]

theorem splitOn_of_not_mem {separator : Char} {text : Text} (hnone : separator ∉ text) :
    splitOn separator text = [text] :=
  splitWhere_of_none fun _ hmem => beq_eq_false_iff_ne.mpr fun heq => hnone (heq ▸ hmem)

theorem exists_splitOn_eq_concat (separator : Char) (text : Text) :
    ∃ before last, splitOn separator text = before ++ [last] :=
  ⟨_, _, (List.dropLast_append_getLast (splitWhere_ne_nil _ _)).symm⟩

theorem mem_of_splitOn_eq_concat {separator character : Char} {text last : Text}
    {before : List Text} (hpieces : splitOn separator text = before ++ [last])
    (hmem : character ∈ last) : character ∈ text := by
  have hlast : last ∈ splitWhere (· == separator) text := by
    rw [← splitOn, hpieces]
    simp
  exact mem_of_mem_splitWhere hlast hmem

/-- A trimmed text with nothing but blanks in its one piece is empty. -/
theorem trim_last_eq_nil_iff {separator : Char} {text last : Text} {before : List Text}
    (hpieces : splitOn separator text.trim = before ++ [last]) :
    last.trim = [] ∧ before = [] ↔ text.trim = [] := by
  constructor
  · rintro ⟨hblank, rfl⟩
    have htext : text.trim = last := by
      rw [← joinWith_splitOn separator text.trim, hpieces]
      simp [joinWith]
    rw [← trim_trim, htext, hblank]
  · intro hblank
    rw [hblank] at hpieces
    obtain ⟨hbefore, hempty⟩ : before = [] ∧ last = [] := by
      simpa [splitOn, List.singleton_eq_append_iff] using hpieces
    exact ⟨by rw [hempty]; rfl, hbefore⟩

/-- The pieces on both sides of a separator come one after the other. -/
theorem splitWhere_append_cons (left right : Text) {character : Char}
    (hseparates : separates character = true) :
    splitWhere separates (left ++ character :: right) =
      splitWhere separates left ++ splitWhere separates right := by
  induction left with
  | nil => simp [splitWhere_cons_of_separates hseparates]
  | cons first rest ih =>
      cases hfirst : separates first with
      | true => simp [splitWhere_cons_of_separates hfirst, ih]
      | false =>
          obtain ⟨piece, pieces, hsplit, hcons⟩ := splitWhere_cons_of_not_separates hfirst rest
          rw [List.cons_append, splitWhere, hfirst, ih, hcons, hsplit]
          simp

/-- What is written behind a text without being separated from it goes to its last piece. -/
theorem splitWhere_append_of_none (left : Text) {right : Text}
    (hnone : ∀ character ∈ right, separates character = false) :
    splitWhere separates (left ++ right) =
      (splitWhere separates left).dropLast ++ [(splitWhere separates left).getLastD [] ++ right] := by
  induction left with
  | nil => simp [splitWhere_of_none hnone]
  | cons first rest ih =>
      cases hfirst : separates first with
      | true =>
          obtain ⟨piece, pieces, hsplit⟩ :=
            List.exists_cons_of_ne_nil (splitWhere_ne_nil separates rest)
          rw [List.cons_append, splitWhere_cons_of_separates hfirst, ih,
            splitWhere_cons_of_separates hfirst, hsplit]
          simp
      | false =>
          obtain ⟨piece, pieces, hsplit, hcons⟩ := splitWhere_cons_of_not_separates hfirst rest
          rw [List.cons_append, splitWhere, hfirst, ih, hcons, hsplit]
          cases pieces with
          | nil => simp
          | cons next others => simp

theorem joinWith_cons_cons (separator piece next : Text) (others : List Text) :
    joinWith separator (piece :: next :: others) =
      piece ++ separator ++ joinWith separator (next :: others) :=
  List.intercalate_cons_cons

theorem joinWith_concat (separator : Text) {pieces : List Text} (hne : pieces ≠ [])
    (last : Text) :
    joinWith separator (pieces ++ [last]) = joinWith separator pieces ++ separator ++ last := by
  induction pieces with
  | nil => exact absurd rfl hne
  | cons piece rest ih =>
      cases rest with
      | nil => simp [joinWith]
      | cons next others =>
          have hrest := ih (by simp)
          rw [List.cons_append] at hrest
          rw [List.cons_append, List.cons_append, joinWith_cons_cons, hrest, joinWith_cons_cons]
          simp

/-- Pieces without the separator are what their joined text is split into. -/
theorem splitOn_joinWith {separator : Char} {pieces : List Text} (hne : pieces ≠ [])
    (hpieces : ∀ piece ∈ pieces, separator ∉ piece) :
    splitOn separator (joinWith [separator] pieces) = pieces := by
  induction pieces with
  | nil => exact absurd rfl hne
  | cons piece rest ih =>
      have hpiece := hpieces piece List.mem_cons_self
      cases rest with
      | nil => simpa [joinWith] using splitOn_of_not_mem hpiece
      | cons next others =>
          have hrest := ih (by simp) fun other hother =>
            hpieces other (List.mem_cons_of_mem piece hother)
          have hjoin : joinWith [separator] (piece :: next :: others) =
              piece ++ separator :: joinWith [separator] (next :: others) := by
            simp [joinWith_cons_cons]
          calc
            splitOn separator (joinWith [separator] (piece :: next :: others)) =
                splitOn separator piece ++
                  splitOn separator (joinWith [separator] (next :: others)) := by
              rw [hjoin]
              exact splitWhere_append_cons piece _ (beq_self_eq_true separator)
            _ = piece :: next :: others := by rw [splitOn_of_not_mem hpiece, hrest]; rfl

/-- Joined pieces get no longer if none of the pieces does. -/
theorem length_joinWith_map_le (separator : Text) {pieces : List Text} {change : Text → Text}
    (hchange : ∀ piece ∈ pieces, (change piece).length ≤ piece.length) :
    (joinWith separator (pieces.map change)).length ≤ (joinWith separator pieces).length := by
  induction pieces with
  | nil => exact Nat.le_refl _
  | cons piece rest ih =>
      have hpiece := hchange piece List.mem_cons_self
      have hrest := ih fun other hother => hchange other (List.mem_cons_of_mem piece hother)
      cases rest with
      | nil => simpa [joinWith] using hpiece
      | cons next others =>
          rw [List.map_cons, List.map_cons, joinWith_cons_cons, joinWith_cons_cons]
          rw [List.map_cons] at hrest
          simp only [List.length_append]
          omega

theorem length_flatMap_le {texts : List Text} {change : Text → Text}
    (hchange : ∀ text ∈ texts, (change text).length ≤ text.length) :
    (texts.flatMap change).length ≤ texts.flatten.length := by
  induction texts with
  | nil => exact Nat.le_refl _
  | cons text rest ih =>
      rw [List.flatMap_cons, List.flatten_cons, List.length_append, List.length_append]
      exact Nat.add_le_add (hchange text List.mem_cons_self)
        (ih fun other hother => hchange other (List.mem_cons_of_mem text hother))

/-- Texts none of which gets longer are together what they were only if each is what it was. -/
theorem eq_of_flatMap_eq_flatten {texts : List Text} {change : Text → Text}
    (hchange : ∀ text ∈ texts, (change text).length ≤ text.length)
    (hsame : texts.flatMap change = texts.flatten) : ∀ text ∈ texts, change text = text := by
  induction texts with
  | nil => simp
  | cons text rest ih =>
      have hrest : ∀ other ∈ rest, (change other).length ≤ other.length :=
        fun other hother => hchange other (List.mem_cons_of_mem text hother)
      have hfirst := hchange text List.mem_cons_self
      have hothers := length_flatMap_le hrest
      rw [List.flatMap_cons, List.flatten_cons] at hsame
      have hlength := congrArg List.length hsame
      rw [List.length_append, List.length_append] at hlength
      obtain ⟨htext, hsame⟩ := List.append_inj hsame (by omega)
      rintro other (_ | ⟨_, hother⟩)
      · exact htext
      · exact ih hrest hsame other hother

theorem mem_of_mem_joinWith {separator : Text} {pieces : List Text} {character : Char}
    (hmem : character ∈ joinWith separator pieces) :
    character ∈ separator ∨ ∃ piece ∈ pieces, character ∈ piece := by
  induction pieces with
  | nil => simp [joinWith] at hmem
  | cons piece rest ih =>
      cases rest with
      | nil => exact .inr ⟨piece, List.mem_cons_self, by simpa [joinWith] using hmem⟩
      | cons next others =>
          rw [joinWith_cons_cons] at hmem
          rcases List.mem_append.mp hmem with hmem | hmem
          · rcases List.mem_append.mp hmem with hmem | hmem
            · exact .inr ⟨piece, List.mem_cons_self, hmem⟩
            · exact .inl hmem
          · rcases ih hmem with hmem | ⟨other, hother, hmem⟩
            · exact .inl hmem
            · exact .inr ⟨other, List.mem_cons_of_mem piece hother, hmem⟩

/-- A blank in front of a text does not show once its pieces are trimmed. -/
theorem map_trim_splitOn_cons {separator first : Char} (hseparator : isBlank separator = false)
    (hfirst : isBlank first = true) (text : Text) :
    (splitOn separator (first :: text)).map trim = (splitOn separator text).map trim := by
  let separates : Char → Bool := (· == separator)
  have hnot : separates first = false :=
    beq_eq_false_iff_ne.mpr fun heq => by simp [heq, hseparator] at hfirst
  obtain ⟨piece, pieces, hsplit, hcons⟩ := splitWhere_cons_of_not_separates hnot text
  have hpiece : trim (first :: piece) = trim piece := by
    rw [← trim_dropWhile, List.dropWhile_cons_of_pos hfirst, trim_dropWhile]
  change (splitWhere separates (first :: text)).map trim = (splitWhere separates text).map trim
  rw [hcons, hsplit, List.map_cons, List.map_cons, hpiece]

/-- Blanks at the ends of a text do not show once its pieces are trimmed. -/
theorem map_trim_splitOn_trim {separator : Char} (hseparator : isBlank separator = false)
    (text : Text) :
    (splitOn separator text.trim).map trim = (splitOn separator text).map trim := by
  have hfront : (splitOn separator (text.dropWhile isBlank)).map trim =
      (splitOn separator text).map trim := by
    induction text with
    | nil => rfl
    | cons first rest ih =>
        cases hfirst : isBlank first with
        | false => simp [hfirst]
        | true =>
            rw [List.dropWhile_cons_of_pos hfirst, ih, map_trim_splitOn_cons hseparator hfirst]
  obtain ⟨tail, hparts, htail⟩ := exists_eq_trimEndWhere_append isBlank (text.dropWhile isBlank)
  obtain ⟨before, last, hpieces⟩ := exists_splitOn_eq_concat separator text.trim
  have hback : splitOn separator (text.trim ++ tail) = before ++ [last ++ tail] := by
    have hnone : ∀ character ∈ tail, (character == separator) = false := by
      intro character hmem
      rw [beq_eq_false_iff_ne]
      rintro rfl
      simp [htail character hmem] at hseparator
    rw [splitOn, splitWhere_append_of_none _ hnone, ← splitOn, hpieces]
    simp
  rw [← hfront, hparts, ← trimWhere, ← trim, hback, hpieces]
  simp [trim_append_of_blank htail]

/-- The words on both sides of a blank come one after the other. -/
theorem words_append_cons (left right : Text) {character : Char}
    (hblank : isBlank character = true) :
    words (left ++ character :: right) = words left ++ words right := by
  rw [words, splitWhere_append_cons left right hblank, List.filter_append, ← words, ← words]

/-- A text without blanks is its only word. -/
theorem words_of_not_blank {text : Text} (hne : text ≠ [])
    (hblank : ∀ character ∈ text, isBlank character = false) : words text = [text] := by
  rw [words, splitWhere_of_none hblank]
  simpa using hne

/-- Words with a space in between are the words of their joined text. -/
theorem words_joinWith {tokens : List Text}
    (htokens : ∀ token ∈ tokens, token ≠ [] ∧ ∀ character ∈ token, isBlank character = false) :
    words (joinWith " " tokens) = tokens := by
  induction tokens with
  | nil => rfl
  | cons token rest ih =>
      obtain ⟨hne, hblank⟩ := htokens token List.mem_cons_self
      have hrest := ih fun other hother => htokens other (List.mem_cons_of_mem token hother)
      have htoken := words_of_not_blank hne hblank
      cases rest with
      | nil => simpa [joinWith] using htoken
      | cons next others =>
          have hjoin : joinWith " " (token :: next :: others) =
              token ++ ' ' :: joinWith " " (next :: others) := by
            simp [joinWith_cons_cons]
          rw [hjoin, words_append_cons _ _ isBlank_space, htoken, hrest]
          rfl

/-- Words with a space in between begin and end in no blank. -/
theorem trim_joinWith {tokens : List Text}
    (htokens : ∀ token ∈ tokens, token ≠ [] ∧ ∀ character ∈ token, isBlank character = false) :
    trim (joinWith " " tokens) = joinWith " " tokens := by
  induction tokens with
  | nil => rfl
  | cons token rest ih =>
      obtain ⟨hne, hblank⟩ := htokens token List.mem_cons_self
      have hrest := ih fun other hother => htokens other (List.mem_cons_of_mem token hother)
      cases rest with
      | nil => simpa [joinWith] using trim_of_not_blank hblank
      | cons next others =>
          have hjoin : joinWith " " (token :: next :: others) =
              token ++ ' ' :: joinWith " " (next :: others) := by
            simp [joinWith_cons_cons]
          obtain ⟨first, middle, rfl⟩ := List.exists_cons_of_ne_nil hne
          have hnext : joinWith " " (next :: others) ≠ [] := by
            have hwords := words_joinWith fun other hother =>
              htokens other (List.mem_cons_of_mem _ hother)
            intro hnil
            rw [hnil] at hwords
            simp [words] at hwords
          obtain ⟨init, last, hlast, hstays⟩ := exists_concat_of_trim hnext hrest
          have h := trim_append_of_not_blank [] (middle ++ ' ' :: init)
            (hblank first List.mem_cons_self) hstays
          rw [hjoin, hlast]
          simpa using h

end Splitting

end LineShell.Text
