import LineShell.Proofs.Text.Pieces

/-!
# Words and the parts around a sign

Lines are cut at the first or the last occurrence of a sign, and what is left is read as words.
These lemmas say which part a piece of the text is, and that neither trimming nor what is written in
front of a text takes words away from it.
-/

namespace LineShell.Text

/-- What stands behind the last occurrence of a sign; all of a text that does not have it. -/
def behindLast (sign : Char) (text : Text) : Text :=
  text.rtakeWhile (· != sign)

/-- What stands in front of the first occurrence of a sign; all of a text that does not have it. -/
def beforeFirst (sign : Char) (text : Text) : Text :=
  text.takeWhile (· != sign)

section Ends

variable {sign : Char} {text : Text}

theorem behindLast_of_not_mem (hsign : sign ∉ text) : behindLast sign text = text :=
  List.rtakeWhile_eq_self_iff.mpr fun _ hmem => bne_iff_ne.mpr fun heq => hsign (heq ▸ hmem)

theorem not_mem_behindLast (sign : Char) (text : Text) : sign ∉ behindLast sign text :=
  fun hmem => by simpa using List.mem_rtakeWhile_imp hmem

theorem mem_of_mem_behindLast {character : Char} (hmem : character ∈ behindLast sign text) :
    character ∈ text :=
  (List.rtakeWhile_suffix _ _).subset hmem

theorem trim_eq_nil_iff : trim text = [] ↔ ∀ character ∈ text, isBlank character = true := by
  constructor
  · exact fun htrim => List.dropWhile_eq_nil_iff.mp (dropWhile_isBlank_of_trim htrim)
  · intro hblank
    have htail : trim ([] ++ text) = trim [] := trim_append_of_blank hblank
    exact htail

theorem mem_trim_iff (hsign : isBlank sign = false) : sign ∈ trim text ↔ sign ∈ text := by
  refine ⟨mem_of_mem_trim, fun hmem => ?_⟩
  obtain ⟨tail, hparts, htail⟩ := exists_eq_trimEndWhere_append isBlank (text.dropWhile isBlank)
  have hwhole : text = text.takeWhile isBlank ++ (trim text ++ tail) := by
    rw [trim, trimWhere, ← hparts, List.takeWhile_append_dropWhile]
  rw [hwhole, List.mem_append, List.mem_append] at hmem
  rcases hmem with hmem | hmem | hmem
  · simp [List.mem_takeWhile_imp hmem] at hsign
  · exact hmem
  · simp [htail sign hmem] at hsign

/-- Only blanks stand in front of the first sign of a trimmed text just if it begins with the
sign. -/
theorem trim_beforeFirst_eq_nil_iff (htrim : trim text = text) (hmem : sign ∈ text) :
    trim (beforeFirst sign text) = [] ↔ [sign] <+: text := by
  obtain ⟨first, rest, rfl⟩ := List.exists_cons_of_ne_nil (List.ne_nil_of_mem hmem)
  rw [trim_eq_nil_iff, beforeFirst]
  by_cases hfirst : first = sign
  · simp [hfirst]
  · refine iff_of_false (fun hblank => ?_) (by simpa using Ne.symm hfirst)
    rw [List.takeWhile_cons_of_pos (by simpa using hfirst)] at hblank
    have hdrop := dropWhile_isBlank_trim (first :: rest)
    rw [htrim, List.dropWhile_cons_of_pos (hblank first List.mem_cons_self)] at hdrop
    have hlength := (List.dropWhile_suffix (l := rest) isBlank).length_le
    rw [hdrop, List.length_cons] at hlength
    omega

/-- What stands behind the last sign stands behind any other one. -/
theorem behindLast_append_cons (left right : Text) (sign : Char) :
    behindLast sign (left ++ sign :: right) = behindLast sign right := by
  have hparts : (left ++ sign :: right).reverse = right.reverse ++ sign :: left.reverse := by simp
  rw [behindLast, List.rtakeWhile, hparts, List.takeWhile_append,
    List.takeWhile_cons_of_neg (by simp)]
  split <;> rename_i hall
  · rw [List.append_nil, behindLast, List.rtakeWhile]
    rw [(List.takeWhile_prefix _).eq_of_length hall]
  · rfl

/-- The last piece of a text stands behind its last separator. -/
theorem getLastD_splitOn (sign : Char) (text : Text) :
    (splitOn sign text).getLastD [] = behindLast sign text := by
  induction text using List.reverseRecOn with
  | nil => rfl
  | append_singleton init last ih =>
      let separates : Char → Bool := (· == sign)
      change (splitWhere separates init).getLastD [] = _ at ih
      change (splitWhere separates (init ++ [last])).getLastD [] = _
      cases hlast : separates last with
      | true =>
          rw [splitWhere_append_cons init [] hlast, behindLast,
            List.rtakeWhile_concat_neg _ _ _ (by simpa [separates] using hlast)]
          simp
      | false =>
          rw [splitWhere_append_of_none _ (by simpa using hlast), ih, List.getLastD_concat,
            behindLast, behindLast,
            List.rtakeWhile_concat_pos _ _ _ (by simpa [separates] using hlast)]

/-- The first piece of a text stands in front of its first separator. -/
theorem headD_splitOn (sign : Char) (text : Text) :
    (splitOn sign text).headD [] = beforeFirst sign text := by
  rw [beforeFirst]
  induction text with
  | nil => rfl
  | cons first rest ih =>
      let separates : Char → Bool := (· == sign)
      change (splitWhere separates rest).headD [] = _ at ih
      change (splitWhere separates (first :: rest)).headD [] = _
      cases hfirst : separates first with
      | true =>
          rw [splitWhere_cons_of_separates hfirst,
            List.takeWhile_cons_of_neg (by simpa [separates] using hfirst)]
          rfl
      | false =>
          obtain ⟨piece, pieces, hsplit, hcons⟩ := splitWhere_cons_of_not_separates hfirst rest
          rw [hsplit] at ih
          rw [hcons, List.takeWhile_cons_of_pos (by simpa [separates] using hfirst), ← ih]
          rfl

theorem getLastD_map_trim (pieces : List Text) :
    (pieces.map trim).getLastD [] = trim (pieces.getLastD []) := by
  cases pieces using List.reverseRecOn with
  | nil => rfl
  | append_singleton init last => simp

/-- Trimming the whole trims what stands behind the last sign. -/
theorem trim_behindLast_trim (hsign : isBlank sign = false) (text : Text) :
    (behindLast sign text.trim).trim = (behindLast sign text).trim := by
  rw [← getLastD_splitOn, ← getLastD_splitOn, ← getLastD_map_trim, ← getLastD_map_trim,
    map_trim_splitOn_trim hsign]

/-- Trimming the whole trims what stands in front of the first sign. -/
theorem trim_beforeFirst_trim (hsign : isBlank sign = false) (text : Text) :
    (beforeFirst sign text.trim).trim = (beforeFirst sign text).trim := by
  have hhead : ∀ pieces : List Text, (pieces.map trim).headD [] = trim (pieces.headD []) := by
    rintro (_ | ⟨piece, rest⟩) <;> rfl
  rw [← headD_splitOn, ← headD_splitOn, ← hhead, ← hhead, map_trim_splitOn_trim hsign]

theorem includes_iff (inner text : Text) : includes inner text = true ↔ inner <:+: text := by
  induction text with
  | nil => rw [includes, List.isEmpty_iff, List.infix_nil]
  | cons first rest ih =>
      rw [includes, Bool.or_eq_true, List.isPrefixOf_iff_prefix, ih, List.infix_cons_iff]

end Ends

section Words

theorem mem_of_mem_words {text word : Text} (hword : word ∈ text.words) {character : Char}
    (hmem : character ∈ word) : character ∈ text :=
  mem_of_mem_splitWhere (List.mem_of_mem_filter hword) hmem

theorem words_cons_of_blank {first : Char} (hblank : isBlank first = true) (text : Text) :
    words (first :: text) = words text :=
  words_append_cons [] text hblank

/-- A character in front of a text makes no word fewer. -/
theorem length_words_le_cons (first : Char) (text : Text) :
    text.words.length ≤ (words (first :: text)).length := by
  cases hfirst : isBlank first with
  | true => rw [words_cons_of_blank hfirst]
  | false =>
      obtain ⟨piece, pieces, hsplit, hcons⟩ := splitWhere_cons_of_not_separates hfirst text
      rw [words, words, hcons, hsplit]
      cases piece <;> simp

/-- A text has no more words than one that ends in it. -/
theorem length_words_le_of_suffix {tail text : Text} (hsuffix : tail <:+ text) :
    tail.words.length ≤ text.words.length := by
  obtain ⟨front, rfl⟩ := hsuffix
  induction front with
  | nil => rfl
  | cons first rest ih => exact ih.trans (length_words_le_cons first _)

theorem words_eq_nil_of_blank {text : Text}
    (hblank : ∀ character ∈ text, isBlank character = true) : words text = [] := by
  induction text with
  | nil => rfl
  | cons first rest ih =>
      rw [words_cons_of_blank (hblank first List.mem_cons_self)]
      exact ih fun character hmem => hblank character (List.mem_cons_of_mem first hmem)

/-- Trimming a text keeps its words. -/
theorem words_trim (text : Text) : text.trim.words = text.words := by
  have hfront : words (text.dropWhile isBlank) = text.words := by
    induction text with
    | nil => rfl
    | cons first rest ih =>
        cases hfirst : isBlank first with
        | false => simp [hfirst]
        | true => rw [List.dropWhile_cons_of_pos hfirst, ih, words_cons_of_blank hfirst]
  obtain ⟨tail, hparts, htail⟩ := exists_eq_trimEndWhere_append isBlank (text.dropWhile isBlank)
  rw [← hfront, hparts]
  change text.trim.words = words (text.trim ++ tail)
  cases tail with
  | nil => rw [List.append_nil]
  | cons first rest =>
      have hrest : words rest = [] := words_eq_nil_of_blank fun character hmem =>
        htail character (List.mem_cons_of_mem first hmem)
      rw [words_append_cons _ _ (htail first List.mem_cons_self), hrest, List.append_nil]

/-- A word: it is not empty, and neither white space nor a pipe sign is in it. -/
def IsWord (word : Text) : Prop :=
  word ≠ [] ∧ ∀ character ∈ word, isBlank character = false ∧ character ≠ '|'

theorem isWord_of_mem_words {text word : Text} (hpipe : '|' ∉ text) (hword : word ∈ text.words) :
    IsWord word := by
  obtain ⟨hne, hblank⟩ := ne_nil_and_not_blank_of_mem_words hword
  exact ⟨hne, fun character hmem =>
    ⟨hblank character hmem, fun heq => hpipe (heq ▸ mem_of_mem_words hword hmem)⟩⟩

end Words

/-! ### A word in front of a text -/

section Leading

variable {word tail : Text} {sign : Char}

/-- Only the blanks in front of a word and those that end the text are trimmed. -/
theorem trim_append_word {blanks : Text} (hblanks : ∀ character ∈ blanks, isBlank character = true)
    (hne : word ≠ []) (hword : ∀ character ∈ word, isBlank character = false) (tail : Text) :
    trim (blanks ++ word ++ tail) = word ++ trimEndWhere isBlank tail := by
  obtain ⟨first, rest, rfl⟩ := List.exists_cons_of_ne_nil hne
  have hfront : (blanks ++ first :: rest ++ tail).dropWhile isBlank = first :: rest ++ tail := by
    rw [List.append_assoc, List.dropWhile_append_of_pos hblanks, List.cons_append,
      List.dropWhile_cons_of_neg (by simp [hword first List.mem_cons_self])]
  have hback : (first :: rest).reverse.dropWhile isBlank = (first :: rest).reverse := by
    rw [List.dropWhile_eq_self_iff]
    intro hlength
    exact Bool.eq_false_iff.mp (hword _ (List.mem_reverse.mp (List.getElem_mem hlength)))
  rw [trim, trimWhere, hfront, trimEndWhere, trimEndWhere, List.reverse_append, List.dropWhile_append]
  split <;> rename_i hempty
  · rw [hback, List.isEmpty_iff.mp hempty]
    simp
  · simp

/-- What is left of a text begins as the text does. -/
theorem head?_trimEndWhere {trims : Char → Bool} {first : Char}
    (h : (trimEndWhere trims tail).head? = some first) : tail.head? = some first := by
  obtain ⟨rest, hrest⟩ := List.head?_eq_some_iff.mp h
  obtain ⟨ending, hparts, -⟩ := exists_eq_trimEndWhere_append trims tail
  rw [hparts, hrest]
  rfl

/-- A word that a blank ends is the first one. -/
theorem words_append_word (hne : word ≠ []) (hword : ∀ character ∈ word, isBlank character = false)
    (htail : ∀ first ∈ tail.head?, isBlank first = true) :
    words (word ++ tail) = word :: words tail := by
  cases tail with
  | nil =>
      rw [List.append_nil, words_of_not_blank hne hword]
      rfl
  | cons first rest =>
      have hfirst := htail first rfl
      rw [words_append_cons _ _ hfirst, words_of_not_blank hne hword, words_cons_of_blank hfirst]
      rfl

theorem beforeFirst_append (hsign : sign ∉ word) (tail : Text) :
    beforeFirst sign (word ++ tail) = word ++ beforeFirst sign tail :=
  List.takeWhile_append_of_pos fun _ hmem => bne_iff_ne.mpr fun heq => hsign (heq ▸ hmem)

theorem behindLast_append (word : Text) (hsign : sign ∈ tail) :
    behindLast sign (word ++ tail) = behindLast sign tail := by
  obtain ⟨left, right, rfl⟩ := List.append_of_mem hsign
  rw [← List.append_assoc, behindLast_append_cons, behindLast_append_cons]

/-- A sign that begins a text is not in a word without it. -/
theorem includes_append {others : Text} (hsign : sign ∉ word) (tail : Text) :
    includes (sign :: others) (word ++ tail) = includes (sign :: others) tail := by
  induction word with
  | nil => rfl
  | cons first rest ih =>
      obtain ⟨hfirst, hrest⟩ := not_or.mp (mt List.mem_cons.mpr hsign)
      rw [List.cons_append, includes, ih hrest]
      simp [List.isPrefixOf, hfirst]

end Leading

end LineShell.Text
