/-!
# Text

Text is a list of characters.  This module has the splitting, joining and trimming that the rest of
the library shares; each takes the class of characters it works with as an argument.
-/

namespace LineShell

/-- A piece of text, read as its sequence of characters. -/
abbrev Text := List Char

instance : Coe String Text := ⟨String.toList⟩

namespace Text

/-- The pieces of a text between the characters of a class.  There is always at least one piece. -/
def splitWhere (separates : Char → Bool) : Text → List Text
  | [] => [[]]
  | character :: rest =>
      if separates character then
        [] :: splitWhere separates rest
      else
        match splitWhere separates rest with
        | [] => [[character]]
        | piece :: pieces => (character :: piece) :: pieces

/-- The pieces of a text between the occurrences of one character. -/
def splitOn (separator : Char) (text : Text) : List Text :=
  splitWhere (· == separator) text

/-- The pieces written one after the other with a separator in between. -/
def joinWith (separator : Text) (pieces : List Text) : Text :=
  List.intercalate separator pieces

/-- The text without the run of characters of a class that ends it. -/
def trimEndWhere (trims : Char → Bool) (text : Text) : Text :=
  (text.reverse.dropWhile trims).reverse

/-- The text without the runs of characters of a class that begin and end it. -/
def trimWhere (trims : Char → Bool) (text : Text) : Text :=
  trimEndWhere trims (text.dropWhile trims)

/-- Whether a text begins with another one. -/
def startsWith (text start : Text) : Bool :=
  start.isPrefixOf text

/-- Whether a text ends with another one. -/
def endsWith (text ending : Text) : Bool :=
  ending.isSuffixOf text

/-- Whether a text has another one somewhere inside. -/
def includes (inner : Text) : Text → Bool
  | [] => inner.isEmpty
  | character :: rest => inner.isPrefixOf (character :: rest) || includes inner rest

/-- The text followed by as many spaces as bring it to a width; longer text is left alone. -/
def padEnd (width : Nat) (text : Text) : Text :=
  text ++ List.replicate (width - text.length) ' '

/-- Whether two texts stand in ascending order, character by character and by code point. -/
def inOrder : Text → Text → Bool
  | [], _ => true
  | _ :: _, [] => false
  | left :: lefts, right :: rights =>
      left.toNat < right.toNat || (left == right && inOrder lefts rights)

/-- Whether the null character occurs, which no path handed to the operating system may hold. -/
def hasNull (text : Text) : Bool :=
  text.contains '\x00'

/-- The text of a natural number in decimal. -/
def ofNat (number : Nat) : Text :=
  Nat.toDigits 10 number

@[simp]
theorem splitWhere_nil (separates : Char → Bool) : splitWhere separates [] = [[]] := rfl

theorem splitWhere_ne_nil (separates : Char → Bool) (text : Text) :
    splitWhere separates text ≠ [] := by
  cases text with
  | nil => simp
  | cons character rest =>
      simp only [splitWhere]
      split
      · simp
      · split <;> simp

/-- A separator ends a piece. -/
theorem splitWhere_cons_of_separates {separates : Char → Bool} {character : Char}
    (h : separates character = true) (rest : Text) :
    splitWhere separates (character :: rest) = [] :: splitWhere separates rest := by
  simp [splitWhere, h]

/-- Any other character goes to the front of the first piece. -/
theorem splitWhere_cons_of_not_separates {separates : Char → Bool} {character : Char}
    (h : separates character = false) (rest : Text) :
    ∃ piece pieces, splitWhere separates rest = piece :: pieces ∧
      splitWhere separates (character :: rest) = (character :: piece) :: pieces := by
  obtain ⟨piece, pieces, hsplit⟩ := List.exists_cons_of_ne_nil (splitWhere_ne_nil separates rest)
  exact ⟨piece, pieces, hsplit, by simp [splitWhere, h, hsplit]⟩

/-- The pieces hold what is no separator, in the order of the text. -/
theorem flatten_splitWhere (separates : Char → Bool) (text : Text) :
    (splitWhere separates text).flatten = text.filter (!separates ·) := by
  induction text with
  | nil => rfl
  | cons first rest ih =>
      cases hfirst : separates first with
      | true => simp [splitWhere_cons_of_separates hfirst, hfirst, ih]
      | false =>
          obtain ⟨head, pieces, hsplit, hcons⟩ := splitWhere_cons_of_not_separates hfirst rest
          rw [hsplit] at ih
          simpa [hcons, hfirst] using ih

theorem mem_filter_of_mem_splitWhere {separates : Char → Bool} {text piece : Text}
    (hpiece : piece ∈ splitWhere separates text) {character : Char}
    (hcharacter : character ∈ piece) : character ∈ text.filter (!separates ·) :=
  flatten_splitWhere separates text ▸ List.mem_flatten_of_mem hpiece hcharacter

/-- No piece has a separator in it. -/
theorem separates_eq_false_of_mem_splitWhere {separates : Char → Bool} {text piece : Text}
    (hpiece : piece ∈ splitWhere separates text) {character : Char}
    (hcharacter : character ∈ piece) : separates character = false := by
  simpa using (List.mem_filter.mp (mem_filter_of_mem_splitWhere hpiece hcharacter)).2

theorem mem_of_mem_splitWhere {separates : Char → Bool} {text piece : Text}
    (hpiece : piece ∈ splitWhere separates text) {character : Char}
    (hcharacter : character ∈ piece) : character ∈ text :=
  (List.mem_filter.mp (mem_filter_of_mem_splitWhere hpiece hcharacter)).1

/-- There is one piece more than there are separators. -/
theorem length_splitWhere (separates : Char → Bool) (text : Text) :
    (splitWhere separates text).length = text.countP separates + 1 := by
  induction text with
  | nil => rfl
  | cons first rest ih =>
      cases hfirst : separates first with
      | true => simp [splitWhere_cons_of_separates hfirst, hfirst, ih]
      | false =>
          obtain ⟨head, pieces, hsplit, hcons⟩ := splitWhere_cons_of_not_separates hfirst rest
          rw [hsplit] at ih
          simpa [hcons, hfirst] using ih

/-- Joining the pieces with the character they were split at gives the text back. -/
theorem joinWith_splitOn (separator : Char) (text : Text) :
    joinWith [separator] (splitOn separator text) = text := by
  let separates : Char → Bool := (· == separator)
  change List.intercalate [separator] (splitWhere separates text) = text
  induction text with
  | nil => rfl
  | cons first rest ih =>
      cases hfirst : separates first with
      | true =>
          obtain ⟨head, pieces, hsplit⟩ :=
            List.exists_cons_of_ne_nil (splitWhere_ne_nil separates rest)
          have hsame : first = separator := by simpa [separates] using hfirst
          rw [hsplit] at ih
          rw [splitWhere_cons_of_separates hfirst, hsplit, List.intercalate_cons_cons, ih, hsame]
          rfl
      | false =>
          obtain ⟨head, pieces, hsplit, hcons⟩ := splitWhere_cons_of_not_separates hfirst rest
          rw [hsplit] at ih
          rw [hcons]
          cases pieces with
          | nil => simpa [List.intercalate] using ih
          | cons next others =>
              rw [List.intercalate_cons_cons] at ih ⊢
              simpa using ih

end Text

end LineShell
