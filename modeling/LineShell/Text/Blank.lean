import LineShell.Text.Basic

/-!
# Blank characters

White space in the sense of the Unicode bidirectional classes WS, B and S, which is what separates
words and is trimmed from the ends of lines.  The zero-width space and the byte order mark do not
count.
-/

namespace LineShell

/-- Whether a character is white space. -/
def isBlank (character : Char) : Bool :=
  let code := character.toNat
  (0x09 ≤ code && code ≤ 0x0D) || (0x1C ≤ code && code ≤ 0x20) || code == 0x85 || code == 0xA0 ||
    code == 0x1680 || (0x2000 ≤ code && code ≤ 0x200A) || code == 0x2028 || code == 0x2029 ||
    code == 0x202F || code == 0x205F || code == 0x3000

/-- The text without the white space at both ends. -/
def Text.trim (text : Text) : Text :=
  Text.trimWhere isBlank text

/-- The maximal runs of characters that are not white space. -/
def Text.words (text : Text) : List Text :=
  (Text.splitWhere isBlank text).filter fun word => !word.isEmpty

/-- Whether a text is empty or holds white space only. -/
def Text.isBlankText (text : Text) : Bool :=
  text.all isBlank

/-- A word is not empty and has no white space in it. -/
theorem ne_nil_and_not_blank_of_mem_words {text word : Text} (h : word ∈ text.words) :
    word ≠ [] ∧ ∀ character ∈ word, isBlank character = false := by
  obtain ⟨hpiece, hempty⟩ := List.mem_filter.mp h
  refine ⟨by simpa using hempty, fun character hcharacter => ?_⟩
  exact Text.separates_eq_false_of_mem_splitWhere hpiece hcharacter

end LineShell
