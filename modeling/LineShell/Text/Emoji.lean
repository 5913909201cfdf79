import LineShell.Text.Blank
import LineShell.Text.Case
import LineShell.Text.EmojiTable

/-!
# Emoji codes

A code is the name of an emoji between colons, in any letter case.  The name may be followed by the
form that is asked for, the one of text or the one of a picture.
-/

namespace LineShell.Emoji

/-- The value of a hexadecimal digit. -/
def hexValue (digit : Char) : Nat :=
  if digit.isDigit then digit.toNat - 0x30 else digit.toNat - 0x41 + 10

/-- The character of a code point in hexadecimal. -/
def characterOf (digits : Text) : Char :=
  Char.ofNat (digits.foldl (fun number digit => 16 * number + hexValue digit) 0)

/-- The emoji of a name, if this is its row. -/
def ofRow? (name row : Text) : Option Text :=
  if Text.startsWith row (name ++ ":") then
    some ((Text.splitOn '-' (row.drop (name.length + 1))).map characterOf)
  else none

/-- The emoji of a name. -/
def find? (name : Text) : Option Text :=
  rowLines.findSome? fun line => (Text.splitOn ' ' line.toList).findSome? (ofRow? name)

/-- The forms of an emoji that can be asked for, each by the ending of a code, and their selectors.
-/
def forms : List (Text × Char) :=
  [("-emoji", '\uFE0F'), ("-text", '\uFE0E')]

/-- The name in a code, and the selector of the form that the code asks for. -/
def nameAndForm (code : Text) : Text × Text :=
  match forms.find? fun (ending, _) => Text.endsWith code ending with
  | some (ending, selector) => (code.take (code.length - ending.length), [selector])
  | none => (code, [])

/-- The emoji that a code stands for. -/
def meaning? (code : Text) : Option Text :=
  let (name, form) := nameAndForm code
  (find? name.lower).map (· ++ form)

/-- The code whose second colon is the next one, if there is no white space before it. -/
def codeBefore? (text : Text) : Option Text :=
  let code := text.takeWhile fun character => character != ':' && !isBlank character
  if text[code.length]? = some ':' then some code else none

/-- A text with emoji for their codes.  Between two colons that belong together a code ends in any
case, so a colon that closes something unknown opens nothing. -/
def replaceCodes (text : Text) : Text :=
  match text with
  | [] => []
  | character :: rest =>
      if character = ':' then
        match codeBefore? rest with
        | some code =>
            (meaning? code).getD (':' :: code ++ [':']) ++
              replaceCodes (rest.drop (code.length + 1))
        | none => character :: replaceCodes rest
      else character :: replaceCodes rest
termination_by text.length
decreasing_by all_goals simp only [List.length_drop, List.length_cons]; omega

end LineShell.Emoji
