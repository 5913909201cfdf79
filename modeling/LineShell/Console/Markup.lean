import LineShell.Console.Style
import LineShell.Text.Emoji

/-!
# Markup

Text with tags in square brackets that open and close styles.  What is left of it where no styles
can be shown is the text without its tags, provided that every tag that closes something finds what
it closes.
-/

namespace LineShell

namespace Markup

/-- What stands between the brackets of a tag: a name and, after an equals sign, parameters. -/
structure Tag where
  name : Text
  parameters : Option Text := none
  deriving DecidableEq

namespace Tag

/-- The tag of what stands between the brackets. -/
def ofContent (content : Text) : Tag :=
  match content.dropWhile (· != '=') with
  | [] => { name := content }
  | _ :: parameters => { name := content.takeWhile (· != '='), parameters := some parameters }

/-- A tag as it is written. -/
def written (tag : Tag) : Text :=
  "[" ++ tag.name ++ (tag.parameters.elim [] ('=' :: ·)) ++ "]"

end Tag

/-- Why a tag cannot be taken. -/
inductive Fault where
  /-- A tag at a position, counted in characters, closes what was not opened. -/
  | unmatched (tag : Tag) (position : Nat)
  /-- A tag at a position closes the last style where none is open. -/
  | nothingOpen (position : Nat)
  /-- The style of a tag has a color with a part that is no number. -/
  | badNumber (fault : Digits.Fault)
  deriving DecidableEq

/-- The wording of a refused tag. -/
def Fault.message : Fault → Text
  | .unmatched tag position =>
      "closing tag '" ++ tag.written ++ "' at position " ++ Text.ofNat position ++
        " doesn't match any open tag"
  | .nothingOpen position =>
      "closing tag '[/]' at position " ++ Text.ofNat position ++ " has nothing to close"
  | .badNumber fault => fault.message

/-- What markup consists of. -/
inductive Piece where
  | text (content : Text)
  | tag (position : Nat) (tag : Tag)
  deriving DecidableEq

/-- Whether what stands between brackets can begin with a character. -/
def startsTag (character : Char) : Bool :=
  character.isLower || character == '#' || character == '/' || character == '@'

/-- What stands between the brackets that a text begins with, if it is a tag. -/
def content? (text : Text) : Option Text :=
  match text with
  | '[' :: first :: rest =>
      let inner := rest.takeWhile fun character => character != '[' && character != ']'
      if startsTag first && rest[inner.length]? == some ']' then some (first :: inner) else none
  | _ => none

/-- The pieces of what stands between brackets after so many backslashes.  Two backslashes are one,
and a single one makes the tag a text. -/
def tagPieces (position slashes : Nat) (content : Text) : List Piece :=
  let literal : List Piece :=
    if slashes < 2 then [] else [.text (List.replicate (slashes / 2) '\\')]
  literal ++
    if slashes % 2 = 1 then [.text ('[' :: content ++ [']'])]
    else [.tag (position + slashes) (Tag.ofContent content)]

/-- The pieces of a text that begins at a position, after characters of a piece of text, the last
one first. -/
def pieces (position : Nat) (before : Text) (text : Text) : List Piece :=
  let pending : List Piece := if before.isEmpty then [] else [.text before.reverse]
  match text with
  | [] => pending
  | character :: rest =>
      let slashes := ((character :: rest).takeWhile (· == '\\')).length
      match content? ((character :: rest).drop slashes) with
      | some content =>
          let length := slashes + (content.length + 2)
          pending ++ tagPieces position slashes content ++
            pieces (position + length) [] ((character :: rest).drop length)
      | none => pieces (position + 1) (character :: before) rest
termination_by text.length
decreasing_by all_goals simp only [List.length_drop, List.length_cons]; omega

/-- A text without the backslashes before brackets. -/
def unescape : Text → Text
  | '\\' :: '[' :: rest => '[' :: unescape rest
  | character :: rest => character :: unescape rest
  | [] => []

/-- The open styles, the last one first, without the last one of a name. -/
def close? (name : Text) : List Text → Option (List Text)
  | [] => none
  | top :: rest => if top = name then some rest else (close? name rest).map (top :: ·)

/-- The open styles after a tag. -/
def applyTag (opened : List Text) (position : Nat) (tag : Tag) : Except Fault (List Text) :=
  let normalize := fun name => (Style.normalize name).mapError Fault.badNumber
  match tag.name with
  | '/' :: name =>
      if (Text.trim name).isEmpty then
        match opened with
        | [] => .error (.nothingOpen position)
        | _ :: rest => .ok rest
      else do
        match close? (← normalize (Text.trim name)) opened with
        | some rest => .ok rest
        | none => .error (.unmatched tag position)
  | name => do return (← normalize name) :: opened

/-- The text of pieces, where some styles are open. -/
def textOf (opened : List Text) : List Piece → Except Fault Text
  | [] => .ok []
  | .text content :: rest => do
      return Emoji.replaceCodes (unescape content) ++ (← textOf opened rest)
  | .tag position tag :: rest => do textOf (← applyTag opened position tag) rest

/-- The text that is left of markup. -/
def plain (markup : Text) : Except Fault Text :=
  textOf [] (pieces 0 [] markup)

end Markup

end LineShell
