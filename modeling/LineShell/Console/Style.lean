import LineShell.Console.ColorTable
import LineShell.Text.Case
import LineShell.Text.Digits

/-!
# Styles

A style is written in words: kinds of emphasis, a color, a color of the background and a link.
Styles that look alike have one normal form, whatever words they are written in.
-/

namespace LineShell

namespace Color

/-- The names of colors. -/
def names : List Text :=
  "default" :: nameLines.flatMap fun line => Text.splitOn ' ' line.toList

/-- The text between a beginning and a closing parenthesis. -/
def inParentheses? (beginning word : Text) : Option Text :=
  if Text.startsWith word beginning && Text.endsWith word ")" then
    some ((word.drop beginning.length).dropLast)
  else none

/-- Whether a word is a number sign and six hexadecimal digits. -/
def isHexadecimal (word : Text) : Bool :=
  match word with
  | '#' :: digits =>
      digits.length == 6 &&
        digits.all fun digit => digit.isDigit || ('a' ≤ digit && digit ≤ 'f')
  | _ => false

/-- Whether a word is a color by its number, which is at most 255. -/
def isNumbered (word : Text) : Bool :=
  match inParentheses? "color(" word with
  | some digits =>
      !digits.isEmpty && digits.length ≤ 3 && digits.all Char.isDigit &&
        (digits.mapM Digits.value?).any fun values => Digits.ofDigits values ≤ 255
  | none => false

/-- The parts of red, green and blue in a word, as far as they are written with digits. -/
def parts? (word : Text) : Option (List Text) :=
  match inParentheses? "rgb(" word with
  | some inner =>
      if !inner.isEmpty && inner.all fun character =>
          character == ',' || (Digits.value? character).isSome then
        some (Text.splitOn ',' inner)
      else none
  | none => none

/-- Whether a word in small letters is a color.  It is refused if it has a part of red, green or
blue that is no number. -/
def recognize (word : Text) : Except Digits.Fault Bool :=
  if names.contains word || isHexadecimal word || isNumbered word then .ok true
  else
    match parts? word with
    | some [red, green, blue] => do
        let parts ← [red, green, blue].mapM Digits.decimal
        return parts.all (· ≤ 255)
    | _ => .ok false

end Color

/-- What a style can switch on or off. -/
inductive Emphasis where
  | bold
  | dim
  | italic
  | underline
  | blink
  | fastBlink
  | reverse
  | conceal
  | strike
  | doubleUnderline
  | frame
  | encircle
  | overline
  deriving DecidableEq

namespace Emphasis

/-- All kinds of emphasis in the order of the normal form. -/
def all : List Emphasis :=
  [ .bold, .dim, .italic, .underline, .blink, .fastBlink, .reverse, .conceal, .strike,
    .doubleUnderline, .frame, .encircle, .overline]

/-- The names of a kind of emphasis, the one of the normal form first. -/
def names : Emphasis → List Text
  | .bold => ["bold", "b"]
  | .dim => ["dim", "d"]
  | .italic => ["italic", "i"]
  | .underline => ["underline", "u"]
  | .blink => ["blink"]
  | .fastBlink => ["blink2"]
  | .reverse => ["reverse", "r"]
  | .conceal => ["conceal", "c"]
  | .strike => ["strike", "s"]
  | .doubleUnderline => ["underline2", "uu"]
  | .frame => ["frame"]
  | .encircle => ["encircle"]
  | .overline => ["overline", "o"]

/-- The kind of emphasis of a name. -/
def ofName? (name : Text) : Option Emphasis :=
  all.find? fun emphasis => emphasis.names.contains name

end Emphasis

/-- What a text looks like. -/
structure Style where
  /-- The kinds of emphasis that are switched; of several switches of one kind the first here
  counts. -/
  switches : List (Emphasis × Bool) := []
  color : Option Text := none
  background : Option Text := none
  link : Option Text := none
  deriving DecidableEq

namespace Style

/-- Why words make no style. -/
inductive Fault where
  /-- A word has no meaning where it stands. -/
  | meaningless
  /-- A color has a part that is no number. -/
  | badNumber (fault : Digits.Fault)
  deriving DecidableEq

/-- A word as the name of a color. -/
def colorOf (word : Text) : Except Fault Text :=
  match Color.recognize word.lower with
  | .error fault => .error (.badNumber fault)
  | .ok true => .ok word.lower
  | .ok false => .error .meaningless

/-- The style with a kind of emphasis switched. -/
def switch (style : Style) (emphasis : Emphasis) (isOn : Bool) : Style :=
  { style with switches := (emphasis, isOn) :: style.switches }

/-- A style with what words add to it. -/
def addWords (style : Style) : List Text → Except Fault Style
  | [] => .ok style
  | [word] =>
      match Emphasis.ofName? word.lower with
      | some emphasis => .ok (style.switch emphasis true)
      | none => do return { style with color := some (← colorOf word) }
  | word :: next :: rest =>
      if word.lower = "on" then do
        addWords { style with background := some (← colorOf next) } rest
      else if word.lower = "not" then
        match Emphasis.ofName? next with
        | some emphasis => addWords (style.switch emphasis false) rest
        | none => .error .meaningless
      else if word.lower = "link" then addWords { style with link := some next } rest
      else
        match Emphasis.ofName? word.lower with
        | some emphasis => addWords (style.switch emphasis true) (next :: rest)
        | none => do addWords { style with color := some (← colorOf word) } (next :: rest)

/-- The style that a text names. -/
def ofText (text : Text) : Except Fault Style :=
  if text.trim = "none" then .ok {} else addWords {} text.words

/-- How the normal form has a kind of emphasis. -/
def switchWords (style : Style) (emphasis : Emphasis) : List Text :=
  match style.switches.lookup emphasis with
  | some true => emphasis.names.take 1
  | some false => "not" :: emphasis.names.take 1
  | none => []

/-- The words of the normal form. -/
def words (style : Style) : List Text :=
  Emphasis.all.flatMap style.switchWords ++ style.color.toList ++
    (style.background.elim [] fun color : Text => ["on".toList, color]) ++
    (style.link.elim [] fun target : Text => ["link".toList, target])

/-- The normal form of a style. -/
def normalForm (style : Style) : Text :=
  if style.words.isEmpty then "none" else Text.joinWith " " style.words

/-- The normal form of a text that names a style; a text that names none is taken in small letters.
-/
def normalize (text : Text) : Except Digits.Fault Text :=
  match ofText text with
  | .ok style => .ok style.normalForm
  | .error .meaningless => .ok text.trim.lower
  | .error (.badNumber fault) => .error fault

end Style

end LineShell
