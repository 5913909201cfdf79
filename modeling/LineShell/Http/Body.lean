import LineShell.Http.Basic
import LineShell.Json.Parser

/-!
# Request bodies

A body is read as JSON and checked against what its route takes.  Every part that is wrong is
reported, not only the first.
-/

namespace LineShell.Http

/-- The result of checking: what was read, or everything that is wrong. -/
abbrev Checked (α : Type) := Except (List Complaint) α

namespace Body

/-- Where every location begins. -/
def start : List Text := ["body"]

/-- The location of a member of the body. -/
def member (name : Text) : List Text := start ++ [name]

/-- A single complaint about a value. -/
def complain {α : Type} (problem : Problem) (location : List Text) (value : Json.Value) :
    Checked α :=
  .error [⟨problem, location, value.isWritable⟩]

/-- What two parts make together, or what is wrong with either. -/
def both {α β γ : Type} (combine : α → β → γ) : Checked α → Checked β → Checked γ
  | .ok left, .ok right => .ok (combine left right)
  | .ok _, .error complaints => .error complaints
  | .error complaints, .ok _ => .error complaints
  | .error left, .error right => .error (left ++ right)

/-- A text. -/
def text (location : List Text) : Json.Value → Checked Text
  | .text value => .ok value
  | value => complain .notText location value

/-- A text or nothing. -/
def optionalText (location : List Text) : Json.Value → Checked (Option Text)
  | .null => .ok none
  | value => (text location value).map some

/-- Texts in a list, whose items are counted from an index. -/
def textItems (location : List Text) : Nat → List Json.Value → Checked (List Text)
  | _, [] => .ok []
  | index, item :: rest =>
      both List.cons (text (location ++ [Text.ofNat index]) item)
        (textItems location (index + 1) rest)

/-- A list of texts. -/
def texts (location : List Text) : Json.Value → Checked (List Text)
  | .array items => textItems location 0 items
  | value => complain .notList location value

/-- The members of an object, or what is wrong with the whole body. -/
def members : Json.Value → Checked (List (Text × Json.Value))
  | .object members => .ok members
  | value => complain .notObject start value

/-- The start directory in a request to open a session. -/
def startDirectory (body : Json.Value) : Checked (Option Text) := do
  match Json.Value.member? (← members body) "directory" with
  | some value => optionalText (member "directory") value
  | none => .ok none

/-- A line to run and the lines that it may capture. -/
structure Line where
  line : Text
  inputLines : List Text
  deriving DecidableEq

/-- The line in a request to run one. -/
def line (body : Json.Value) : Checked Line := do
  let members ← members body
  let line := match Json.Value.member? members "line" with
    | some value => text (member "line") value
    | none => complain .missing (member "line") body
  let inputLines := match Json.Value.member? members "input_lines" with
    | some value => texts (member "input_lines") value
    | none => .ok []
  both Line.mk line inputLines

/-- Reads a body and hands on what it holds; with an empty one the request is incomplete. -/
def read {α : Type} (body : Bytes) (check : Json.Value → Checked α) : Except Response α :=
  if body.isEmpty then .error (.invalid [⟨.missing, start, true⟩])
  else
    match Json.read body with
    | .error (.malformed position) =>
        .error (.invalid [⟨.malformed, start ++ [Text.ofNat position], true⟩])
    | .error .unreadable => .error .unreadableBody
    | .ok value =>
        match check value with
        | .ok result => .ok result
        | .error complaints => .error (.invalid complaints)

end Body

end LineShell.Http
