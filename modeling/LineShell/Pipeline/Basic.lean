import LineShell.FileSystem.Content
import LineShell.Text.Blank

/-!
# Pipelines

A line asks either for a pipeline, whose stages pass text from one to the next and whose result may
be redirected to a file, or for typed text to be captured into a file.
-/

namespace LineShell

/-- One command of a pipeline as it was typed. -/
structure Stage where
  /-- The first word; empty in a blank stage. -/
  name : Text := []
  arguments : List Text := []
  /-- The text of the stage without white space at its ends. -/
  raw : Text := []
  deriving DecidableEq

namespace Stage

/-- Whether nothing was typed between two pipe signs. -/
def isBlank (stage : Stage) : Bool :=
  stage.name.isEmpty

/-- The stage of a piece of text: its first word is the name, and the others are arguments. -/
def ofText (text : Text) : Stage :=
  match text.words with
  | [] => { raw := text.trim }
  | name :: arguments => { name, arguments, raw := text.trim }

end Stage

/-- Where the result of a pipeline goes instead of the output. -/
structure Redirection where
  target : Text
  mode : WriteMode
  /-- The text of the redirected stage. -/
  command : Text := []
  deriving DecidableEq

/-- The stages of a line, from left to right, and where the result goes. -/
structure Pipeline where
  stages : List Stage
  redirection : Option Redirection := none
  deriving DecidableEq

/-- What a line asks for. -/
inductive Request where
  /-- To capture typed text into a file. -/
  | heredoc (target : Text) (mode : WriteMode)
  | pipeline (pipeline : Pipeline)
  deriving DecidableEq

/-- Why a line asks for nothing. -/
inductive LineFault where
  | emptyLine
  | noHeredocTarget
  | noRedirectionTarget
  deriving DecidableEq

/-- The wording of a line's fault. -/
def LineFault.message : LineFault → Text
  | .emptyLine => "Empty input line"
  | .noHeredocTarget => "Usage: cat > <file_name>"
  | .noRedirectionTarget => "Missing file name for redirection"

end LineShell
