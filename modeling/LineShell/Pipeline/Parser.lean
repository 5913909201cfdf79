import LineShell.Pipeline.Basic

/-!
# Reading a line

A line that begins with `cat >` asks for a capture and is not looked at any further.  Any other line
is split at its pipe signs, and only its last segment may redirect: to what follows the last
redirection sign, of the command that precedes the first.  A line that is a redirection sign, a file
name and some words is the command of that name and redirects nothing.
-/

namespace LineShell

namespace Request

/-- What a capture into a file begins with. -/
def heredocStart : Text := "cat >"

/-- The capture that a line asks for, where the text after its first sign is given. -/
def ofHeredoc (rest : Text) : Except LineFault Request :=
  let (mode, target) : WriteMode × Text :=
    match rest with
    | '>' :: more => (.append, Text.trim more)
    | _ => (.overwrite, Text.trim rest)
  if target.isEmpty then .error .noHeredocTarget else .ok (.heredoc target mode)

/-- The stage that writes literal words, made of a segment that begins with a redirection sign. -/
def literalStage (segment : Text) : Stage :=
  let operator : Text := if Text.startsWith segment ">>" then ">>" else ">"
  { name := operator
    arguments := Text.words (segment.drop operator.length)
    raw := segment }

/-- The last stage of a line and its redirection, after the given stages. -/
def ofLastSegment (before : List Stage) (segment : Text) : Except LineFault Pipeline :=
  if !segment.contains '>' then .ok { stages := before ++ [Stage.ofText segment] }
  else
    let fragments := Text.splitOn '>' segment
    let command := Text.trim (fragments.headD [])
    let target := Text.trim (fragments.getLastD [])
    if command.isEmpty && before.isEmpty && 1 < target.words.length then
      .ok { stages := [literalStage segment] }
    else if target.isEmpty then
      .error .noRedirectionTarget
    else
      let mode := if Text.includes ">>" segment then WriteMode.append else .overwrite
      .ok
        { stages := before ++ [Stage.ofText command]
          redirection := some { target, mode, command } }

/-- What a line asks for, or why it is rejected. -/
def parse (line : Text) : Except LineFault Request :=
  let line := line.trim
  if line.isEmpty then .error .emptyLine
  else if Text.startsWith line heredocStart then ofHeredoc (line.drop heredocStart.length)
  else
    let segments := (Text.splitOn '|' line).map Text.trim
    (ofLastSegment (segments.dropLast.map Stage.ofText) (segments.getLastD [])).map .pipeline

end Request

end LineShell
