import LineShell.Session.Shell
import LineShell.Text.Case

/-!
# Capturing typed text

A capture takes over the reader and collects lines until the sentinel line or the end of the input.
Only the letter case of the sentinel does not matter; spaces around it make it an ordinary line.
-/

namespace LineShell

namespace Capture

/-- The lines before the first one that is the sentinel but for case, and the reader after it. -/
def takeLines (sentinel : Text) (reader : Reader) : List Text × Reader :=
  match _h : reader.readLine with
  | (none, after) => ([], after)
  | (some line, after) =>
      if line.lower = sentinel.lower then ([], after)
      else
        let rest := takeLines sentinel after
        (line :: rest.1, rest.2)
termination_by reader.size
decreasing_by exact Reader.size_readLine_lt _h

/-- Lines as one text, each ended by a line feed. -/
def asText (lines : List Text) : Text :=
  lines.flatMap (· ++ ['\n'])

end Capture

/-- Writes a banner, reads lines up to the sentinel and gives them as one text. -/
def Shell.capture (setup : Setup) (banner : Text) : Shell Text := do
  write (banner ++ "\n")
  let (lines, reader) := Capture.takeLines setup.sentinel (← get).reader
  modify fun world => { world with reader }
  return Capture.asText lines

end LineShell
