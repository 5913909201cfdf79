import LineShell.Text.Lines

/-!
# Line readers

Lines come from a prepared list, from a stream of text or from a terminal.  The end of the input is
told apart from an empty line by giving no line at all.
-/

namespace LineShell

/-- A source of lines together with what it has left. -/
inductive Reader where
  /-- Prepared lines. -/
  | scripted (lines : List Text)
  /-- A stream whose lines end at line feeds. -/
  | stream (rest : Text)
  /-- A terminal: a stream that prompts, and whose lines lose nothing but their line feed. -/
  | terminal (rest : Text)
  deriving DecidableEq

namespace Reader

/-- A reader over no input. -/
def nothing : Reader := .scripted []

/-- The next line, if there is one, and the reader after it. -/
def readLine : Reader → Option Text × Reader
  | .scripted [] => (none, .scripted [])
  | .scripted (line :: lines) => (some line.trimLineEnd, .scripted lines)
  | .stream rest =>
      if rest.isEmpty then (none, .stream rest)
      else ((Lines.splitFirst rest).1.trimLineEnd, .stream (Lines.splitFirst rest).2)
  | .terminal rest =>
      if rest.isEmpty then (none, .terminal rest)
      else (rest.takeWhile (· != '\n'), .terminal (Lines.splitFirst rest).2)

/-- Whether the reader shows the prompt that comes with a request for a line. -/
def prompts : Reader → Bool
  | .terminal _ => true
  | _ => false

/-- The lines of a script that are left. -/
def remaining : Reader → Nat
  | .scripted lines => lines.length
  | .stream _ | .terminal _ => 0

/-- The text of a stream that is left. -/
def unread : Reader → Text
  | .scripted _ => []
  | .stream rest | .terminal rest => rest

/-- How much there is left to read; every line read makes it less. -/
def size : Reader → Nat
  | .scripted lines => lines.length
  | .stream rest | .terminal rest => rest.length

theorem length_splitFirst_lt {text : Text} (h : text ≠ []) :
    (Lines.splitFirst text).2.length < text.length := by
  have hparts := congrArg List.length
    (List.takeWhile_append_dropWhile (p := (· != '\n')) (l := text))
  simp only [List.length_append] at hparts
  have hpos := List.length_pos_iff.mpr h
  simp only [Lines.splitFirst, List.length_drop]
  by_cases hrest : (text.dropWhile (· != '\n')).length = 0
  · omega
  · omega

theorem size_readLine_lt {reader after : Reader} {line : Text}
    (h : reader.readLine = (some line, after)) : after.size < reader.size := by
  cases reader with
  | scripted lines =>
      cases lines with
      | nil => simp [readLine] at h
      | cons first rest =>
          simp only [readLine, Prod.mk.injEq] at h
          rw [← h.2]
          simp [size]
  | stream rest | terminal rest =>
      by_cases hrest : rest = []
      · simp [readLine, hrest] at h
      · have hempty : rest.isEmpty = false := by simpa using hrest
        simp only [readLine, hempty, Bool.false_eq_true, if_false, Prod.mk.injEq] at h
        rw [← h.2]
        exact length_splitFirst_lt hrest

end Reader

end LineShell
