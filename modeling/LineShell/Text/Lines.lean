import LineShell.Text.Basic

/-!
# Lines

The line ends of other systems are read as line feeds, and a text that is shown line by line ends in
one.
-/

namespace LineShell

/-- Whether a character is a carriage return or a line feed. -/
def isLineEnd (character : Char) : Bool :=
  character == '\r' || character == '\n'

namespace Lines

/-- Text read so far, the last character first, and whether a carriage return came just before. -/
structure Reading where
  output : Text
  afterReturn : Bool

/-- Takes the next character: a return becomes a line feed, and swallows one that follows it. -/
def Reading.step (reading : Reading) (character : Char) : Reading :=
  if character = '\r' then ⟨'\n' :: reading.output, true⟩
  else if character = '\n' ∧ reading.afterReturn then ⟨reading.output, false⟩
  else ⟨character :: reading.output, false⟩

/-- The text with every line end written as a single line feed. -/
def unify (text : Text) : Text :=
  (text.foldl Reading.step ⟨[], false⟩).output.reverse

/-- The text with a line feed at its end, unless it is empty or already ends in one. -/
def close (text : Text) : Text :=
  if text.isEmpty || text.getLast? == some '\n' then text else text ++ ['\n']

/-- The first line with its line feed, and what follows it. -/
def splitFirst (text : Text) : Text × Text :=
  (text.takeWhile (· != '\n') ++ (text.dropWhile (· != '\n')).take 1,
    (text.dropWhile (· != '\n')).drop 1)

end Lines

/-- The text as lines that each end in a line feed. -/
def Text.asLines (text : Text) : Text :=
  Lines.close (Lines.unify text)

/-- The text without the run of carriage returns and line feeds that ends it. -/
def Text.trimLineEnd (text : Text) : Text :=
  Text.trimEndWhere isLineEnd text

end LineShell
