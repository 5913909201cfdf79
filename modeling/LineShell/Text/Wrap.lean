import LineShell.Text.Basic

/-!
# Filling lines

Breaking a text into lines of a given width.  Lines break at spaces and after the hyphen of a
compound word, and a word that is longer than a whole line is cut.
-/

namespace LineShell

namespace Wrap

/-- What a text is broken into: words, parts of compound words, and single spaces. -/
abbrev Chunk := Text

/-- Whether a line may break after a hyphen that stands between these characters. -/
def breaksAfter (before after : Text) : Bool :=
  match before, after with
  | second :: first :: _, next :: following :: _ =>
      second.isAlpha && first.isAlpha && next.isAlpha && following.isAlpha
  | _, _ => false

/-- The parts of a word, where the characters before are given, the last one first. -/
def wordParts : Text → Text → List Chunk
  | _, [] => []
  | before, character :: rest =>
      if character = '-' ∧ breaksAfter before rest then
        ['-'] :: wordParts [] rest
      else
        match wordParts (character :: before) rest with
        | [] => [[character]]
        | part :: parts => (character :: part) :: parts

/-- The chunks of a text whose words have single spaces between them. -/
def chunks (text : Text) : List Chunk :=
  (List.intersperse [[' ']] ((Text.splitOn ' ' text).map (wordParts []))).flatten

/-- Chunks that fit on a line on which so many columns are used, and the rest. -/
def takeFitting (width : Nat) : Nat → List Chunk → List Chunk × List Chunk
  | _, [] => ([], [])
  | used, chunk :: rest =>
      if used + chunk.length ≤ width then
        let (line, left) := takeFitting width (used + chunk.length) rest
        (chunk :: line, left)
      else ([], chunk :: rest)

/-- How much of a chunk that is longer than a line goes on the line: up to the last hyphen that
fits, or else as much as there is room for. -/
def cutLength (room : Nat) (chunk : Chunk) : Nat :=
  let part := chunk.take room
  let head := (part.reverse.dropWhile (· != '-')).reverse
  if head.dropLast.any (· != '-') then head.length else room

/-- One line and the chunks that are left for the next ones. -/
def takeLine (width : Nat) (isFirst : Bool) (chunks : List Chunk) : List Chunk × List Chunk :=
  let start := if !isFirst && chunks.head? == some [' '] then chunks.drop 1 else chunks
  let (line, rest) := takeFitting width 0 start
  let (line, rest) : List Chunk × List Chunk :=
    match rest with
    | chunk :: others =>
        if width < chunk.length then
          let cut := cutLength (width - line.flatten.length) chunk
          (line ++ [chunk.take cut], chunk.drop cut :: others)
        else (line, rest)
    | [] => (line, rest)
  let line := if line.getLast?.any (·.all (· == ' ')) then line.dropLast else line
  (line, rest)

/-- The lines of chunks, at most so many. -/
def takeLines (width : Nat) : Nat → Bool → List Chunk → List Text
  | 0, _, _ => []
  | _ + 1, _, [] => []
  | count + 1, isFirst, chunk :: rest =>
      let (line, left) := takeLine width isFirst (chunk :: rest)
      if line.isEmpty then takeLines width count isFirst left
      else line.flatten :: takeLines width count false left

end Wrap

/-- The lines of a text at a width of at least one.  Every line takes something of the text, so
there are no more lines than characters. -/
def Text.wrap (width : Nat) (text : Text) : List Text :=
  Wrap.takeLines width (text.length + 1) true (Wrap.chunks text)

end LineShell
