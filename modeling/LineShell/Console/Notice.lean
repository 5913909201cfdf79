import LineShell.Console.Markup
import LineShell.Console.Screen

/-!
# Notices

A notice is markup that fills a screen: its lines are broken between words where they get too long,
and a word that is longer than a whole line is cut.  White space stays at the end of a line as far
as it fits.
-/

namespace LineShell

namespace Notice

/-- What is broken into lines: a word with the white space after it, the first one also with the
white space before it. -/
abbrev Chunk := Text

/-- The word that a text begins with. -/
def firstWord (text : Text) : Text :=
  text.takeWhile (!isBlank ·)

/-- The word that a text begins with and the white space after it. -/
def firstChunk (text : Text) : Chunk :=
  firstWord text ++ (text.drop (firstWord text).length).takeWhile isBlank

/-- The chunks of a line, from after some white space.  White space alone is no chunk. -/
def chunksAfter (margin : Text) (text : Text) : List Chunk :=
  if _h : firstWord text = [] then []
  else (margin ++ firstChunk text) :: chunksAfter [] (text.drop (firstChunk text).length)
termination_by text.length
decreasing_by
  have hword : 0 < (firstWord text).length := List.length_pos_iff.mpr _h
  have hle : (firstWord text).length ≤ text.length := (List.takeWhile_sublist _).length_le
  simp only [firstChunk, List.length_drop, List.length_append]
  omega

/-- The chunks of a line. -/
def chunks (line : Text) : List Chunk :=
  chunksAfter (line.takeWhile isBlank) (line.dropWhile isBlank)

/-- A text cut into parts that each fit a width, cluster by cluster; `part` is the part so far. -/
def cutClusters (width : Nat) : Text → Nat → List Cells.Cluster → List Text
  | part, used, [] => if used = 0 then [] else [part]
  | part, used, cluster :: rest =>
      if width < used + cluster.width then
        part :: cutClusters width cluster.text cluster.width rest
      else cutClusters width (part ++ cluster.text) (used + cluster.width) rest

/-- A text cut into parts that each fit a width. -/
def cut (width : Nat) (text : Text) : List Text :=
  cutClusters width [] 0 (Cells.clusters text)

/-- Lines so far. -/
structure Filling where
  /-- The lines that are complete, the last one first. -/
  complete : List Text := []
  /-- The line that is being filled. -/
  line : Text := []
  /-- The cells that it takes. -/
  used : Nat := 0

namespace Filling

/-- Whether nothing has been put on any line. -/
def isEmpty (filling : Filling) : Bool :=
  filling.complete.isEmpty && filling.line.isEmpty

/-- Puts a text on a new line, if there is anything before it. -/
def breakBefore (filling : Filling) (text : Text) : Filling :=
  { complete := if filling.isEmpty then [] else filling.line :: filling.complete
    line := text
    used := cellLength text }

/-- Puts a chunk on the line if its word fits there, else on a new line, or on several. -/
def add (width : Nat) (filling : Filling) (chunk : Chunk) : Filling :=
  let wordLength := cellLength (Text.trimEndWhere isBlank chunk)
  if filling.used + wordLength ≤ width then
    { filling with line := filling.line ++ chunk, used := filling.used + cellLength chunk }
  else if width < wordLength then (cut width chunk).foldl breakBefore filling
  else filling.breakBefore chunk

/-- All lines. -/
def lines (filling : Filling) : List Text :=
  (filling.line :: filling.complete).reverse

end Filling

/-- The beginning of a text that fills a width; what would stand across the edge is a space. -/
def fitClusters : Nat → List Cells.Cluster → Text
  | _, [] => []
  | width, cluster :: rest =>
      if cluster.width ≤ width then cluster.text ++ fitClusters (width - cluster.width) rest
      else List.replicate (min width 1) ' '

/-- A line that takes no more cells than a width. -/
def fit (width : Nat) (line : Text) : Text :=
  if cellLength line ≤ width then line else fitClusters width (Cells.clusters line)

/-- A line broken into lines of a width. -/
def fill (width : Nat) (line : Text) : List Text :=
  match chunks line with
  | [] => [fit width (Screen.cropEnd width line)]
  | first :: rest =>
      ((first :: rest).foldl (Filling.add width) {}).lines.map fun line =>
        fit width (Screen.cropEnd width line)

/-- Markup as a notice on a screen with so many columns. -/
def render (columns : Nat) (markup : Text) : Except Markup.Fault Text := do
  let text ← Markup.plain markup
  if columns = 0 then return []
  else return (Screen.lines text).flatMap (fill columns) |>.flatMap (· ++ ['\n'])

end Notice

end LineShell
