import LineShell.Text.Basic

/-!
# Paths as text

Joining and taking apart paths without looking at any file.  A path is a text whose components are
separated by slashes; it is absolute when it begins with one.
-/

namespace LineShell.Path

/-- Whether a character is the separator of components. -/
def isSlash (character : Char) : Bool :=
  character == '/'

/-- Whether a path is read from the root. -/
def isAbsolute (path : Text) : Bool :=
  Text.startsWith path "/"

/-- The second path as seen from the first: itself when it is absolute, else appended. -/
def join (base path : Text) : Text :=
  if isAbsolute path then path
  else if base.isEmpty || Text.endsWith base "/" then base ++ path
  else base ++ "/" ++ path

/-- What follows the last slash. -/
def lastComponent (path : Text) : Text :=
  (path.reverse.takeWhile (!isSlash ·)).reverse

/-- What precedes the last component, without the slashes that end it unless there is nothing else.
-/
def directory (path : Text) : Text :=
  let head := (path.reverse.dropWhile (!isSlash ·)).reverse
  if head.all isSlash then head else Text.trimEndWhere isSlash head

/-- The directory and the last component, where the slashes that end a path do not count. -/
def splitLast (path : Text) : Text × Text :=
  if (lastComponent path).isEmpty then
    (directory (directory path), lastComponent (directory path))
  else
    (directory path, lastComponent path)

theorem length_trimEndWhere_le (trims : Char → Bool) (text : Text) :
    (Text.trimEndWhere trims text).length ≤ text.length := by
  have h := (List.dropWhile_sublist trims (l := text.reverse)).length_le
  simpa [Text.trimEndWhere] using h

theorem length_directory_add_lastComponent_le (path : Text) :
    (directory path).length + (lastComponent path).length ≤ path.length := by
  have hparts := congrArg List.length
    (List.takeWhile_append_dropWhile (p := (!isSlash ·)) (l := path.reverse))
  simp only [List.length_append, List.length_reverse] at hparts
  have htrim := length_trimEndWhere_le isSlash (path.reverse.dropWhile (!isSlash ·)).reverse
  simp only [List.length_reverse] at htrim
  simp only [directory, lastComponent]
  split <;> simp only [List.length_reverse] <;> omega

theorem length_splitLast_le (path : Text) :
    (splitLast path).1.length + (splitLast path).2.length ≤ path.length := by
  have houter := length_directory_add_lastComponent_le path
  have hinner := length_directory_add_lastComponent_le (directory path)
  simp only [splitLast]
  split
  · simp only
    omega
  · exact houter

theorem length_splitLast_lt {path : Text} (h : (splitLast path).2 ≠ []) :
    (splitLast path).1.length < path.length := by
  have hlength := length_splitLast_le path
  have hlast := List.length_pos_iff.mpr h
  omega

end LineShell.Path
