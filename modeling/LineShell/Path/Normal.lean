import LineShell.Path.Basic

/-!
# Normal paths

Normalising removes empty and `.` components and lets each `..` cancel the component before it, by
the spelling alone.  A path that begins with exactly two slashes keeps both of them.
-/

namespace LineShell.Path

/-- The component that stands for the directory itself. -/
def self : Text := "."

/-- The component that stands for the directory above. -/
def up : Text := ".."

/-- How many slashes the normal form begins with. -/
def leadingSlashes (path : Text) : Nat :=
  if !isAbsolute path then 0
  else if Text.startsWith path "//" && !Text.startsWith path "///" then 2
  else 1

/-- Takes the next component onto a stack of components, the innermost first. -/
def push (rooted : Bool) (stack : List Text) (component : Text) : List Text :=
  if component.isEmpty || component == self then stack
  else if component == up then
    match stack with
    | [] => if rooted then [] else [up]
    | top :: below => if top == up then up :: stack else below
  else component :: stack

/-- The components of the normal form, the outermost first. -/
def components (path : Text) : List Text :=
  ((Text.splitOn '/' path).foldl (push (isAbsolute path)) []).reverse

/-- The normal form of a path. -/
def normalize (path : Text) : Text :=
  let text := List.replicate (leadingSlashes path) '/' ++ Text.joinWith "/" (components path)
  if text.isEmpty then self else text

/-- The normal form of a path as seen from a working directory. -/
def absolute (working path : Text) : Text :=
  normalize (join working path)

/-- Whether one of two absolute normal paths is the other one or lies below it.  Nothing lies within
a path that begins with two slashes. -/
def isWithin (path parent : Text) : Bool :=
  leadingSlashes parent == 1 && (components parent).isPrefixOf (components path)

end LineShell.Path
