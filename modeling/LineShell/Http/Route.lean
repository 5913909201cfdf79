import LineShell.Http.Basic
import LineShell.Http.Target
import LineShell.Text.Case

/-!
# Routes

What a path leads to.  A path that leads nowhere only because of slashes at its end is asked for
again without them.
-/

namespace LineShell.Http

/-- What a path leads to. -/
inductive Route where
  /-- All sessions. -/
  | sessions
  /-- The session of an id. -/
  | session (id : Text)
  /-- The commands of the session of an id. -/
  | commands (id : Text)
  /-- A page that describes the interface. -/
  | page
  deriving DecidableEq

/-- What a client may do with a route. -/
inductive Action where
  | create
  | describe (id : Text)
  | close (id : Text)
  | run (id : Text)
  | showPage
  deriving DecidableEq

namespace Route

/-- The paths of the pages. -/
def pages : List Text :=
  ["/openapi.json", "/docs", "/docs/oauth2-redirect", "/redoc"]

/-- Whether a text is a word, perhaps with a line feed after it. -/
def isWord (word text : Text) : Bool :=
  text == word || text == word ++ "\n"

/-- The route that a path spells.  A line feed after a fixed word at its end does not count. -/
def spelledBy? (path : Text) : Option Route :=
  if pages.any fun page => isWord page path then some .page
  else
    match Text.splitOn '/' path with
    | [[], top] => if isWord "sessions" top then some .sessions else none
    | [[], top, id] => if top = "sessions" ∧ !id.isEmpty then some (.session id) else none
    | [[], top, id, last] =>
        if top = "sessions" ∧ !id.isEmpty ∧ isWord "commands" last then some (.commands id)
        else none
    | _ => none

/-- How often a path may be asked for again. -/
def maximalRedirects : Nat := 20

/-- The route that a path leads to, asked for again at most so often.  The path without slashes at
its end is a new target: its dots are resolved, and what escapes are left in it are replaced. -/
def findWithin : Nat → Text → Option Route
  | 0, path => spelledBy? path
  | redirects + 1, path =>
      match spelledBy? path with
      | some route => some route
      | none =>
          let shorter := Text.trimEndWhere (· == '/') path
          if Text.endsWith path "/" && (spelledBy? shorter).isSome then
            findWithin redirects (Target.lookedUp shorter)
          else none

/-- The route that a path leads to. -/
def ofPath? (path : Text) : Option Route :=
  findWithin maximalRedirects path

/-- What a method does with a route. -/
def action? (route : Route) (method : Text) : Option Action :=
  match route with
  | .sessions => if method = "POST" then some .create else none
  | .session id =>
      if method = "GET" then some (.describe id)
      else if method = "DELETE" then some (.close id)
      else none
  | .commands id => if method = "POST" then some (.run id) else none
  | .page => if method = "GET" ∨ method = "HEAD" then some .showPage else none

end Route

end LineShell.Http
