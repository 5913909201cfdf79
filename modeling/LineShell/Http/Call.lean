import LineShell.Http.Body
import LineShell.Http.Route

/-!
# Calls

What a request asks of the sessions.  Requests are read before the sessions come into it: the target
is looked up and the body is checked, and what is wrong with them is answered at once.
-/

namespace LineShell.Http

/-- What a request asks of the sessions, with what its body holds. -/
inductive Call where
  | create (directory : Option Text)
  | describe (id : Text)
  | close (id : Text)
  | run (id : Text) (body : Body.Line)
  deriving DecidableEq

/-- What comes of reading a request. -/
inductive Reading where
  /-- It calls for something. -/
  | call (call : Call)
  /-- It is answered without the sessions. -/
  | answer (response : Response)
  /-- It is broken off. -/
  | broken (breakdown : Breakdown)
  deriving DecidableEq

namespace Reading

/-- An answer without the sessions, if it can be written. -/
def ofResponse (response : Response) : Reading :=
  match response.written with
  | .ok response => .answer response
  | .error breakdown => .broken breakdown

/-- The call that is made of what a body holds, or what is wrong with the body. -/
def ofBody {α : Type} (body : Bytes) (check : Json.Value → Checked α) (call : α → Call) : Reading :=
  match Body.read body check with
  | .ok held => .call (call held)
  | .error response => ofResponse response

/-- Reads a request with an action. -/
def ofAction (body : Bytes) : Action → Reading
  | .create => ofBody body Body.startDirectory .create
  | .describe id => .call (.describe id)
  | .close id => .call (.close id)
  | .run id => ofBody body Body.line (.run id)
  | .showPage => .answer .page

/-- Reads a request for a path. -/
def ofPath (request : Request) (path : Text) : Reading :=
  match Route.ofPath? path with
  | none => .answer .noRoute
  | some route =>
      match route.action? request.verb with
      | none => .answer .noMethod
      | some action => ofAction request.body action

end Reading

/-- Reads a request. -/
def Request.reading (request : Request) : Reading :=
  match Target.read request.target with
  | .error fault => .broken (.target fault)
  | .ok path => .ofPath request path

end LineShell.Http
