import LineShell.Http.Target
import LineShell.Session.Shell
import LineShell.Text.Case

/-!
# Requests and responses

What the HTTP interface is asked and what it answers.
-/

namespace LineShell.Http

/-- A request: a method, a target and, where one was sent, a body. -/
structure Request where
  method : Text
  target : Text
  body : Bytes := []
  deriving DecidableEq

/-- The name of the method, whose case does not count. -/
def Request.verb (request : Request) : Text :=
  request.method.upper

/-- Whether a request asks for the head of an answer only: then its body is not sent. -/
def Request.asksForHead (request : Request) : Bool :=
  request.verb == "HEAD".toList

/-- What is wrong with a part of a body. -/
inductive Problem where
  | missing
  | notText
  | notList
  | notObject
  | malformed
  deriving DecidableEq

/-- The name under which a problem is reported. -/
def Problem.name : Problem → Text
  | .missing => "missing"
  | .notText => "string_type"
  | .notList => "list_type"
  | .notObject => "model_attributes_type"
  | .malformed => "json_invalid"

/-- A problem and where it is: `body` and the names and numbers that lead further in. -/
structure Complaint where
  problem : Problem
  location : List Text
  /-- Whether the part that it is about can be written, which is shown with it. -/
  isWritable : Bool := true
  deriving DecidableEq

/-- The answer to a request. -/
inductive Response where
  /-- A session was opened. -/
  | created (session : Session)
  /-- A session is described. -/
  | described (session : Session)
  /-- A line was run: what it wrote, and the session after it. -/
  | ran (output : Text) (session : Session)
  /-- A session was closed. -/
  | closed
  /-- The start directory was refused. -/
  | badDirectory (message : Text)
  /-- The body cannot be taken in. -/
  | unreadableBody
  /-- There is no session of the id. -/
  | noSession (message : Text)
  /-- Nothing is at the path. -/
  | noRoute
  /-- The path does not take the method. -/
  | noMethod
  /-- The session has ended. -/
  | ended
  /-- A page that describes the interface. -/
  | page
  /-- The body is not what the route takes. -/
  | invalid (complaints : List Complaint)
  deriving DecidableEq

namespace Response

/-- The status code of an answer. -/
def status : Response → Nat
  | .created _ => 201
  | .described _ | .ran _ _ | .page => 200
  | .closed => 204
  | .badDirectory _ | .unreadableBody => 400
  | .noSession _ | .noRoute => 404
  | .noMethod => 405
  | .ended => 409
  | .invalid _ => 422

/-- The message of an answer that is no more than that. -/
def detail? : Response → Option Text
  | .badDirectory message | .noSession message => some message
  | .unreadableBody => some "There was an error parsing the body"
  | .noRoute => some "Not Found"
  | .noMethod => some "Method Not Allowed"
  | .ended => some "Session has been terminated"
  | _ => none

end Response

/-- What breaks off a request instead of being answered. -/
inductive Breakdown where
  /-- The target makes no sense. -/
  | target (fault : Target.Fault)
  /-- Something in the session. -/
  | session (escape : Escape)
  /-- A part of the body would have to be shown in the answer that has a number out of range in it.
  -/
  | unwritableNumber
  deriving DecidableEq

/-- The wording of what breaks off a request. -/
def Breakdown.message : Breakdown → Text
  | .target fault => fault.message
  | .session escape => escape.message
  | .unwritableNumber => "Out of range float values are not JSON compliant"

/-- The answer, if it can be written. -/
def Response.written (response : Response) : Except Breakdown Response :=
  match response with
  | .invalid complaints =>
      if complaints.all Complaint.isWritable then .ok response else .error .unwritableNumber
  | _ => .ok response

end LineShell.Http
