import LineShell.Command.Registry
import LineShell.Pipeline.Parser
import LineShell.Session.Capture
import LineShell.Session.Redirection

/-!
# Running lines

A pipeline runs its stages from left to right, each on the text of the one before.  The text of the
last one is written, or sent to a file if the line says so; a stage that ends the session ends
everything at once.
-/

namespace LineShell

namespace Pipeline

/-- Runs one stage on the text of the one before.  A blank stage passes the text on. -/
def runStage (registry : Registry) (stage : Stage) (piped : Option Text) : Shell Reply :=
  if stage.isBlank then return { text := piped }
  else registry.dispatch { name := stage.name, arguments := stage.arguments, piped }

/-- Runs stages in turn, starting from a reply, until one ends the session. -/
def runStages (registry : Registry) : List Stage → Reply → Shell Reply
  | [], reply => return reply
  | stage :: rest, reply => do
      let next ← runStage registry stage reply.text
      if next.terminate then return next else runStages registry rest next

/-- Brings the reply of the last stage where it belongs.  What a redirection leaves is its status,
which is not written. -/
def deliver (setup : Setup) (redirection : Option Redirection) (reply : Reply) : Shell Reply := do
  match redirection with
  | some { target, mode, .. } =>
      return .say (← Shell.writeTo setup mode target (reply.text.getD []))
  | none =>
      match reply.text with
      | some (first :: rest) => Shell.write (first :: rest)
      | _ => pure ()
      return reply

/-- Runs a pipeline. -/
def execute (setup : Setup) (registry : Registry) (pipeline : Pipeline) : Shell Reply := do
  let reply ← runStages registry pipeline.stages {}
  if reply.terminate then return reply else deliver setup pipeline.redirection reply

end Pipeline

namespace Interpreter

/-- What a capture into a file tells the user first. -/
def heredocBanner : Text := "Enter text (type 'exit' on a new line to finish):"

/-- Captures typed text into a file and writes the status. -/
def runHeredoc (setup : Setup) (target : Text) (mode : WriteMode) : Shell Reply := do
  let content ← Shell.capture setup heredocBanner
  let status ← Shell.writeTo setup mode target content
  Shell.write status
  return .say status

/-- Does what a request asks for. -/
def perform (setup : Setup) (registry : Registry) : Request → Shell Reply
  | .heredoc target mode => runHeredoc setup target mode
  | .pipeline pipeline => do
      let reply ← pipeline.execute setup registry
      if reply.terminate then Shell.write "Exiting...\n"
      return reply

/-- Runs one line.  A blank line does nothing; one that asks for nothing is answered with its fault;
neither has a reply. -/
def processLine (setup : Setup) (registry : Registry) (line : Text) : Shell (Option Reply) := do
  if line.trim.isEmpty then return none
  match Request.parse line with
  | .error fault =>
      Shell.write (fault.message ++ "\n")
      return none
  | .ok request => return some (← perform setup registry request)

/-- Runs lines from the reader until the session ends or no line is left, taking at most so many. -/
def runLines (setup : Setup) (registry : Registry) : Nat → Shell Unit
  | 0 => pure ()
  | count + 1 => do
      let session ← Shell.session
      if session.running then
        match ← Shell.readLine session.prompt with
        | none => pure ()
        | some line =>
            let _ ← processLine setup registry line
            runLines setup registry count

/-- Runs all lines of the reader, or those up to the end of the session, and gives the exit status.
Every line read makes the rest smaller, so the bound on their number is never reached. -/
def run (setup : Setup) (registry : Registry) : Shell Nat := do
  runLines setup registry ((← get).reader.size + 1)
  return 0

end Interpreter

end LineShell
