import LineShell.Session.Shell

/-!
# Commands

A command is called by name with arguments and, inside a pipeline, with the text of the stage before
it.  It replies with a text for the next stage.  Commands come in groups; a group knows what it
offers and runs a command by its exact name.
-/

namespace LineShell

/-- How a command is listed for the user. -/
structure CommandSpec where
  name : Text
  usage : Text
  description : Text
  deriving DecidableEq

/-- What a command replies. -/
structure Reply where
  /-- The text for the next stage or the output; nothing is not the same as an empty text. -/
  text : Option Text := none
  /-- Whether the session ends here. -/
  terminate : Bool := false
  deriving DecidableEq

namespace Reply

/-- The reply of a command that has something to say, if only an empty text. -/
def say (text : Text) : Reply :=
  { text := some text }

/-- The reply that ends the session. -/
def exit : Reply :=
  { terminate := true }

end Reply

/-- One call of a command. -/
structure Invocation where
  name : Text
  arguments : List Text := []
  /-- The text of the stage before, if there is one. -/
  piped : Option Text := none
  deriving DecidableEq

/-- A group of commands. -/
structure CommandGroup where
  commands : List CommandSpec
  run : Invocation → Shell Reply

end LineShell
