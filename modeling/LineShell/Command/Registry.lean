import LineShell.Command.Basic
import LineShell.Text.Case

/-!
# The command registry

The registry finds the group that offers a command.  Letter case does not matter: names are entered
and looked up in small letters, and the group is handed the small name.
-/

namespace LineShell

/-- The groups by the names of their commands. -/
structure Registry where
  /-- The groups that were registered, in order. -/
  groups : List CommandGroup := []
  /-- The group of each name. -/
  table : List (Text × CommandGroup) := []

namespace Registry

/-- The registry without commands. -/
def empty : Registry := {}

/-- The group that a name leads to. -/
def find? (registry : Registry) (name : Text) : Option CommandGroup :=
  registry.table.lookup name.lower

/-- Whether a name leads to a command. -/
def contains (registry : Registry) (name : Text) : Bool :=
  (registry.find? name).isSome

/-- Enters names for a group one by one, up to the first that is taken; that one is given beside the
table. -/
def enter (group : CommandGroup) :
    List CommandSpec → List (Text × CommandGroup) → Option Text × List (Text × CommandGroup)
  | [], table => (none, table)
  | spec :: rest, table =>
      if (table.lookup spec.name.lower).isSome then (some spec.name.lower, table)
      else enter group rest (table ++ [(spec.name.lower, group)])

/-- Registers a group.  If one of its names is taken, that name is given, and the names before it
stay entered. -/
def register (registry : Registry) (group : CommandGroup) : Option Text × Registry :=
  match enter group group.commands registry.table with
  | (none, table) => (none, { groups := registry.groups ++ [group], table })
  | (some name, table) => (some name, { registry with table })

/-- The wording for a name that is taken. -/
def takenMessage (name : Text) : Text :=
  "Command already registered: " ++ name

/-- The commands of all groups, in the order of registration. -/
def commands (registry : Registry) : List CommandSpec :=
  registry.groups.flatMap (·.commands)

/-- The registry of several groups. -/
def ofGroups (groups : List CommandGroup) : Registry :=
  groups.foldl (fun registry group => (registry.register group).2) empty

/-- The reply to a name that leads to no command. -/
def unknownReply (name : Text) : Reply :=
  .say ("Unknown command: " ++ name ++ ". Type 'help' for a list of commands.\n")

/-- Runs a command by its name in any case. -/
def dispatch (registry : Registry) (invocation : Invocation) : Shell Reply :=
  match registry.find? invocation.name with
  | some group => group.run { invocation with name := invocation.name.lower }
  | none => return unknownReply invocation.name

end Registry

end LineShell
