import LineShell.Command.Content
import LineShell.Command.Entries
import LineShell.Command.Help
import LineShell.Command.Navigation
import LineShell.Command.Registry

/-!
# The standard commands

The groups that every session offers, in the order in which `help` lists them.
-/

namespace LineShell

/-- All standard commands. -/
def standardCommands : List CommandSpec :=
  Navigation.commands ++ EntryCommands.commands ++ ContentCommands.commands ++
    SessionCommands.commands

/-- The groups of the standard commands. -/
def standardGroups (setup : Setup) : List CommandGroup :=
  [ Navigation.group setup, EntryCommands.group setup, ContentCommands.group setup,
    SessionCommands.group standardCommands ]

/-- The registry of the standard commands. -/
def standardRegistry (setup : Setup) : Registry :=
  Registry.ofGroups (standardGroups setup)

/-- No two standard commands have one name. -/
theorem standardCommands_names_nodup : (standardCommands.map (·.name)).Nodup := by
  decide

end LineShell
