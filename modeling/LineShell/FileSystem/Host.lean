import LineShell.FileSystem.Tree

/-!
# The machine under the file system

What the rules of the file system leave to the machine: its limits, the order in which a directory
lists its names, whether an entry can be moved by relinking it, and whether there is room for what
is written to a file.

Left out are machines on which another call than these fails although the rules allow it: there are
no permissions that could forbid it, a disk has always room for a new entry, and a file can be read
to its end once it is opened.
-/

namespace LineShell

/-- The machine's part in the behaviour of a file system. -/
structure Host where
  /-- The greatest size of a name in bytes. -/
  nameLimit : Nat := 255
  /-- The greatest size of a path in bytes. -/
  pathLimit : Nat := 4095
  /-- How many symbolic links one path may lead through. -/
  linkLimit : Nat := 40
  /-- Whether an entry can be moved by relinking it; if not, every such attempt is refused. -/
  relinks : Bool := true
  /-- After how many bytes the machine breaks off a write for want of space, if it does.  It may
  depend on the file, on what the file has kept and on what is to be added. -/
  breaksOff : Place → Bytes → Bytes → Option Nat := fun _ _ _ => none
  /-- The order in which the names of a directory come, which may differ from state to state. -/
  arrange : FileSystem → Place → List Name → List Name := fun _ _ names => names
  /-- A listing has every name exactly as often as the directory. -/
  arrange_perm : ∀ files place names, (arrange files place names).Perm names := by
    exact fun _ _ names => List.Perm.refl names

/-- The machine has room for everything that is written. -/
def Host.Roomy (host : Host) : Prop :=
  ∀ place kept addition, host.breaksOff place kept addition = none

theorem Host.roomy_default : ({} : Host).Roomy := fun _ _ _ => rfl

end LineShell
