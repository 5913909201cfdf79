import LineShell.FileSystem.Tree

/-!
# Everything below a directory

The places below a node with what is there, each directory before its entries.
-/

namespace LineShell

namespace Node

/-- All that is below a node: each place, seen from the node, with what is there. -/
def descendants : Node → List (Place × Node)
  | .directory entries =>
      entries.attach.flatMap fun ⟨(name, child), _⟩ =>
        ([name], child) :: (descendants child).map fun (place, node) => (name :: place, node)
  | _ => []
termination_by node => sizeOf node
decreasing_by
  have hmem := List.sizeOf_lt_of_mem ‹(name, child) ∈ entries›
  simp only [Prod.mk.sizeOf_spec, directory.sizeOf_spec] at hmem ⊢
  omega

end Node

/-- All that is below a place, with paths written from there, in ascending order of the paths;
nothing if no directory is at the place. -/
def FileSystem.pathsBelow (files : FileSystem) (place : Place) : Option (List (Text × Node)) :=
  match files.at? place with
  | some (.directory entries) =>
      let found := (Node.directory entries).descendants.map fun (place, node) =>
        (Text.joinWith "/" place, node)
      some (found.mergeSort fun left right => Text.inOrder left.1 right.1)
  | _ => none

end LineShell
