import LineShell.FileSystem.Tree
import Mathlib.Data.List.Infix

/-!
# What stands at a place

A tree is best seen as a function that gives for each place what stands there: nothing, a directory,
a file with its content, a link with its target, or a pipe.  An edit of the tree changes this
function below one entry only, and this module says how.
-/

namespace LineShell

/-- What can stand at a place, whatever a directory holds. -/
inductive Kind where
  | directory
  | file (content : Bytes)
  | link (target : Text)
  | pipe
  deriving DecidableEq

namespace Entries

theorem get?_map_value (key name : Name) (change : Node → Node) (entries : Entries) :
    get? name (entries.map fun entry => if entry.1 = key then (entry.1, change entry.2) else entry) =
      if name = key then (get? name entries).map change else get? name entries := by
  induction entries with
  | nil => simp [get?]
  | cons entry rest ih =>
      obtain ⟨first, old⟩ := entry
      by_cases hkey : first = key
      · subst hkey
        by_cases hname : name = first
        · subst hname
          simp [get?]
        · simpa [get?, hname, Ne.symm hname] using ih
      · by_cases hname : first = name
        · subst hname
          simp [get?, hkey]
        · simpa [get?, hkey, hname] using ih

theorem mem_of_get? {name : Name} {node : Node} {entries : Entries}
    (h : get? name entries = some node) : (name, node) ∈ entries := by
  induction entries with
  | nil => cases h
  | cons entry rest ih =>
      obtain ⟨first, old⟩ := entry
      rw [get?] at h
      split at h
      · cases h
        simp [*]
      · exact List.mem_cons_of_mem _ (ih h)

theorem mem_names_iff {name : Name} {entries : Entries} :
    name ∈ entries.names ↔ (get? name entries).isSome = true := by
  induction entries with
  | nil => simp [names, get?]
  | cons entry rest ih =>
      obtain ⟨first, old⟩ := entry
      simp only [names] at ih
      by_cases hfirst : first = name
      · simp [names, get?, hfirst]
      · simp [names, get?, hfirst, ih, Ne.symm hfirst]

end Entries

namespace Node

/-- What a node is, whatever it holds as a directory. -/
def kind : Node → Kind
  | .directory _ => .directory
  | .file content => .file content
  | .link target => .link target
  | .pipe => .pipe

/-- What stands at a place, seen from a node. -/
def kind? (node : Node) (place : Place) : Option Kind :=
  (node.at? place).map kind

@[simp]
theorem kind?_nil (node : Node) : node.kind? [] = some node.kind := rfl

theorem kind?_cons (node : Node) (name : Name) (rest : Place) :
    node.kind? (name :: rest) = (node.child? name).bind (·.kind? rest) := by
  simp only [kind?, at?, Option.map_bind]
  rfl

theorem exists_mem_of_kind? {entries : Entries} {name : Name} {rest : Place} {kind : Kind}
    (h : (Node.directory entries).kind? (name :: rest) = some kind) :
    ∃ child, (name, child) ∈ entries ∧ child.kind? rest = some kind := by
  rw [kind?_cons] at h
  obtain ⟨child, hget, hkind⟩ := Option.bind_eq_some_iff.mp h
  exact ⟨child, Entries.mem_of_get? hget, hkind⟩

/-- What holds of a directory and of all that its entries hold, holds of all that stands below it. -/
theorem forall_kind?_directory {entries : Entries} {holds : Place → Kind → Prop}
    (hself : holds [] .directory)
    (hentries : ∀ entry ∈ entries, ∀ rest kind, entry.2.kind? rest = some kind →
      holds (entry.1 :: rest) kind) :
    ∀ rest kind, (Node.directory entries).kind? rest = some kind → holds rest kind := by
  intro rest kind h
  cases rest with
  | nil => exact Option.some.inj h ▸ hself
  | cons name more =>
      obtain ⟨child, hmem, hkind⟩ := exists_mem_of_kind? h
      exact hentries (name, child) hmem more kind hkind

theorem forall_kind?_leaf {node : Node} (hleaf : ∀ name, node.child? name = none)
    {holds : Place → Kind → Prop} (hself : holds [] node.kind) :
    ∀ rest kind, node.kind? rest = some kind → holds rest kind := by
  intro rest kind h
  cases rest with
  | nil => exact Option.some.inj h ▸ hself
  | cons name more =>
      rw [kind?_cons, hleaf] at h
      cases h

theorem at?_append (node : Node) (left right : Place) :
    node.at? (left ++ right) = (node.at? left).bind (·.at? right) := by
  induction left generalizing node with
  | nil => rfl
  | cons name rest ih =>
      simp only [List.cons_append, at?, Option.bind_assoc]
      exact Option.bind_congr fun child _ => ih child

theorem kind?_append (node : Node) (left right : Place) :
    node.kind? (left ++ right) = (node.at? left).bind (·.kind? right) := by
  rw [kind?, at?_append, Option.map_bind]
  rfl

theorem kind_eq_directory_iff {node : Node} :
    node.kind = .directory ↔ ∃ entries, node = .directory entries := by
  cases node <;> simp [kind]

theorem isDirectory_iff {node : Node} : node.isDirectory = true ↔ node.kind = .directory := by
  cases node <;> simp [kind, isDirectory]

theorem eq_of_kind {node : Node} (other : Node) (hkind : node.kind = other.kind)
    (hdirectory : node.kind ≠ .directory) : node = other := by
  cases node <;> cases other <;> simp_all [kind]

theorem child?_of_kind_ne {node : Node} (hkind : node.kind ≠ .directory) (name : Name) :
    node.child? name = none := by
  cases node <;> simp_all [kind, child?]

@[simp]
theorem kind_edit (change : Entries → Entries) (place : Place) (node : Node) :
    (node.edit change place).kind = node.kind := by
  cases place <;> cases node <;> rfl

theorem edit_of_kind_ne {node : Node} (hkind : node.kind ≠ .directory)
    (change : Entries → Entries) (place : Place) : node.edit change place = node := by
  cases node <;> cases place <;> simp_all [kind, edit]

theorem child?_edit_cons (change : Entries → Entries) (key name : Name) (rest : Place)
    (node : Node) :
    (node.edit change (key :: rest)).child? name =
      if name = key then (node.child? name).map (edit change rest) else node.child? name := by
  cases node with
  | directory entries => simp only [edit, child?, Entries.get?_map_value]
  | file content => simp [edit, child?]
  | link target => simp [edit, child?]
  | pipe => simp [edit, child?]

/-- Below the edited directory a place is looked up in the edited entries. -/
theorem at?_edit_append (change : Entries → Entries) (place rest : Place) (node : Node) :
    (node.edit change place).at? (place ++ rest) =
      (node.at? place).bind fun inner => (inner.edit change []).at? rest := by
  induction place generalizing node with
  | nil => rfl
  | cons name others ih =>
      simp only [List.cons_append, at?, child?_edit_cons, if_true, Option.bind_assoc]
      cases node.child? name with
      | none => rfl
      | some child => exact ih child

/-- An edit changes nothing but what is below the edited directory. -/
theorem kind?_edit_of_not_below {change : Entries → Entries} {place other : Place} (node : Node)
    (hother : ∀ name, ¬ place ++ [name] <+: other) :
    (node.edit change place).kind? other = node.kind? other := by
  induction place generalizing node other with
  | nil =>
      cases other with
      | nil => simp
      | cons name rest => exact absurd (by simp) (hother name)
  | cons key others ih =>
      cases other with
      | nil => simp
      | cons name rest =>
          rw [kind?_cons, kind?_cons, child?_edit_cons]
          split <;> rename_i hname
          · subst hname
            cases node.child? name with
            | none => rfl
            | some child =>
                refine ih child fun next hnext => hother next ?_
                rw [List.cons_append]
                exact List.cons_prefix_cons.mpr ⟨rfl, hnext⟩
          · rfl

end Node

/-- A place lies below a directory or is not touched by what changes there. -/
theorem Place.below_or_not (place other : Place) :
    (∃ name rest, other = place ++ name :: rest) ∨ ∀ name, ¬ place ++ [name] <+: other := by
  by_cases h : ∃ name, place ++ [name] <+: other
  · obtain ⟨name, rest, hrest⟩ := h
    exact .inl ⟨name, rest, by simpa using hrest.symm⟩
  · exact .inr fun name hname => h ⟨name, hname⟩

namespace FileSystem

/-- What stands at a place. -/
def kind? (files : FileSystem) (place : Place) : Option Kind :=
  files.root.kind? place

@[simp]
theorem kind?_nil (files : FileSystem) : files.kind? [] = some .directory := rfl

theorem kind?_eq (files : FileSystem) (place : Place) :
    files.kind? place = (files.at? place).map Node.kind := rfl

theorem kind?_of_at? {files : FileSystem} {place : Place} {node : Node}
    (h : files.at? place = some node) : files.kind? place = some node.kind := by
  rw [kind?_eq, h]
  rfl

theorem at?_eq_none_iff {files : FileSystem} {place : Place} :
    files.at? place = none ↔ files.kind? place = none := by
  rw [kind?_eq, Option.map_eq_none_iff]

theorem exists_at?_of_kind? {files : FileSystem} {place : Place} {kind : Kind}
    (h : files.kind? place = some kind) :
    ∃ node, files.at? place = some node ∧ node.kind = kind :=
  Option.map_eq_some_iff.mp h

theorem exists_entries_of_kind? {files : FileSystem} {place : Place}
    (h : files.kind? place = some .directory) :
    ∃ entries, files.at? place = some (.directory entries) := by
  obtain ⟨node, hnode, hkind⟩ := exists_at?_of_kind? h
  obtain ⟨entries, rfl⟩ := Node.kind_eq_directory_iff.mp hkind
  exact ⟨entries, hnode⟩

/-- What is no directory is known by its kind. -/
theorem at?_leaf_iff {files : FileSystem} {place : Place} {leaf : Node}
    (hleaf : leaf.kind ≠ .directory) :
    files.at? place = some leaf ↔ files.kind? place = some leaf.kind := by
  constructor
  · intro h
    exact kind?_of_at? h
  · intro h
    obtain ⟨node, hnode, hkind⟩ := exists_at?_of_kind? h
    rw [hnode, Node.eq_of_kind leaf hkind (hkind ▸ hleaf)]

theorem at?_file_iff {files : FileSystem} {place : Place} {content : Bytes} :
    files.at? place = some (.file content) ↔ files.kind? place = some (.file content) :=
  at?_leaf_iff (by simp [Node.kind])

theorem at?_link_iff {files : FileSystem} {place : Place} {target : Text} :
    files.at? place = some (.link target) ↔ files.kind? place = some (.link target) :=
  at?_leaf_iff (by simp [Node.kind])

theorem at?_append {files : FileSystem} {place : Place} {node : Node}
    (h : files.at? place = some node) (rest : Place) :
    files.at? (place ++ rest) = node.at? rest := by
  rw [at?, Node.at?_append]
  exact congrArg (·.bind (·.at? rest)) h

/-- The files below an entry are the files below its place. -/
theorem at?_file_below_iff {files : FileSystem} {place : Place} {node : Node}
    (h : files.at? place = some node) {rest : Place} {content : Bytes} :
    node.at? rest = some (.file content) ↔ files.kind? (place ++ rest) = some (.file content) := by
  rw [← at?_append h, at?_file_iff]

theorem kind?_append {files : FileSystem} {place : Place} {node : Node}
    (h : files.at? place = some node) (rest : Place) :
    files.kind? (place ++ rest) = node.kind? rest := by
  rw [kind?, Node.kind?_append]
  exact congrArg (·.bind (·.kind? rest)) h

/-- Only a directory has anything below it. -/
theorem kind?_eq_directory_of_below {files : FileSystem} {place rest : Place} {kind : Kind}
    (h : files.kind? (place ++ rest) = some kind) (hrest : rest ≠ []) :
    files.kind? place = some .directory := by
  obtain ⟨name, others, rfl⟩ := List.exists_cons_of_ne_nil hrest
  obtain ⟨node, hnode, -⟩ : ∃ node, files.at? place = some node ∧ _ :=
    Option.bind_eq_some_iff.mp ((Node.kind?_append files.root place _).symm.trans h)
  rw [kind?_append hnode, Node.kind?_cons] at h
  by_cases hkind : node.kind = .directory
  · exact (kind?_of_at? hnode).trans (congrArg some hkind)
  · simp [Node.child?_of_kind_ne hkind] at h

theorem kind?_below_eq_none {files : FileSystem} {place rest : Place}
    (h : files.kind? place ≠ some .directory) (hrest : rest ≠ []) :
    files.kind? (place ++ rest) = none := by
  by_contra hsome
  obtain ⟨kind, hkind⟩ := Option.ne_none_iff_exists'.mp hsome
  exact h (kind?_eq_directory_of_below hkind hrest)

theorem kind?_directory_of_prefix {files : FileSystem} {place above : Place}
    (h : files.kind? place = some .directory) (habove : above <+: place) :
    files.kind? above = some .directory := by
  obtain ⟨rest, rfl⟩ := habove
  by_cases hrest : rest = []
  · rwa [hrest, List.append_nil] at h
  · exact kind?_eq_directory_of_below h hrest

/-- What is missing has nothing below it. -/
theorem kind?_append_eq_none {files : FileSystem} {place : Place} (h : files.kind? place = none)
    (rest : Place) : files.kind? (place ++ rest) = none := by
  rw [← at?_eq_none_iff] at h
  rw [kind?, Node.kind?_append]
  exact congrArg (·.bind (·.kind? rest)) h

/-- Something stands above what stands anywhere. -/
theorem exists_kind?_of_below {files : FileSystem} {place rest : Place} {kind : Kind}
    (h : files.kind? (place ++ rest) = some kind) : ∃ kind, files.kind? place = some kind := by
  by_contra hnone
  rw [kind?_append_eq_none (Option.eq_none_iff_forall_ne_some.mpr (not_exists.mp hnone))] at h
  cases h

theorem kind?_edit_of_not_below {files : FileSystem} {place other : Place}
    {change : Entries → Entries} (hother : ∀ name, ¬ place ++ [name] <+: other) :
    (files.edit place change).kind? other = files.kind? other := by
  rw [kind?, root_edit]
  exact Node.kind?_edit_of_not_below files.root hother

theorem kind?_edit_append {files : FileSystem} {place : Place} {entries : Entries}
    (h : files.at? place = some (.directory entries)) (change : Entries → Entries) (name : Name)
    (rest : Place) :
    (files.edit place change).kind? (place ++ name :: rest) =
      (Entries.get? name (change entries)).bind (·.kind? rest) := by
  have hedit := Node.at?_edit_append change place (name :: rest) files.root
  rw [show files.root.at? place = some (.directory entries) from h] at hedit
  rw [kind?, root_edit, Node.kind?, hedit]
  cases hget : Entries.get? name (change entries) with
  | none => simp [Node.edit, Node.at?, Node.child?, hget]
  | some node => simp [Node.edit, Node.at?, Node.child?, Node.kind?, hget]

/-- Where there is no directory, nothing is edited. -/
theorem kind?_edit_of_ne {files : FileSystem} {place : Place}
    (h : files.kind? place ≠ some .directory) (change : Entries → Entries) (other : Place) :
    (files.edit place change).kind? other = files.kind? other := by
  rcases Place.below_or_not place other with ⟨name, rest, rfl⟩ | hother
  · rw [kind?_below_eq_none h (List.cons_ne_nil name rest)]
    have hedit := Node.kind?_append (files.root.edit change place) place (name :: rest)
    have hhere := Node.at?_edit_append change place [] files.root
    rw [List.append_nil] at hhere
    rw [kind?, root_edit, hedit, hhere]
    cases hnode : files.root.at? place with
    | none => rfl
    | some node =>
        have hkind : node.kind ≠ .directory := fun heq =>
          h ((@kind?_of_at? files place node hnode).trans (congrArg some heq))
        simp [Node.edit_of_kind_ne hkind, Node.at?, Node.kind?_cons, Node.child?_of_kind_ne hkind]
  · exact kind?_edit_of_not_below hother

/-- An edit of one entry changes nothing but what is at or below the place of that entry. -/
theorem kind?_edit_of_apart {files : FileSystem} {place other : Place} {name : Name}
    {change : Entries → Entries}
    (hchange : ∀ entries next, next ≠ name →
      Entries.get? next (change entries) = Entries.get? next entries)
    (h : ¬ place ++ [name] <+: other) :
    (files.edit place change).kind? other = files.kind? other := by
  by_cases hplace : files.kind? place = some .directory
  · rcases Place.below_or_not place other with ⟨next, rest, rfl⟩ | hother
    · have hne : next ≠ name := fun heq => h (by simp [heq])
      obtain ⟨entries, hentries⟩ := exists_entries_of_kind? hplace
      rw [kind?_edit_append hentries, hchange entries next hne, kind?_append hentries,
        Node.kind?_cons]
      rfl
    · exact kind?_edit_of_not_below hother
  · exact kind?_edit_of_ne hplace _ other

/-- Setting an entry replaces what stands at and below its place. -/
theorem kind?_put {files : FileSystem} {place : Place} (h : files.kind? place = some .directory)
    (name : Name) (node : Node) (rest : Place) :
    (files.put place name node).kind? (place ++ name :: rest) = node.kind? rest := by
  obtain ⟨entries, hentries⟩ := exists_entries_of_kind? h
  rw [put, kind?_edit_append hentries, Entries.get?_set]
  simp

theorem kind?_put_of_apart (files : FileSystem) {place other : Place} {name : Name}
    (node : Node) (h : ¬ place ++ [name] <+: other) :
    (files.put place name node).kind? other = files.kind? other := by
  apply kind?_edit_of_apart _ h
  intro entries next hnext
  rw [Entries.get?_set, if_neg hnext]

/-- Removing an entry clears its place and all below it. -/
theorem kind?_remove (files : FileSystem) (place : Place) (name : Name) (rest : Place) :
    (files.remove place name).kind? (place ++ name :: rest) = none := by
  by_cases hplace : files.kind? place = some .directory
  · obtain ⟨entries, hentries⟩ := exists_entries_of_kind? hplace
    rw [remove, kind?_edit_append hentries, Entries.get?_erase]
    simp
  · rw [remove, kind?_edit_of_ne hplace, kind?_below_eq_none hplace (List.cons_ne_nil name rest)]

theorem kind?_remove_of_apart (files : FileSystem) {place other : Place} {name : Name}
    (h : ¬ place ++ [name] <+: other) :
    (files.remove place name).kind? other = files.kind? other := by
  apply kind?_edit_of_apart _ h
  intro entries next hnext
  rw [Entries.get?_erase, if_neg hnext]

/-- Nothing is below a place. -/
def Bare (files : FileSystem) (place : Place) : Prop :=
  ∀ name, files.kind? (place ++ [name]) = none

theorem bare_of_kind?_ne {files : FileSystem} {place : Place}
    (h : files.kind? place ≠ some .directory) : files.Bare place :=
  fun name => kind?_below_eq_none h (List.cons_ne_nil name [])

theorem bare_of_emptyDirectory {files : FileSystem} {place : Place}
    (h : files.at? place = some (.directory [])) : files.Bare place := by
  intro name
  rw [kind?_append h]
  rfl

theorem Bare.kind?_eq_none {files : FileSystem} {place rest : Place} (h : files.Bare place)
    (hrest : rest ≠ []) : files.kind? (place ++ rest) = none := by
  obtain ⟨name, others, rfl⟩ := List.exists_cons_of_ne_nil hrest
  rw [List.append_cons]
  exact kind?_append_eq_none (h name) others

/-- A change at and below a place with nothing below it, before and after, is a change of what
stands there. -/
theorem Bare.kind?_eq_ite {files after : FileSystem} {place : Place} (hbare : files.Bare place)
    (hafter : after.Bare place)
    (hapart : ∀ {other}, ¬ place <+: other → after.kind? other = files.kind? other)
    (other : Place) :
    after.kind? other = if other = place then after.kind? place else files.kind? other := by
  by_cases hprefix : place <+: other
  · obtain ⟨rest, rfl⟩ := hprefix
    by_cases hrest : rest = []
    · simp [hrest]
    · rw [if_neg (by simpa using hrest), hbare.kind?_eq_none hrest, hafter.kind?_eq_none hrest]
  · have hne : other ≠ place := fun heq => hprefix (heq ▸ List.prefix_rfl)
    rw [hapart hprefix, if_neg hne]

/-- Setting a leaf where nothing was below changes what stands at its place only. -/
theorem kind?_put_leaf {files : FileSystem} {place : Place} {name : Name} {node : Node}
    (hplace : files.kind? place = some .directory) (hbare : files.Bare (place ++ [name]))
    (hleaf : ∀ other, node.child? other = none) (other : Place) :
    (files.put place name node).kind? other =
      if other = place ++ [name] then some node.kind else files.kind? other := by
  have hput := kind?_put hplace name node
  have hafter : (files.put place name node).Bare (place ++ [name]) := by
    intro next
    rw [List.append_assoc, List.singleton_append, hput, Node.kind?_cons, hleaf]
    rfl
  rw [hbare.kind?_eq_ite hafter (kind?_put_of_apart files node), hput []]
  rfl

/-- Removing an entry with nothing below it clears its place only. -/
theorem kind?_remove_bare {files : FileSystem} {place : Place} {name : Name}
    (hbare : files.Bare (place ++ [name])) (other : Place) :
    (files.remove place name).kind? other =
      if other = place ++ [name] then none else files.kind? other := by
  have hremove := kind?_remove files place name
  have hafter : (files.remove place name).Bare (place ++ [name]) := by
    intro next
    rw [List.append_assoc, List.singleton_append, hremove]
  rw [hbare.kind?_eq_ite hafter (kind?_remove_of_apart files), hremove []]

/-- The names in a directory are those under which something stands. -/
theorem mem_names_iff {files : FileSystem} {place : Place} {entries : Entries}
    (h : files.at? place = some (.directory entries)) {name : Name} :
    name ∈ entries.names ↔ ∃ kind, files.kind? (place ++ [name]) = some kind := by
  have hkind : files.kind? (place ++ [name]) = (Entries.get? name entries).map Node.kind := by
    rw [kind?_append h, Node.kind?_cons]
    cases hget : Entries.get? name entries <;> simp [Node.child?, hget]
  rw [Entries.mem_names_iff, hkind, ← Option.isSome_iff_exists, Option.isSome_map]

/-- A directory with nothing below it has no entries. -/
theorem Bare.at?_eq {files : FileSystem} {place : Place} (h : files.Bare place)
    (hkind : files.kind? place = some .directory) : files.at? place = some (.directory []) := by
  obtain ⟨entries, hentries⟩ := exists_entries_of_kind? hkind
  cases entries with
  | nil => exact hentries
  | cons entry rest =>
      have hmem : entry.1 ∈ Entries.names (entry :: rest) :=
        List.mem_map_of_mem List.mem_cons_self
      obtain ⟨kind, hentry⟩ := (mem_names_iff hentries).mp hmem
      exact absurd (h entry.1) (by simp [hentry])

end FileSystem

/-! ### Places apart -/

/-- Neither of two places holds the other one. -/
structure Place.Apart (place other : Place) : Prop where
  left : ¬ place <+: other
  right : ¬ other <+: place

namespace Place.Apart

variable {place other : Place}

theorem symm (h : place.Apart other) : other.Apart place :=
  ⟨h.right, h.left⟩

/-- What is below one of two places is not below the other one. -/
theorem not_below (h : place.Apart other) (rest more : Place) :
    ¬ other ++ rest <+: place ++ more := by
  intro hbegins
  have hother : other <+: place ++ more := (List.prefix_append other rest).trans hbegins
  rcases List.prefix_or_prefix_of_prefix hother (List.prefix_append place more) with h' | h'
  · exact h.right h'
  · exact h.left h'

theorem append (h : place.Apart other) (rest more : Place) :
    Place.Apart (place ++ rest) (other ++ more) :=
  ⟨h.symm.not_below rest more, h.not_below more rest⟩

end Place.Apart

end LineShell
