/-
# What changed in a tree

Two trees are compared below one directory. Each entry that came, went, or has another kind,
content or target is reported with its path from that directory and with what it is now.
Permissions are not compared. The report is ordered by the bytes of the paths.
-/
import SingleRoot.Host.Tree

namespace SingleRoot.Host

/-- What an entry is, permissions aside. -/
inductive Appearance where
  | directory
  | file (content : Bytes)
  | link (target : HostPath)
  deriving DecidableEq, Repr

/-- What a node looks like. -/
def Node.appearance : Node → Appearance
  | .directory _ => .directory
  | .file _ content => .file content
  | .link target => .link target

/-- An entry that differs between two trees. -/
structure Change where
  path : HostPath
  now : Option Appearance
  deriving DecidableEq, Repr

namespace Tree

/-- The path that leads from a directory down to a location below it. -/
def pathBelow? (directory location : Location) : Option HostPath :=
  if directory.isSuffixOf location then
    match (location.take (location.length - directory.length)).reverse with
    | [] => none
    | first :: others => some ⟨first ++ others.flatMap fun name => slash :: name⟩
  else none

/-- The appearance of each entry below a directory, by its path from there. -/
def snapshot (tree : Tree) (directory : Location) : List (HostPath × Appearance) :=
  tree.rows.filterMap fun row =>
    (pathBelow? directory row.1).map fun path => (path, row.2.appearance)

/-- What changed below a directory. -/
def changes (before after : Tree) (directory : Location) : List Change :=
  let old := before.snapshot directory
  let new := after.snapshot directory
  let gone := old.filterMap fun (path, _) =>
    if (new.lookup path).isNone then some ⟨path, none⟩ else none
  let differing := new.filterMap fun (path, appearance) =>
    if old.lookup path = some appearance then none else some ⟨path, some appearance⟩
  (gone ++ differing).mergeSort fun first second => first.path.bytes ≤ second.path.bytes

end Tree

end SingleRoot.Host
