/-
# The tree of a host

What a host stores: directories, files and symbolic links. A tree is a table from locations to
nodes. A location is the list of names that leads to it from the root, innermost name first, so
that the parent of a location is its tail and a subtree is a common suffix. The root itself is a
directory that always exists and has no row.

Nothing in this module follows a link; see `SingleRoot.Host.Walk`. The order of the rows is the
order in which directories list their entries. A row whose parent is no directory cannot be reached
by any walk, so no invariant on tables is needed.

A directory can be damaged. Its entries are still there and can be reached by their paths, but whoever
lists it finds an error in the place of some of them.
-/
import SingleRoot.Host.Fault
import SingleRoot.Host.Path

namespace SingleRoot.Host

/-- A place in a tree: the names that lead to it from the root, innermost first. -/
abbrev Location := List Name

/-- What the owner of a node may do with it. For a directory, `read` allows to list it, `write` to
create and remove entries, and `search` to go through it. -/
structure Permissions where
  read : Bool
  write : Bool
  search : Bool
  deriving DecidableEq, Repr

namespace Permissions

/-- The permissions of a directory that has just been made. -/
def newDirectory : Permissions := ⟨true, true, true⟩

/-- The permissions of a file that has just been made. -/
def newFile : Permissions := ⟨true, true, false⟩

/-- The permissions that a mode number grants to the owner. -/
def ofMode (mode : Nat) : Permissions :=
  ⟨mode.testBit 8, mode.testBit 7, mode.testBit 6⟩

end Permissions

/-- What stands at a location. -/
inductive Node where
  | directory (permissions : Permissions)
  | file (permissions : Permissions) (content : Bytes)
  | link (target : HostPath)
  deriving DecidableEq, Repr

/-- Damage to a directory: the entries that cannot be read when it is listed, and the error that a reader
gets in the place of each, the same for all of them. That there is no such entry is none of these errors,
because a directory that goes away while it is listed has come to its end. -/
structure Damage where
  names : List Name
  errno : Errno
  present : errno ≠ .noSuchEntry
  deriving DecidableEq, Repr

/-- What a reader gets of an entry when a directory is listed: its name, or why it cannot be read. -/
abbrev Entry := Except Fault Name

/-- Everything a host stores. -/
structure Tree where
  rows : List (Location × Node)
  /-- The directories that are damaged. -/
  damaged : List (Location × Damage) := []
  deriving DecidableEq, Repr

namespace Tree

/-- The tree that holds nothing but its root. -/
def empty : Tree := { rows := [] }

instance : Inhabited Tree := ⟨empty⟩

/-- What stands at a location. -/
def node? (tree : Tree) : Location → Option Node
  | [] => some (.directory .newDirectory)
  | location => tree.rows.lookup location

/-- The name by which a row is an entry of the given directory. -/
def entryName? (directory : Location) : Location → Option Name
  | [] => none
  | name :: parent => if parent = directory then some name else none

/-- The names of the entries of a directory, in the order in which it lists them. -/
def children (tree : Tree) (directory : Location) : List Name :=
  (tree.rows.filterMap fun row => entryName? directory row.1).eraseDups

/-- Why an entry of a directory cannot be read when the directory is listed. -/
def damage? (tree : Tree) (directory : Location) (name : Name) : Option Fault :=
  (tree.damaged.lookup directory).bind fun damage =>
    if name ∈ damage.names then some (.system damage.errno) else none

/-- What a reader gets of an entry of a directory. -/
def readEntry (tree : Tree) (directory : Location) (name : Name) : Entry :=
  match tree.damage? directory name with
  | none => .ok name
  | some fault => .error fault

/-- What a reader gets of all entries of a directory, in the order in which it lists them. -/
def entries (tree : Tree) (directory : Location) : List Entry :=
  (tree.children directory).map (tree.readEntry directory)

/-- Put a node at a location, in the place of what stood there. -/
def put (tree : Tree) (location : Location) (node : Node) : Tree :=
  if (tree.rows.lookup location).isSome then
    { tree with rows := tree.rows.map fun row => if row.1 = location then (location, node) else row }
  else { tree with rows := tree.rows ++ [(location, node)] }

/-- Take away a location and everything below it. -/
def remove (tree : Tree) (location : Location) : Tree :=
  ⟨tree.rows.filter fun row => !location.isSuffixOf row.1,
    tree.damaged.filter fun row => !location.isSuffixOf row.1⟩

/-- Damage a directory, in the place of any other damage to it. -/
def spoil (tree : Tree) (directory : Location) (damage : Damage) : Tree :=
  { tree with damaged := (directory, damage) :: tree.damaged }

/-! ## The table as a function -/

@[simp] theorem node?_nil (tree : Tree) :
    tree.node? [] = some (.directory .newDirectory) := rfl

theorem node?_cons (tree : Tree) (name : Name) (parent : Location) :
    tree.node? (name :: parent) = tree.rows.lookup (name :: parent) := rfl

/-- What is put in a tree neither damages nor mends a directory. -/
@[simp] theorem damage?_put (tree : Tree) (location : Location) (node : Node) (directory : Location)
    (name : Name) : (tree.put location node).damage? directory name = tree.damage? directory name := by
  rw [put]
  split <;> rfl

end Tree

end SingleRoot.Host
