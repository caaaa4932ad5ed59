/-
# Host paths

A path is a run of bytes in which slashes separate names. This module joins paths, takes them apart
and compares them. Two ways of taking a path apart are needed. Its *components* are what it says
when it is only read: repeated slashes, inner dots and a slash at the end mean nothing, while a
double dot stays as it is. They decide equality and the name a path ends in. The steps of a walk,
in which a slash at the end does mean something, belong to `SingleRoot.Host.Walk`.
-/
import SingleRoot.Text.Quoted

namespace SingleRoot.Host

/-- A path on the host. -/
structure HostPath where
  bytes : Bytes
  deriving DecidableEq, Repr

/-- The name of an entry in a directory. -/
abbrev Name := Bytes

/-- The byte that separates names. -/
def slash : UInt8 := 0x2F

/-- The name by which a directory refers to itself. -/
def dot : Name := [0x2E]

/-- The name by which a directory refers to its parent. -/
def doubleDot : Name := [0x2E, 0x2E]

namespace HostPath

/-- The path spelled by a text. -/
def ofText (text : String) : HostPath :=
  ⟨Text.toBytes text⟩

/-- An absolute path starts at the root of the tree. -/
def isAbsolute (path : HostPath) : Bool :=
  path.bytes.head? == some slash

/-- Continue a path by another. An absolute continuation replaces what stands before it, and a
slash is put between the two where there is none; continuing by the empty path therefore leaves a
slash at the end. -/
def join (base continuation : HostPath) : HostPath :=
  if continuation.isAbsolute || base.bytes.isEmpty then continuation
  else if base.bytes.getLast? == some slash then ⟨base.bytes ++ continuation.bytes⟩
  else ⟨base.bytes ++ slash :: continuation.bytes⟩

instance : HDiv HostPath HostPath HostPath := ⟨join⟩

/-- The entry of the given name below a path. -/
instance : HDiv HostPath String HostPath := ⟨fun base name => base.join (ofText name)⟩

/-- The stretches between slashes, empty ones included; one more than there are slashes. -/
def stretches : Bytes → List Bytes
  | [] => [[]]
  | byte :: rest =>
    if byte = slash then [] :: stretches rest
    else match stretches rest with
      | [] => [[byte]]
      | first :: others => (byte :: first) :: others

/-- What a path is made of when it is only read. -/
inductive Component where
  | root
  | here
  | parent
  | name (name : Name)
  deriving DecidableEq, Repr

/-- The component a stretch stands for after the start of a path, if it means anything there. -/
def Component.ofStretch? (stretch : Bytes) : Option Component :=
  if stretch = [] ∨ stretch = dot then none
  else if stretch = doubleDot then some .parent
  else some (.name stretch)

/-- The components of a path. A dot counts only where a relative path begins with it. -/
def components (path : HostPath) : List Component :=
  let parts := stretches path.bytes
  let first : List Component :=
    if path.isAbsolute then [.root]
    else if parts.head? = some dot then [.here]
    else []
  first ++ parts.filterMap Component.ofStretch?

/-- The name a path ends in. A path that ends in a double dot, or that has no component but its
starting point, ends in no name. -/
def fileName? (path : HostPath) : Option Name :=
  match path.components.getLast? with
  | some (.name name) => some name
  | _ => none

/-- Two paths say the same when they have the same components. -/
def sameAs (first second : HostPath) : Bool :=
  first.components == second.components

/-- The path between quotes, as messages show it. -/
def quoted (path : HostPath) : String :=
  Text.quoteBytes path.bytes

/-- The path as plain text, each stretch that is no text replaced by U+FFFD. -/
def shown (path : HostPath) : String :=
  String.ofList (Text.decodeLossy path.bytes)

end HostPath

end SingleRoot.Host
