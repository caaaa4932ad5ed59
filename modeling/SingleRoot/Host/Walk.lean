/-
# Walking a path

What a path means in a tree. A walk starts at the root or at the working directory and takes one
step after another; every step is taken from a directory that the caller may search. A link in the
way is followed by walking its target first, from the directory that holds the link. At most forty
links are followed in one walk.

A walk ends at something that stands in the tree, or at a name that is free in a directory that
exists. Both recursions are structural: one on the steps, one on the links that may still be
followed.
-/
import SingleRoot.Host.Fault
import SingleRoot.Host.Tree

namespace SingleRoot.Host

/-- On whose behalf the host is accessed. The superuser may do everything; the owner of all nodes
may do what their permissions say. -/
inductive Caller where
  | superuser
  | owner
  deriving DecidableEq, Repr

/-- Whether the caller may make use of a permission. -/
def Caller.may (caller : Caller) (granted : Bool) : Bool :=
  caller == .superuser || granted

/-- A tree together with the place and the person that look at it. -/
structure FileSystem where
  tree : Tree
  workingDirectory : Location
  caller : Caller
  deriving DecidableEq, Repr

/-- The longest name an entry can have, in bytes. -/
def longestName : Nat := 255

/-- The longest path the host accepts, in bytes. -/
def longestPath : Nat := 4095

/-- How many links one walk follows. -/
def linkLimit : Nat := 40

/-- One step of a walk. -/
inductive Step where
  /-- Go to the entry of this name. -/
  | enter (name : Name)
  /-- Stay in the directory: a dot. -/
  | stay
  /-- Go to the parent: a double dot. -/
  | ascend
  /-- Be in a directory: a slash at the end. -/
  | settle
  deriving DecidableEq, Repr

/-- The step a stretch between slashes asks for, if any. -/
def Step.ofStretch? (stretch : Bytes) : Option Step :=
  if stretch = [] then none
  else if stretch = dot then some .stay
  else if stretch = doubleDot then some .ascend
  else some (.enter stretch)

/-- The steps of a path. A slash at the end is a step of its own when there is one before it. -/
def HostPath.steps (path : HostPath) : List Step :=
  let steps := (HostPath.stretches path.bytes).filterMap Step.ofStretch?
  if !steps.isEmpty && path.bytes.getLast? == some slash then steps ++ [.settle] else steps

/-- How a walk deals with its end. -/
structure Manner where
  /-- Whether a link at the end is followed. -/
  followLast : Bool
  /-- Whether a file is going to be made at the end if there is none. -/
  create : Bool
  deriving DecidableEq, Repr

/-- Look at what a path leads to. -/
def Manner.look : Manner := ⟨true, false⟩

/-- Look at what a path names, even if it is a link. -/
def Manner.lookAtLink : Manner := ⟨false, false⟩

/-- Write what a path leads to. -/
def Manner.produce : Manner := ⟨true, true⟩

/-- Where a walk ends. -/
inductive Landing where
  | present (location : Location) (node : Node)
  | vacant (parent : Location) (name : Name)
  deriving DecidableEq, Repr

namespace FileSystem

/-- The file system with another tree. -/
def withTree (files : FileSystem) (tree : Tree) : FileSystem :=
  { files with tree }

/-- Where the walk of a path starts. -/
def start (files : FileSystem) (path : HostPath) : Location :=
  if path.isAbsolute then [] else files.workingDirectory

/-- Take the steps that remain, from a location. `detour` says where the walk leads when it comes
to a link: it is given the place to start from and all the steps that are then to be taken. -/
def walkFrom (files : FileSystem) (manner : Manner)
    (detour : Location → List Step → Except Errno Landing) :
    Location → List Step → Except Errno Landing
  | location, [] =>
    match files.tree.node? location with
    | some node => .ok (.present location node)
    | none => .error .noSuchEntry
  | location, step :: rest =>
    match files.tree.node? location with
    | some (.directory permissions) =>
      match step with
      | .settle => files.walkFrom manner detour location rest
      | .stay =>
        if files.caller.may permissions.search then files.walkFrom manner detour location rest
        else .error .accessDenied
      | .ascend =>
        if files.caller.may permissions.search then
          files.walkFrom manner detour location.tail rest
        else .error .accessDenied
      | .enter name =>
        if !files.caller.may permissions.search then .error .accessDenied
        else if manner.create && rest == [.settle] then .error .isDirectory
        else if longestName < name.length then .error .nameTooLong
        else match files.tree.node? (name :: location) with
          | none => if rest.isEmpty then .ok (.vacant location name) else .error .noSuchEntry
          | some (.link target) =>
            if rest.isEmpty && !manner.followLast then
              .ok (.present (name :: location) (.link target))
            else detour (if target.isAbsolute then [] else location) (target.steps ++ rest)
          | some _ => files.walkFrom manner detour (name :: location) rest
    | some _ => .error .notDirectory
    | none => .error .noSuchEntry

/-- Take the steps that remain, following at most the given number of links. -/
def walk (files : FileSystem) (manner : Manner) :
    Nat → Location → List Step → Except Errno Landing
  | 0 => files.walkFrom manner fun _ _ => .error .tooManyLinks
  | links + 1 => files.walkFrom manner (files.walk manner links)

/-- Where a path leads. A path with a NUL byte never reaches the host; the empty path names
nothing, and a path that is too long is refused as a whole. -/
def resolve (files : FileSystem) (manner : Manner) (path : HostPath) : Except Fault Landing :=
  if path.bytes.contains 0 then .error .nulInPath
  else if path.bytes.isEmpty then .error (.system .noSuchEntry)
  else if longestPath < path.bytes.length then .error (.system .nameTooLong)
  else (files.walk manner linkLimit (files.start path) path.steps).mapError .system

end FileSystem

end SingleRoot.Host
