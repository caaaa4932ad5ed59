/-
# Changes from outside

A device tree is changed by others than its readers: the kernel adds and removes links when a
device is bound, an administrator lays out files, and storage fails. An `Edit` is one such change. Edits are made
with all rights and never fail: one that cannot be made leaves the tree as it is. The parents of
what is put in place are made as needed, and links on the way to them are followed.
-/
import SingleRoot.Host.Walk

namespace SingleRoot.Host

/-- One change to a tree. -/
inductive Edit where
  /-- Make a directory, in place of anything else that stands there. -/
  | makeDirectory (path : HostPath)
  /-- Replace what stands there by a file. -/
  | placeFile (path : HostPath) (content : Bytes)
  /-- Replace what stands there by a link. -/
  | placeLink (path : HostPath) (target : HostPath)
  /-- Take away what stands there and everything below it. -/
  | remove (path : HostPath)
  /-- Set the permissions of what the path leads to. -/
  | setPermissions (path : HostPath) (permissions : Permissions)
  /-- Damage the directory that the path leads to, or mend it by damage to no entry. -/
  | spoil (path : HostPath) (damage : Damage)
  deriving DecidableEq, Repr

namespace Edit

/-- The file system as the one who makes the edits sees it. -/
def view (directory : Location) (tree : Tree) : FileSystem :=
  ⟨tree, directory, .superuser⟩

/-- Go where the steps lead and make the directories that are missing on the way. -/
def descend (tree : Tree) (location : Location) : List Step → Option (Tree × Location)
  | [] => some (tree, location)
  | .enter name :: rest =>
    match tree.node? (name :: location) with
    | none =>
      descend (tree.put (name :: location) (.directory .newDirectory)) (name :: location) rest
    | some (.directory _) => descend tree (name :: location) rest
    | some (.file _ _) => none
    | some (.link _) =>
      match (view [] tree).walk .look linkLimit location [.enter name] with
      | .ok (.present further (.directory _)) => descend tree further rest
      | _ => none
  | .ascend :: rest => descend tree location.tail rest
  | .stay :: rest | .settle :: rest => descend tree location rest

/-- Where an edit takes place: the tree with all parents made, and the location. -/
def place? (directory : Location) (tree : Tree) (path : HostPath) : Option (Tree × Location) :=
  let steps := path.steps.filter (· ≠ .settle)
  match steps.getLast? with
  | some (.enter name) => do
    let (tree, parent) ← descend tree ((view directory tree).start path) steps.dropLast
    return (tree, name :: parent)
  | _ => none

/-- Make an edit, relative paths starting from the given directory. -/
def apply (directory : Location) (tree : Tree) : Edit → Tree
  | .makeDirectory path =>
    match place? directory tree path with
    | none => tree
    | some (tree, location) =>
      match tree.node? location with
      | some (.directory _) => tree
      | _ => tree.put location (.directory .newDirectory)
  | .placeFile path content =>
    match place? directory tree path with
    | none => tree
    | some (tree, location) => (tree.remove location).put location (.file .newFile content)
  | .placeLink path target =>
    match place? directory tree path with
    | none => tree
    | some (tree, location) => (tree.remove location).put location (.link target)
  | .remove path =>
    match (view directory tree).resolve .lookAtLink path with
    | .ok (.present location _) => tree.remove location
    | _ => tree
  | .setPermissions path permissions =>
    match (view directory tree).resolve .look path with
    | .ok (.present location (.directory _)) => tree.put location (.directory permissions)
    | .ok (.present location (.file _ content)) => tree.put location (.file permissions content)
    | _ => tree
  | .spoil path damage =>
    match (view directory tree).resolve .look path with
    | .ok (.present location (.directory _)) => tree.spoil location damage
    | _ => tree

/-- Make several edits, one after the other. -/
def applyAll (directory : Location) (tree : Tree) (edits : List Edit) : Tree :=
  edits.foldl (apply directory) tree

end Edit

end SingleRoot.Host
