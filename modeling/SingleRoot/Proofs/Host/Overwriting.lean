/-
# Overwriting a file

A file that stood already is given another content. Then every walk ends where it ended before, at the
same node or at the same free name, except that the file is seen with its new content, and every
directory lists what it listed before. This is more than can be said of a write in general, which may put
a file where a walk used to find nothing.
-/
import SingleRoot.Proofs.Host.Keeping
import SingleRoot.Proofs.Host.Listing

namespace SingleRoot.Host

/-- A node at a location, as it is seen once the file at another has been given a content. -/
def Node.rewritten (written : Location) (content : Bytes) (location : Location) : Node → Node
  | .file permissions old => .file permissions (if location = written then content else old)
  | node => node

/-- The end of a walk, as it is seen once the file at a location has been given a content. -/
def Landing.rewritten (written : Location) (content : Bytes) : Landing → Landing
  | .present location node => .present location (node.rewritten written content location)
  | .vacant parent name => .vacant parent name

@[simp] theorem Landing.location_rewritten (written : Location) (content : Bytes)
    (landing : Landing) : (landing.rewritten written content).location = landing.location := by
  cases landing <;> rfl

namespace FileSystem

/-- A file that stood at a location has been given a content. -/
structure Overwritten (before : FileSystem) (location : Location) (content : Bytes)
    (after : FileSystem) : Prop where
  written : before.FileWritten location content after
  stood : (before.tree.node? location).isSome
  children : ∀ directory, after.tree.children directory = before.tree.children directory
  damage : ∀ directory name, after.tree.damage? directory name = before.tree.damage? directory name

theorem overwritten_put {files : FileSystem} {location : Location} {permissions : Permissions}
    {old content : Bytes} (stands : files.tree.node? location = some (.file permissions old)) :
    files.Overwritten location content
      (files.withTree (files.tree.put location (.file permissions content))) := by
  have stood : (files.tree.node? location).isSome := by simp [stands]
  have notRoot : location ≠ [] := by
    rintro rfl
    simp at stands
  exact ⟨fileWritten_put (.inr ⟨old, stands⟩), stood,
    fun _ => Tree.children_put_of_isSome notRoot stood, files.tree.damage?_put location _⟩

/-- A write along a path that leads to a file overwrites that file. -/
theorem overwritten_of_write {files after : FileSystem} {path : HostPath} {location : Location}
    {permissions : Permissions} {old content : Bytes}
    (found : files.find path = .ok (location, .file permissions old))
    (written : files.write path content = .ok after) : files.Overwritten location content after := by
  obtain ⟨_, _, stands⟩ := find_eq_ok_iff.1 found
  simp only [write, resolve_produce found, bind, Except.bind] at written
  split at written
  · cases written
    exact overwritten_put stands
  · cases written

namespace Overwritten

variable {before after : FileSystem} {written : Location} {content : Bytes} {manner : Manner}

theorem node?_eq (change : before.Overwritten written content after) (location : Location) :
    after.tree.node? location =
      (before.tree.node? location).map (Node.rewritten written content location) := by
  by_cases here : location = written
  · subst here
    have stood := change.stood
    rcases change.written.here with ⟨free, _⟩ | ⟨permissions, old, held, now⟩
    · simp [free] at stood
    · simp [held, now, Node.rewritten]
  · rw [change.written.elsewhere location here]
    cases before.tree.node? location with
    | none => rfl
    | some node => cases node <;> simp [Node.rewritten, here]

/-- A reader of a directory gets the same entries. -/
theorem entries_eq (change : before.Overwritten written content after) (directory : Location) :
    after.tree.entries directory = before.tree.entries directory := by
  rw [Tree.entries, Tree.entries, change.children,
    Tree.readEntry_congr (change.damage directory)]

/-- What was free stays free, and nothing else becomes free. -/
theorem isSome_node? (change : before.Overwritten written content after) (location : Location) :
    (after.tree.node? location).isSome = (before.tree.node? location).isSome := by
  rw [change.node?_eq, Option.isSome_map]

theorem walkFrom_eq (change : before.Overwritten written content after)
    {former latter : Location → List Step → Except Errno Landing}
    (there : ∀ location steps,
      latter location steps = (former location steps).map (Landing.rewritten written content))
    (location : Location) (steps : List Step) :
    after.walkFrom manner latter location steps =
      (before.walkFrom manner former location steps).map (Landing.rewritten written content) := by
  induction steps generalizing location with
  | nil =>
    rw [walkFrom, walkFrom, change.node?_eq]
    cases before.tree.node? location <;> rfl
  | cons step rest ih =>
    rw [walkFrom, walkFrom, change.node?_eq, change.written.caller]
    cases before.tree.node? location with
    | none => rfl
    | some node =>
      cases node with
      | file _ _ => rfl
      | link _ => rfl
      | directory permissions =>
        simp only [Option.map_some, Node.rewritten]
        cases step with
        | settle => exact ih location
        | stay =>
          dsimp only
          split
          · exact ih location
          · rfl
        | ascend =>
          dsimp only
          split
          · exact ih location.tail
          · rfl
        | enter name =>
          dsimp only
          rw [change.node?_eq]
          split
          · rfl
          split
          · rfl
          split
          · rfl
          cases before.tree.node? (name :: location) with
          | none =>
            dsimp only [Option.map_none]
            split <;> rfl
          | some next =>
            cases next with
            | directory _ => exact ih (name :: location)
            | file _ _ => exact ih (name :: location)
            | link target =>
              dsimp only [Option.map_some, Node.rewritten]
              split
              · rfl
              · exact there _ _

/-- A walk ends where it ended before the file was overwritten. -/
theorem walk_eq (change : before.Overwritten written content after) (links : Nat)
    (location : Location) (steps : List Step) :
    after.walk manner links location steps =
      (before.walk manner links location steps).map (Landing.rewritten written content) := by
  induction links generalizing location steps with
  | zero =>
    rw [walk, walk]
    refine change.walkFrom_eq ?_ location steps
    intro _ _
    rfl
  | succ links ih => exact change.walkFrom_eq ih location steps

theorem resolve_eq (change : before.Overwritten written content after) (path : HostPath) :
    after.resolve manner path =
      (before.resolve manner path).map (Landing.rewritten written content) := by
  rw [FileSystem.resolve_eq, FileSystem.resolve_eq]
  cases path.refusal? with
  | some fault => rfl
  | none =>
    rw [change.written.start, change.walk_eq]
    cases before.walk manner linkLimit (before.start path) path.steps <;> rfl

end Overwritten
end FileSystem
end SingleRoot.Host
