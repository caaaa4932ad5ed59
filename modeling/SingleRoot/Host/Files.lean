/-
# Access to the host

What a program can ask of a host: whether something is there, what it is, what it holds, and to
write a file. Each access is a walk along its path followed by one look at what the walk found.
Only `write` changes anything, and it changes one file.
-/
import SingleRoot.Host.Walk

namespace SingleRoot.Host.FileSystem

/-- What a path leads to, links followed. -/
def find (files : FileSystem) (path : HostPath) : Except Fault (Location × Node) := do
  match ← files.resolve .look path with
  | .present location node => .ok (location, node)
  | .vacant _ _ => .error (.system .noSuchEntry)

/-- What a path names, the last link not followed. -/
def findLink (files : FileSystem) (path : HostPath) : Except Fault Node := do
  match ← files.resolve .lookAtLink path with
  | .present _ node => .ok node
  | .vacant _ _ => .error (.system .noSuchEntry)

/-- Whether a path leads to anything. Not being able to tell counts as no. -/
def holds (files : FileSystem) (path : HostPath) : Bool :=
  (files.find path).isOk

/-- The content of a file. -/
def read (files : FileSystem) (path : HostPath) : Except Fault Bytes := do
  match ← files.find path with
  | (_, .file permissions content) =>
    if files.caller.may permissions.read then .ok content else .error (.system .accessDenied)
  | (_, .directory permissions) =>
    if files.caller.may permissions.read then .error (.system .isDirectory)
    else .error (.system .accessDenied)
  | (_, .link _) => .error (.system .tooManyLinks)

/-- The content of a file that is text. -/
def readText (files : FileSystem) (path : HostPath) : Except Fault String := do
  match Text.ofBytes? (← files.read path) with
  | some text => .ok text
  | none => .error .notText

/-- The entries of a directory, in the order in which the host lists them. -/
def list (files : FileSystem) (path : HostPath) : Except Fault (List Entry) := do
  match ← files.find path with
  | (location, .directory permissions) =>
    if files.caller.may permissions.read then .ok (files.tree.entries location)
    else .error (.system .accessDenied)
  | _ => .error (.system .notDirectory)

/-- The target of a link, as it is written there. -/
def readLink (files : FileSystem) (path : HostPath) : Except Fault HostPath := do
  match ← files.findLink path with
  | .link target => .ok target
  | _ => .error (.system .invalidArgument)

/-- The absolute path of a location. -/
def absolutePath : Location → HostPath
  | [] => ⟨[slash]⟩
  | location => ⟨location.reverse.flatMap fun name => slash :: name⟩

/-- The absolute path without links that a path stands for. -/
def canonical (files : FileSystem) (path : HostPath) : Except Fault HostPath := do
  let (location, _) ← files.find path
  return absolutePath location

/-- Write a file: what a path leads to takes the given content, or a new file is made there. -/
def write (files : FileSystem) (path : HostPath) (content : Bytes) :
    Except Fault FileSystem := do
  match ← files.resolve .produce path with
  | .present location (.file permissions _) =>
    if files.caller.may permissions.write then
      .ok (files.withTree (files.tree.put location (.file permissions content)))
    else .error (.system .accessDenied)
  | .present _ (.directory _) => .error (.system .isDirectory)
  | .present _ (.link _) => .error (.system .tooManyLinks)
  | .vacant parent name =>
    match files.tree.node? parent with
    | some (.directory permissions) =>
      if files.caller.may permissions.write then
        .ok (files.withTree (files.tree.put (name :: parent) (.file .newFile content)))
      else .error (.system .accessDenied)
    | _ => .error (.system .notDirectory)

end SingleRoot.Host.FileSystem
