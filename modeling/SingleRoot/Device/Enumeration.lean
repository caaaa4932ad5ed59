/-
# Virtual functions of a physical function

Each provisioned virtual function appears in the directory of its physical function as a link whose
name is a stem and an index. An enumeration reads these links afresh: a link that leads to something
gives a handle whose address is the last name of the place it leads to, and an entry of that form
that is no link, or that leads nowhere, is skipped and counted. So is an entry that cannot be read when
the directory is listed, of which not even the name is known. Entries of another form play no part. The
handles are in the order of their indices; links with the same index keep the order in which the host
lists them.
-/
import SingleRoot.Device.Query

namespace SingleRoot.Device

open Host

/-- Why an entry gives no virtual function. -/
inductive EntryDefect where
  /-- It cannot be looked at, or its target cannot be found. -/
  | unresolved (fault : Fault)
  /-- It is no link. -/
  | notALink
  /-- It leads to a place whose last name cannot be an address. -/
  | nameless (target : HostPath)
  deriving DecidableEq, Repr

/-- The text of a defect. -/
def EntryDefect.reason : EntryDefect → String
  | unresolved fault => fault.message
  | notALink => "entry is not a symlink"
  | nameless target => "target " ++ target.quoted ++ " has no usable name"

/-- An entry that an enumeration skips. -/
inductive Skip where
  /-- It cannot be read when the directory is listed. -/
  | unreadable (fault : Fault)
  /-- Its name has the form of a virtual function's, but it gives none. -/
  | unresolved (name : Name) (defect : EntryDefect)
  deriving DecidableEq, Repr

namespace Skip

/-- What is reported of an entry that is skipped. -/
def event (address : String) : Skip → Event
  | unreadable fault => .entryUnreadable address fault
  | unresolved name defect => .entrySkipped address name defect.reason

/-- The entry that is skipped, unless something has come of it. -/
def ofResult? : Except Skip α → Option Skip
  | .ok _ => none
  | .error skip => some skip

end Skip

/-- The index in the name of an entry, if the name has the form of a virtual function's. -/
def entryIndex? (name : Name) : Option UInt32 := do
  let characters ← Text.decode? name
  let stem := virtualFunctionStem.toList
  guard (stem.isPrefixOf characters)
  Text.word? (characters.drop stem.length)

/-- What an enumeration found. -/
structure Enumeration where
  /-- The virtual functions with their indices, in the order of the indices. -/
  functions : List (UInt32 × Handle)
  /-- The entries that were skipped, in the order in which the host lists them. -/
  skipped : List Skip
  deriving Repr

namespace Enumeration

/-- The handles that were found, in order. -/
def handles (enumeration : Enumeration) : List Handle :=
  enumeration.functions.map (·.2)

/-- The addresses that were found, in order. -/
def addresses (enumeration : Enumeration) : List String :=
  enumeration.handles.map (·.address)

end Enumeration

namespace Handle

/-- The virtual function that an entry leads to. -/
def followEntry (handle : Handle) (files : FileSystem) (name : Name) :
    Except EntryDefect Handle := do
  let path := handle.directory / (⟨name⟩ : HostPath)
  match ← (files.findLink path).mapError .unresolved with
  | .link _ =>
    let target ← (files.canonical path).mapError .unresolved
    match target.fileName?.bind Text.ofBytes? with
    | some address => return ⟨address, handle.layout⟩
    | none => throw (.nameless target)
  | _ => throw .notALink

/-- What becomes of an entry that is listed: a virtual function with its index, or an entry to skip. An
entry whose name has another form is left alone. -/
def visitEntry (handle : Handle) (files : FileSystem) :
    Entry → Option (Except Skip (UInt32 × Handle))
  | .error fault => some (.error (.unreadable fault))
  | .ok name => (entryIndex? name).map fun index =>
    match handle.followEntry files name with
    | .ok function => .ok (index, function)
    | .error defect => .error (.unresolved name defect)

/-- Sort the entries of a listing into virtual functions and skipped ones. -/
def survey (handle : Handle) (files : FileSystem) (entries : List Entry) : Enumeration :=
  let results := entries.filterMap (handle.visitEntry files)
  let found := results.filterMap Except.toOption
  ⟨found.mergeSort fun first second => first.1 ≤ second.1, results.filterMap Skip.ofResult?⟩

/-- The virtual functions of a physical function. -/
def virtualFunctions (handle : Handle) (files : FileSystem) : Except DeviceError Enumeration :=
  match files.list handle.directory with
  | .error fault => .error (.io handle.address handle.directory fault)
  | .ok entries => .ok (handle.survey files entries)

/-- Enumerate the virtual functions, report and count what was skipped, and report the result. -/
def enumerate (handle : Handle) : Action Enumeration := do
  let enumeration ← Action.ask handle.virtualFunctions
  for skip in enumeration.skipped do
    Action.note (skip.event handle.address)
    Action.count .entriesSkipped 1
  Action.note (.enumerated handle.address enumeration.functions.length enumeration.skipped.length)
  return enumeration

end Handle

end SingleRoot.Device
