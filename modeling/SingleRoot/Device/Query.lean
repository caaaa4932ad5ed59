/-
# Queries on a PCI function

What can be read off a function's directory: the counts of virtual functions, the driver, the IOMMU
group and the network interface. Queries never change anything, so they are plain functions of the
file system.

A link names what it leads to by the last name of its target as it is written; the target itself
need not exist.
-/
import SingleRoot.Device.Handle
import SingleRoot.Text.Blank

namespace SingleRoot.Device

open Host

/-- Why a link gives no answer. -/
inductive LinkDefect where
  /-- It cannot be read. -/
  | unreadable (fault : Fault)
  /-- Its target ends in no name, or in one that is no text. -/
  | nameless (target : HostPath)
  /-- The name is not a group number. -/
  | notANumber (name : String)
  deriving DecidableEq, Repr

/-- The text of a defect. -/
def LinkDefect.reason : LinkDefect → String
  | unreadable fault => fault.message
  | nameless target => "link target " ++ target.quoted ++ " has no usable name"
  | notANumber name => "IOMMU group " ++ Text.quote name ++ " is not a number"

/-- The name under which a missing network interface is reported. -/
def interfaceResource : String := "network interface"

/-- The least of some names by their bytes. -/
def leastName? : List Name → Option Name
  | [] => none
  | name :: rest =>
    match leastName? rest with
    | none => some name
    | some other => some (if other < name then other else name)

namespace Handle

/-- The count that an entry of the directory holds. Blanks around it mean nothing. -/
def readCount (handle : Handle) (name : String) (files : FileSystem) :
    Except DeviceError UInt32 :=
  let path := handle.entry name
  match files.readText path with
  | .error fault => .error (.io handle.address path fault)
  | .ok text =>
    let content := Text.trim text.toList
    match Text.word? content with
    | some count => .ok count
    | none => .error (.parse handle.address path (String.ofList content))

/-- How many virtual functions the hardware can provide. -/
def capacity (handle : Handle) (files : FileSystem) : Except DeviceError UInt32 :=
  handle.readCount capacityEntry files

/-- How many virtual functions are provisioned. -/
def configured (handle : Handle) (files : FileSystem) : Except DeviceError UInt32 :=
  handle.readCount configuredEntry files

/-- The name that a link leads to. -/
def linkName (path : HostPath) (files : FileSystem) : Except LinkDefect String :=
  match files.readLink path with
  | .error fault => .error (.unreadable fault)
  | .ok target =>
    match target.fileName?.bind Text.ofBytes? with
    | some name => .ok name
    | none => .error (.nameless target)

/-- A defect of an entry of the directory, as an error. -/
def linkError (handle : Handle) (path : HostPath) (defect : LinkDefect) : DeviceError :=
  .resolution handle.address path defect.reason

/-- The driver the function is bound to; a function without a driver has no such link. -/
def boundDriver (handle : Handle) (files : FileSystem) : Except DeviceError (Option String) :=
  let path := handle.entry driverEntry
  match files.findLink path with
  | .error fault =>
    if fault.isAbsence then .ok none else .error (.io handle.address path fault)
  | .ok _ => ((linkName path files).mapError (handle.linkError path)).map some

/-- The number of the group that the host isolates the function in. -/
def iommuGroup (handle : Handle) (files : FileSystem) : Except DeviceError UInt32 :=
  let path := handle.entry iommuGroupEntry
  match linkName path files with
  | .error defect => .error (handle.linkError path defect)
  | .ok name =>
    match Text.word? name.toList with
    | some group => .ok group
    | none => .error (handle.linkError path (.notANumber name))

/-- The network interface of the function: of several, the least name. Names that are no text do
not count, but all entries must be readable. -/
def netInterface (handle : Handle) (files : FileSystem) : Except DeviceError String :=
  let path := handle.entry netEntry
  let missing : DeviceError := .notFound handle.address interfaceResource
  match files.list path with
  | .error fault =>
    .error (if fault.isAbsence then missing else .io handle.address path fault)
  | .ok entries =>
    match entries.mapM id with
    | .error fault => .error (.io handle.address path fault)
    | .ok names =>
      match (leastName? (names.filter Text.isText)).bind Text.ofBytes? with
      | some name => .ok name
      | none => .error missing

/-- Query the network interface, and report it. -/
def reportNetInterface (handle : Handle) : Action String := do
  let interface ← Action.ask handle.netInterface
  Action.note (.interfaceRead handle.address interface)
  return interface

end Handle

end SingleRoot.Device
