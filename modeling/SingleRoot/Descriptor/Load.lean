/-
# Loading descriptors

A descriptor is loaded whole, from a text or from a file that holds it. A text is loaded when it
can be read and nothing in it violates the rules for its kind, and the value is then what has been
read. Loading from a file only reads the file and then loads its text. A descriptor that has been
loaded is reported in the journal.
-/
import SingleRoot.Descriptor.Endpoint
import SingleRoot.Device.Machine

namespace SingleRoot.Descriptor

open Device Host
open Markup (Document)

/-- Why a descriptor cannot be loaded. -/
inductive LoadError where
  | unreadable (path : HostPath) (fault : Fault)
  | undecodable (error : DecodeError)
  | violated (violation : Violation)
  deriving DecidableEq, Repr

namespace LoadError

/-- The text of an error. -/
def text : LoadError → String
  | unreadable path fault => "Failed to read " ++ path.shown ++ ": " ++ fault.message
  | undecodable error => "Failed to parse YAML: " ++ error.message
  | violated violation => violation.text

/-- An error as an error of device management. -/
def toDeviceError (error : LoadError) : DeviceError := .invalidConfig error.text

end LoadError

/-- A kind of descriptor. -/
structure Kind (Descriptor : Type) where
  decode : Document → Except DecodeError Descriptor
  violation? : Descriptor → Option Violation
  /-- What is reported when a descriptor has been loaded. -/
  event : Descriptor → Event

/-- Resource pools, as a kind of descriptor. -/
def ResourcePool.kind : Kind ResourcePool where
  decode := decodeDocument ResourcePool.schema.decode
  violation? := ResourcePool.violation?
  event pool := .resourceLoaded pool.functions.length

/-- Endpoints, as a kind of descriptor. -/
def Endpoint.kind : Kind Endpoint where
  decode := decodeDocument Endpoint.schema.decode
  violation? := Endpoint.violation?
  event endpoint := .endpointLoaded endpoint.hostName endpoint.devices.length

namespace Kind

/-- Accept a descriptor that violates nothing. -/
def validate (kind : Kind Descriptor) (descriptor : Descriptor) : Except LoadError Descriptor :=
  match kind.violation? descriptor with
  | none => .ok descriptor
  | some violation => .error (.violated violation)

/-- The descriptor that a document holds. -/
def ofDocument (kind : Kind Descriptor) (document : Document) : Except LoadError Descriptor := do
  kind.validate (← (kind.decode document).mapError .undecodable)

/-- The descriptor that a text holds. -/
def ofText (kind : Kind Descriptor) (text : String) : Except LoadError Descriptor :=
  kind.ofDocument (Document.ofText text)

/-- The descriptor that a file holds. -/
def ofFile (kind : Kind Descriptor) (files : FileSystem) (path : HostPath) :
    Except LoadError Descriptor := do
  kind.ofText (← (files.readText path).mapError (.unreadable path))

/-- Load a descriptor and report it. -/
def report (kind : Kind Descriptor) (loaded : Except LoadError Descriptor) :
    Action Descriptor := do
  match loaded with
  | .ok descriptor =>
    Action.note (kind.event descriptor)
    return descriptor
  | .error error => throw error.toDeviceError

/-- Load the descriptor that a text holds. -/
def loadText (kind : Kind Descriptor) (text : String) : Action Descriptor :=
  kind.report (kind.ofText text)

/-- Load the descriptor that a file holds. -/
def loadFile (kind : Kind Descriptor) (path : HostPath) : Action Descriptor := do
  kind.report (kind.ofFile (← get).files path)

end Kind

end SingleRoot.Descriptor
