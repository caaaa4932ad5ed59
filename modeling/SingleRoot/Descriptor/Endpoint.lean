/-
# Endpoints

A descriptor of the PCI devices that one host exposes. The host has a name, which may not be blank.
A device has an address, which must be a PCI address, a capability, which may not be blank, labels,
and the target at which its traffic is expected to arrive.
-/
import SingleRoot.Descriptor.Resource

namespace SingleRoot.Descriptor

/-- Where the traffic of a device is expected to arrive. -/
structure Target where
  macAddress : String
  labels : Labels
  deriving DecidableEq, Repr

/-- A device that a host exposes. -/
structure ExposedDevice where
  address : String
  capability : String
  labels : Labels
  target : Option Target
  deriving DecidableEq, Repr

/-- A host with the devices that it exposes. -/
structure Endpoint where
  hostName : String
  devices : List ExposedDevice
  deriving DecidableEq, Repr

/-! ## Validity -/

/-- The first violation of a device. -/
def ExposedDevice.violation? (device : ExposedDevice) : Option Violation :=
  if !Pci.isAddressText device.address then some (.badAddress device.address)
  else if Text.isBlankText device.capability then some (.blankCapability device.address)
  else none

/-- The first violation of an endpoint. -/
def Endpoint.violation? (endpoint : Endpoint) : Option Violation :=
  if Text.isBlankText endpoint.hostName then some .blankHostName
  else endpoint.devices.findSome? ExposedDevice.violation?

/-! ## Reading -/

namespace Target

/-- The target of which nothing is said. -/
def empty : Target := ⟨"", .empty⟩

instance : Inhabited Target := ⟨empty⟩

/-- A target of which some fields have been read. -/
structure Draft where
  macAddress : Option String
  labels : Option Labels

/-- How a target is read. -/
def schema : Schema Draft Target where
  name := "TargetConfig"
  blank := ⟨none, none⟩
  field
    | "macAddress" => some <|
      fillIn "macAddress" (·.macAddress.isSome) decodeString
        fun draft value => { draft with macAddress := some value }
    | "labels" => some <|
      fillIn "labels" (·.labels.isSome) decodeLabels
        fun draft value => { draft with labels := some value }
    | _ => none
  finish draft := return ⟨draft.macAddress.getD "", draft.labels.getD .empty⟩

end Target

namespace ExposedDevice

/-- A device of which some fields have been read. -/
structure Draft where
  address : Option String
  capability : Option String
  labels : Option Labels
  target : Option (Option Target)

/-- How a device is read. -/
def schema : Schema Draft ExposedDevice where
  name := "PciDeviceConfig"
  blank := ⟨none, none, none, none⟩
  field
    | "pciAddress" => some <|
      fillIn "pciAddress" (·.address.isSome) decodeString
        fun draft value => { draft with address := some value }
    | "capability" => some <|
      fillIn "capability" (·.capability.isSome) decodeString
        fun draft value => { draft with capability := some value }
    | "labels" => some <|
      fillIn "labels" (·.labels.isSome) decodeLabels
        fun draft value => { draft with labels := some value }
    | "target" => some <|
      fillIn "target" (·.target.isSome) (decodeOptional Target.schema.decode)
        fun draft value => { draft with target := some value }
    | _ => none
  finish draft := do
    return {
      address := ← require "pciAddress" draft.address
      capability := ← require "capability" draft.capability
      labels := draft.labels.getD .empty
      target := draft.target.getD none }

end ExposedDevice

namespace Endpoint

/-- The host without a name that exposes nothing. It can be made but not be used. -/
def empty : Endpoint := ⟨"", []⟩

instance : Inhabited Endpoint := ⟨empty⟩

/-- An endpoint of which some fields have been read. -/
structure Draft where
  hostName : Option String
  devices : Option (List ExposedDevice)

/-- How an endpoint is read. -/
def schema : Schema Draft Endpoint where
  name := "EndpointConfig"
  blank := ⟨none, none⟩
  field
    | "hostName" => some <|
      fillIn "hostName" (·.hostName.isSome) decodeString
        fun draft value => { draft with hostName := some value }
    | "pciDevices" => some <|
      fillIn "pciDevices" (·.devices.isSome) (decodeSequence ExposedDevice.schema.decode)
        fun draft value => { draft with devices := some value }
    | _ => none
  finish draft := do
    return ⟨← require "hostName" draft.hostName, draft.devices.getD []⟩

end Endpoint

end SingleRoot.Descriptor
