/-
# Errors of device management

What can go wrong when a PCI function is looked up, queried, rebound or provisioned. Each error is
a cause with the facts that describe it, and names the address it concerns; only a descriptor that
cannot be used concerns no address. The wording of all errors is in `DeviceError.message`.
-/
import SingleRoot.Host.Fault
import SingleRoot.Host.Path
import SingleRoot.Pci.Address

namespace SingleRoot.Device

open Host

/-- The three writes of a rebind, in their order. -/
inductive Stage where
  | unbind
  | override
  | bind
  deriving DecidableEq, Repr

/-- The name of a stage, which is also the name of the file it writes. -/
def Stage.name : Stage → String
  | unbind => "unbind"
  | override => "driver_override"
  | bind => "bind"

/-- Why a management call failed. -/
inductive DeviceError where
  /-- The host has no such thing for the address. -/
  | notFound (address resource : String)
  /-- The address is not written as a PCI address. -/
  | invalidAddress (address : String)
  /-- The host refused an access. -/
  | io (address : String) (path : HostPath) (fault : Fault)
  /-- A file does not hold what it should. -/
  | parse (address : String) (path : HostPath) (content : String)
  /-- A link does not lead to what it should. -/
  | resolution (address : String) (path : HostPath) (reason : String)
  /-- A write of a rebind failed. `previous` is the driver that the function had already been
  released from; when it is there, the function is left without a driver. -/
  | bindFailure (address driver : String) (stage : Stage) (previous : Option String) (fault : Fault)
  /-- Another number of virtual functions is provisioned already. -/
  | alreadyProvisioned (address : String) (configured requested : UInt32)
  /-- A descriptor cannot be used. -/
  | invalidConfig (reason : String)
  deriving DecidableEq, Repr

namespace DeviceError

/-- The address an error concerns. -/
def address? : DeviceError → Option String
  | notFound address _ | invalidAddress address | io address _ _ | parse address _ _
  | resolution address _ _ | bindFailure address _ _ _ _ | alreadyProvisioned address _ _ =>
    some address
  | invalidConfig _ => none

/-- The fault of the host behind an error. -/
def fault? : DeviceError → Option Fault
  | io _ _ fault | bindFailure _ _ _ _ fault => some fault
  | _ => none

/-- The text of an error. -/
def message : DeviceError → String
  | notFound address resource => resource ++ " not found for " ++ address
  | invalidAddress address =>
    "Invalid PCI address format: " ++ address ++ " (expected: 0000:01:00.0)"
  | io address path fault =>
    "I/O error for " ++ address ++ " at " ++ path.quoted ++ ": " ++ fault.message
  | parse address path content =>
    "Unexpected content " ++ Text.quote content ++ " for " ++ address ++ " at " ++ path.quoted
  | resolution address path reason =>
    "Failed to resolve " ++ path.quoted ++ " for " ++ address ++ ": " ++ reason
  | bindFailure address driver stage _ fault =>
    "Failed to bind " ++ address ++ " to " ++ driver ++ " (" ++ stage.name ++ " step): " ++
      fault.message
  | alreadyProvisioned address configured requested =>
    "Device " ++ address ++ " already has " ++ Text.decimal configured.toNat ++
      " virtual functions; reset to 0 before requesting " ++ Text.decimal requested.toNat
  | invalidConfig reason => "Invalid configuration: " ++ reason

end DeviceError

/-- Accept a text that is a PCI address. -/
def checkAddress (address : String) : Except DeviceError Unit :=
  if Pci.isAddressText address then .ok () else .error (.invalidAddress address)

end SingleRoot.Device
