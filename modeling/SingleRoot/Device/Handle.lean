/-
# Handles on PCI functions

A handle names one PCI function of a host by its address and says where the host keeps its
metadata. It holds no state of the device: every query goes to the host again. A handle is opened
only for a well-formed address under which the host has something; the virtual functions of a
physical function come with handles of their own, see `SingleRoot.Device.Enumeration`.
-/
import SingleRoot.Host.Layout
import SingleRoot.Device.Machine

namespace SingleRoot.Device

open Host

/-- A handle on one PCI function of a host. -/
structure Handle where
  address : String
  layout : Layout
  deriving DecidableEq, Repr

/-- The name under which a missing device is reported. -/
def deviceResource : String := "PCI device"

namespace Handle

/-- The directory that the host keeps for the function. -/
def directory (handle : Handle) : HostPath :=
  handle.layout.deviceDirectory handle.address

/-- An entry of the function's directory. -/
def entry (handle : Handle) (name : String) : HostPath :=
  handle.directory / name

/-- Open a handle on a function that the host must have. -/
def ofAddress (files : FileSystem) (layout : Layout) (address : String) :
    Except DeviceError Handle := do
  checkAddress address
  let handle : Handle := ⟨address, layout⟩
  if files.holds handle.directory then return handle
  else throw (.notFound address deviceResource)

/-- Open a handle on a physical function, and report it. -/
def openPhysical (layout : Layout) (address : String) : Action Handle := do
  let handle ← Action.ask fun files => Handle.ofAddress files layout address
  Action.note (.opened address handle.directory)
  return handle

end Handle

end SingleRoot.Device
