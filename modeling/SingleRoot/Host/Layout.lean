/-
# Where the host keeps PCI metadata

A host offers one directory with an entry for each PCI function and one with an entry for each PCI
driver. A `Layout` names the two, so that the whole tree can stand somewhere else than usual. The
module also names the entries that a device directory and a driver directory hold.
-/
import SingleRoot.Host.Path

namespace SingleRoot.Host

/-- The two directories below which PCI functions and PCI drivers are found. -/
structure Layout where
  devicesRoot : HostPath
  driversRoot : HostPath
  deriving DecidableEq, Repr

/-- The usual directory of PCI functions. -/
def usualDevicesRoot : String := "/sys/bus/pci/devices"

/-- The usual directory of PCI drivers. -/
def usualDriversRoot : String := "/sys/bus/pci/drivers"

/-- The environment variable that moves the directory of PCI functions. -/
def devicesRootVariable : String := "SRIOV_PCI_DEVICES_PATH"

/-- The environment variable that moves the directory of PCI drivers. -/
def driversRootVariable : String := "SRIOV_PCI_DRIVERS_PATH"

namespace Layout

/-- The layout of a host as it comes. -/
def usual : Layout :=
  ⟨.ofText usualDevicesRoot, .ofText usualDriversRoot⟩

instance : Inhabited Layout := ⟨usual⟩

/-- The layout that lies below one directory. -/
def below (root : HostPath) : Layout :=
  ⟨root / "devices", root / "drivers"⟩

/-- The layout that the two environment variables ask for. A variable that is unset, or whose value
is no text, leaves its directory where it usually is; an empty value counts. -/
def ofVariables (devices? drivers? : Option Bytes) : Layout :=
  let chosen (value? : Option Bytes) (usualRoot : HostPath) : HostPath :=
    match value? with
    | some value => if Text.isText value then ⟨value⟩ else usualRoot
    | none => usualRoot
  ⟨chosen devices? usual.devicesRoot, chosen drivers? usual.driversRoot⟩

/-- The directory of one PCI function. -/
def deviceDirectory (layout : Layout) (address : String) : HostPath :=
  layout.devicesRoot / address

/-- The directory of one PCI driver. -/
def driverDirectory (layout : Layout) (driver : String) : HostPath :=
  layout.driversRoot / driver

/-- Two layouts agree when their directories have the same components. -/
def sameAs (first second : Layout) : Bool :=
  first.devicesRoot.sameAs second.devicesRoot && first.driversRoot.sameAs second.driversRoot

/-- A layout as diagnostics show it. -/
def describe (layout : Layout) : String :=
  "HostPaths \x7b devices_root: " ++ layout.devicesRoot.quoted ++
    ", drivers_root: " ++ layout.driversRoot.quoted ++ " \x7d"

end Layout

/-! ## Entries of a device directory -/

/-- The file that says how many virtual functions the hardware can provide. -/
def capacityEntry : String := "sriov_totalvfs"

/-- The file that says how many virtual functions are provisioned, and that changes their number
when it is written. -/
def configuredEntry : String := "sriov_numvfs"

/-- What the name of a link to a virtual function starts with; its index follows. -/
def virtualFunctionStem : String := "virtfn"

/-- The directory with an entry for each network interface. -/
def netEntry : String := "net"

/-- The link to the group that the host isolates the function in. -/
def iommuGroupEntry : String := "iommu_group"

/-- The link to the driver that the function is bound to. -/
def driverEntry : String := "driver"

/-- The file that restricts the function to one driver. -/
def overrideEntry : String := "driver_override"

/-! ## Entries of a driver directory -/

/-- The file that releases a function from the driver. -/
def unbindEntry : String := "unbind"

/-- The file that gives a function to the driver. -/
def bindEntry : String := "bind"

end SingleRoot.Host
