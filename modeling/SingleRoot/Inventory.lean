/-
# Devices without hardware

An inventory of devices that stands in for a host. Each registered address has a record of what its
device would report; rebinding and provisioning change the record, so that a later query through
any handle sees the change. A handle is nothing but an address, and an address stays registered
once it is.
-/
import SingleRoot.Device.Error

namespace SingleRoot

open Device

/-- What a device in an inventory reports. -/
structure Inventory.Record where
  netInterface : Option String
  iommuGroup : Option UInt32
  driver : Option String
  capacity : UInt32
  configured : UInt32
  /-- The addresses reported as virtual functions. Those that are not registered are skipped. -/
  virtualFunctions : List String
  deriving DecidableEq, Repr

/-- The record of a device that has nothing. -/
def Inventory.Record.bare : Inventory.Record := ⟨none, none, none, 0, 0, []⟩

instance : Inhabited Inventory.Record := ⟨Inventory.Record.bare⟩

/-- The registered devices, in the order of their registration. -/
structure Inventory where
  records : List (String × Inventory.Record)
  deriving DecidableEq, Repr

namespace Inventory

/-- The inventory without devices. -/
def empty : Inventory := ⟨[]⟩

/-- The record of an address. -/
def record? (inventory : Inventory) (address : String) : Option Record :=
  inventory.records.lookup address

/-- Set the record of an address among the rows, adding it if there is none. -/
def setRow (address : String) (record : Record) :
    List (String × Record) → List (String × Record)
  | [] => [(address, record)]
  | (other, old) :: rest =>
    if other = address then (other, record) :: rest
    else (other, old) :: setRow address record rest

/-- Register a device, in the place of an older one of the same address. -/
def register (inventory : Inventory) (address : String) (record : Record) : Inventory :=
  ⟨setRow address record inventory.records⟩

/-- Check that a handle can be opened on an address. -/
def locate (inventory : Inventory) (address : String) : Except DeviceError String := do
  checkAddress address
  match inventory.record? address with
  | some _ => return address
  | none => throw (.notFound address "PCI device")

/-- The record that a handle refers to. -/
def find (inventory : Inventory) (address : String) : Except DeviceError Record :=
  match inventory.record? address with
  | some record => .ok record
  | none => .error (.notFound address "PCI device")

/-! ## Queries -/

/-- The network interface of a device. -/
def netInterface (inventory : Inventory) (address : String) : Except DeviceError String := do
  match (← inventory.find address).netInterface with
  | some interface => return interface
  | none => throw (.notFound address "network interface")

/-- The group that the device is isolated in. -/
def iommuGroup (inventory : Inventory) (address : String) : Except DeviceError UInt32 := do
  match (← inventory.find address).iommuGroup with
  | some group => return group
  | none => throw (.resolution address (.ofText "iommu_group") "no IOMMU group")

/-- The driver of a device. -/
def boundDriver (inventory : Inventory) (address : String) : Except DeviceError (Option String) :=
  return (← inventory.find address).driver

/-- How many virtual functions the device could provide. -/
def capacity (inventory : Inventory) (address : String) : Except DeviceError UInt32 :=
  return (← inventory.find address).capacity

/-- How many virtual functions are provisioned. -/
def configured (inventory : Inventory) (address : String) : Except DeviceError UInt32 :=
  return (← inventory.find address).configured

/-- The registered virtual functions of a device, in the order of its record, and the number of
those that are not registered. -/
def virtualFunctions (inventory : Inventory) (address : String) :
    Except DeviceError (List String × Nat) := do
  let listed := (← inventory.find address).virtualFunctions
  let (registered, missing) := listed.partition fun other => (inventory.record? other).isSome
  return (registered, missing.length)

/-! ## Changes -/

/-- Bind a device to a driver, whatever it is called. -/
def rebind (inventory : Inventory) (address driver : String) : Except DeviceError Inventory := do
  let record ← inventory.find address
  return inventory.register address { record with driver := some driver }

/-- Provision a number of virtual functions. As on a host, a number is exchanged for another only
if one of the two is zero. -/
def provision (inventory : Inventory) (address : String) (count : UInt32) :
    Except DeviceError Inventory := do
  let record ← inventory.find address
  if record.configured ≠ count ∧ record.configured ≠ 0 ∧ count ≠ 0 then
    throw (.alreadyProvisioned address record.configured count)
  return inventory.register address { record with configured := count }

/-- The addresses whose records differ from those of an earlier inventory, with the records. -/
def changes (before after : Inventory) : List (String × Record) :=
  (after.records.filter fun (address, record) => before.record? address != some record).mergeSort
    fun first second => first.1 ≤ second.1

/-! ## The inventory as a function -/

theorem lookup_setRow (address other : String) (record : Record)
    (rows : List (String × Record)) :
    (setRow address record rows).lookup other =
      if other = address then some record else rows.lookup other := by
  induction rows with
  | nil => grind [setRow]
  | cons row rest ih => grind [setRow]

/-- Registering sets one record and leaves all others. -/
@[simp] theorem record?_register (inventory : Inventory) (address other : String)
    (record : Record) :
    (inventory.register address record).record? other =
      if other = address then some record else inventory.record? other :=
  lookup_setRow address other record inventory.records

end Inventory

end SingleRoot
