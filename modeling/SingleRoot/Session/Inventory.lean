/-
# Sessions on an inventory of devices

A session opens handles on the devices of an inventory, gives them names and asks them. This module
says what each request does to the inventory and what it answers.
-/
import SingleRoot.Session.Request
import SingleRoot.Inventory

namespace SingleRoot.Session

open Device

/-- An inventory of devices with the handles that have been opened on it. -/
structure InventorySession where
  inventory : Inventory
  handles : Handles String
  deriving Repr

/-- What a session on an inventory is told to do. -/
inductive InventoryCommand where
  | openHandle (role : Role) (address name : String)
  | ask (name : String) (request : Request) (storeAs : Option String)
  | register (address : String) (record : Inventory.Record)
  deriving Repr

namespace InventorySession

/-- The session on an inventory before anything has been opened. -/
def start (inventory : Inventory) : InventorySession := ⟨inventory, .none⟩

/-- Ask the device of an address. The inventory is unchanged unless the request succeeds. -/
def respond (inventory : Inventory) (address : String) :
    Request → Except DeviceError (Reply × Inventory)
  | .address => return (.text address, inventory)
  | .netInterface => return (.text (← inventory.netInterface address), inventory)
  | .iommuGroup => return (.count (← inventory.iommuGroup address), inventory)
  | .driver => return (.driver (← inventory.boundDriver address), inventory)
  | .rebind driver => return (.done, ← inventory.rebind address driver)
  | .capacity => return (.count (← inventory.capacity address), inventory)
  | .configured => return (.count (← inventory.configured address), inventory)
  | .provision count => return (.done, ← inventory.provision address count)
  | .directory => return (.text address, inventory)
  | .virtualFunctions => do
    let (addresses, skipped) ← inventory.virtualFunctions address
    return (.functions addresses skipped, inventory)

/-- The handles after a request has been answered. -/
def remember (handles : Handles String) (storeAs : Option String) : Reply → Handles String
  | .functions addresses _ =>
    match storeAs with
    | some stem => handles.storeAll stem addresses
    | none => handles
  | _ => handles

/-- Do what a session is told to do. -/
def step (session : InventorySession) : InventoryCommand → Answer Reply × InventorySession
  | .openHandle role address name =>
    match session.inventory.locate address with
    | .ok handle =>
      (.reply (.text address),
       { session with handles := session.handles.store name role handle })
    | .error error => (.failure error, session)
  | .ask name request storeAs =>
    match session.handles.find? name with
    | none => (.noHandle name, session)
    | some (role, address) =>
      if !role.offers request then (.noCapability, session)
      else match respond session.inventory address request with
        | .ok (reply, inventory) =>
          (.reply reply, ⟨inventory, remember session.handles storeAs reply⟩)
        | .error error => (.failure error, session)
  | .register address record =>
    (.reply .done, { session with inventory := session.inventory.register address record })

end InventorySession

end SingleRoot.Session
