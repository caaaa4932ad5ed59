/-
# Requests and replies

What can be asked of a PCI function and what comes back. Every backend answers the same requests
with the same replies, so that two backends can be compared request by request. What may be asked
of a handle depends on its role: any function can be queried and rebound, a physical function also
reports its virtual functions, and provisioning needs a handle that was opened for it.
-/
import SingleRoot.Device.Error

namespace SingleRoot.Session

open Device Host

/-- What a handle was opened for. -/
inductive Role where
  /-- A function of which nothing more is known. -/
  | plain
  /-- A physical function, for discovery. -/
  | physical
  /-- A physical function, for discovery and provisioning. -/
  | configurable
  /-- A physical function that was opened on the host without any intermediary. -/
  | direct
  /-- A virtual function that an enumeration has found. -/
  | virtual
  deriving DecidableEq, Repr

/-- What can be asked of a function. -/
inductive Request where
  | address
  | netInterface
  | iommuGroup
  | driver
  | rebind (driver : String)
  | capacity
  | configured
  | provision (count : UInt32)
  | directory
  | virtualFunctions
  deriving DecidableEq, Repr

/-- What a function answers. -/
inductive Reply where
  | done
  | text (text : String)
  | count (count : UInt32)
  | driver (driver : Option String)
  | path (path : HostPath)
  | functions (addresses : List String) (skipped : Nat)
  deriving DecidableEq, Repr

/-- Whether a handle of this role can be asked for this. -/
def Role.offers (role : Role) : Request → Bool
  | .capacity | .configured | .virtualFunctions =>
    role == .physical || role == .configurable || role == .direct
  | .provision _ => role == .configurable || role == .direct
  | .directory => role == .plain || role == .direct
  | _ => true

/-- How a request to a session ends. -/
inductive Answer (α : Type) where
  | reply (reply : α)
  | failure (error : DeviceError)
  /-- There is no handle of this name. -/
  | noHandle (name : String)
  /-- The handle cannot be asked for this. -/
  | noCapability
  deriving DecidableEq, Repr

/-! ## Names for handles -/

/-- The handles that a session has opened, by the names it gave them. -/
structure Handles (H : Type) where
  named : List (String × Role × H)
  deriving Repr

namespace Handles

/-- No handle has been opened. -/
def none : Handles H := ⟨[]⟩

/-- The handle of a name. -/
def find? (handles : Handles H) (name : String) : Option (Role × H) :=
  handles.named.lookup name

/-- Give a name to a handle; an older handle of that name is forgotten. -/
def store (handles : Handles H) (name : String) (role : Role) (handle : H) : Handles H :=
  ⟨(name, role, handle) :: handles.named.filter fun row => row.1 != name⟩

/-- Give names to the virtual functions of an enumeration: a common stem and their numbers from
zero. Handles with higher numbers stay. -/
def storeAll (handles : Handles H) (stem : String) (found : List H) : Handles H :=
  found.zipIdx.foldl
    (fun handles (handle, number) =>
      handles.store (stem ++ Text.decimal number) .virtual handle)
    handles

end Handles

end SingleRoot.Session
