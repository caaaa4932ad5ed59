/-
# Resource pools

A descriptor of the physical functions that are offered to a resource pool. A function is offered
under a domain and with a capability, neither of which may be blank, and by the address of its
device, which must be a PCI address.
-/
import SingleRoot.Descriptor.Decoding
import SingleRoot.Pci.Address
import SingleRoot.Text.Blank

namespace SingleRoot.Descriptor

/-- A physical function that is offered to the pool. -/
structure PooledFunction where
  domain : String
  capability : String
  address : String
  /-- What the function is connected to, if anything. -/
  connectedTo : String
  deriving DecidableEq, Repr

/-- The physical functions that are offered to a resource pool. -/
structure ResourcePool where
  functions : List PooledFunction
  deriving DecidableEq, Repr

/-! ## Validity -/

/-- Why a descriptor cannot be used although it can be read. Except for the name of a host, what is
wrong belongs to the device of an address. -/
inductive Violation where
  | blankHostName
  | blankDomain (address : String)
  | blankCapability (address : String)
  | badAddress (address : String)
  deriving DecidableEq, Repr

/-- The text of a violation. -/
def Violation.text : Violation → String
  | blankHostName => "endpoint hostName must not be empty"
  | blankDomain address => "registryDomainName must not be empty for device " ++ address
  | blankCapability address => "capability must not be empty for device " ++ address
  | badAddress address => "Invalid PCI address: " ++ address ++ " (expected: 0000:01:00.0)"

/-- The first violation of a function of a pool. -/
def PooledFunction.violation? (function : PooledFunction) : Option Violation :=
  if Text.isBlankText function.domain then some (.blankDomain function.address)
  else if Text.isBlankText function.capability then some (.blankCapability function.address)
  else if !Pci.isAddressText function.address then some (.badAddress function.address)
  else none

/-- The first violation of a pool. -/
def ResourcePool.violation? (pool : ResourcePool) : Option Violation :=
  pool.functions.findSome? PooledFunction.violation?

/-! ## Reading -/

/-- A function of a pool of which some fields have been read. -/
structure PooledFunction.Draft where
  domain : Option String
  capability : Option String
  address : Option String
  connectedTo : Option String

/-- How a function of a pool is read. -/
def PooledFunction.schema : Schema PooledFunction.Draft PooledFunction where
  name := "ResourceDomain"
  blank := ⟨none, none, none, none⟩
  field
    | "registryDomainName" => some <|
      fillIn "registryDomainName" (·.domain.isSome) decodeString
        fun draft value => { draft with domain := some value }
    | "capability" => some <|
      fillIn "capability" (·.capability.isSome) decodeString
        fun draft value => { draft with capability := some value }
    | "devicePciAddress" => some <|
      fillIn "devicePciAddress" (·.address.isSome) decodeString
        fun draft value => { draft with address := some value }
    | "connectedToPort" => some <|
      fillIn "connectedToPort" (·.connectedTo.isSome) decodeString
        fun draft value => { draft with connectedTo := some value }
    | _ => none
  finish draft := do
    return {
      domain := ← require "registryDomainName" draft.domain
      capability := ← require "capability" draft.capability
      address := ← require "devicePciAddress" draft.address
      connectedTo := draft.connectedTo.getD "" }

namespace ResourcePool

/-- The pool to which nothing is offered. -/
def empty : ResourcePool := ⟨[]⟩

instance : Inhabited ResourcePool := ⟨empty⟩

/-- How a pool is read. -/
def schema : Schema (Option (List PooledFunction)) ResourcePool where
  name := "ResourceConfig"
  blank := none
  field
    | "physicalFunctions" => some <|
      fillIn "physicalFunctions" Option.isSome (decodeSequence PooledFunction.schema.decode)
        fun _ value => some value
    | _ => none
  finish draft := return ⟨draft.getD []⟩

end ResourcePool

end SingleRoot.Descriptor
