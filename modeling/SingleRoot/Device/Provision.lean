/-
# Provisioning virtual functions

The number of virtual functions is changed by writing it to a file of the physical function. The
kernel takes a new number only after a reset, so a change from one number to another is refused
unless one of the two is zero. Asking for the number that is there already changes nothing.
-/
import SingleRoot.Device.Query

namespace SingleRoot.Device.Handle

open Host

/-- Provision the given number of virtual functions. -/
def provision (handle : Handle) (count : UInt32) : Action Unit := do
  let configured ← Action.ask handle.configured
  if configured = count then
    Action.note (.alreadyProvisioned handle.address count)
  else if configured ≠ 0 ∧ count ≠ 0 then
    throw (.alreadyProvisioned handle.address configured count)
  else
    let path := handle.entry configuredEntry
    if let some fault ← Action.write path (Text.decimal count.toNat) then
      throw (.io handle.address path fault)
    Action.count .functionsProvisioned count.toNat
    Action.note (.provisioned handle.address configured count)

end SingleRoot.Device.Handle
