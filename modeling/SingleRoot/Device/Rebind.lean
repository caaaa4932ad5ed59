/-
# Rebinding a function to another driver

A rebind releases a function from its driver and gives it to another one by at most three writes:
the address to the old driver's unbind file, the new driver's name to the function's override file
if it has one, and the address to the new driver's bind file. There is no retry. A failure after
the release leaves the function without a driver, and the error says so by naming the driver it was
released from.

The kernel may bind the function on its own as soon as the override is set, and the bind write then
fails although all is well. A failed bind write is therefore followed by another look at the driver.
Once the override has been set, it is cleared again on every way out.
-/
import SingleRoot.Device.Query

namespace SingleRoot.Device

open Host

/-- Whether a text can name a driver. Such a name becomes one directory below the drivers root, so
it must be a single name that stays there. -/
def isDriverName (driver : String) : Bool :=
  !driver.isEmpty && driver != "." && driver != ".." &&
    driver.toList.all fun c => c != '/' && c != '\x00'

namespace Handle

/-- The file that releases functions from a driver. -/
def unbindFile (handle : Handle) (driver : String) : HostPath :=
  handle.layout.driverDirectory driver / unbindEntry

/-- The file that gives functions to a driver. -/
def bindFile (handle : Handle) (driver : String) : HostPath :=
  handle.layout.driverDirectory driver / bindEntry

/-- The file that restricts the function to one driver. -/
def overrideFile (handle : Handle) : HostPath :=
  handle.entry overrideEntry

/-- Make the write of one stage of a rebind to `driver`. -/
def writeStage (handle : Handle) (kernel : Interference) (driver : String) (stage : Stage)
    (previous : Option String) (path : HostPath) (content : String) : Action Unit := do
  Action.note (.writingDriverFile handle.address path stage)
  Action.reach kernel (.before stage)
  if let some fault ← Action.write path content then
    throw (.bindFailure handle.address driver stage previous fault)

/-- Release the function from its driver, if it has one. -/
def release (handle : Handle) (kernel : Interference) (driver : String) :
    Option String → Action Unit
  | none => return
  | some current => do
    handle.writeStage kernel driver .unbind none (handle.unbindFile current) handle.address
    Action.reach kernel .afterUnbind
    Action.note (.unbound handle.address current)

/-- Clear the override, if it has been set. A failure is reported and changes nothing else. -/
def clearOverride (handle : Handle) (wasSet : Bool) : Action Unit := do
  if wasSet then
    if let some fault ← Action.write handle.overrideFile "\n" then
      Action.note (.overrideNotCleared handle.address fault)

/-- Whether the function is now bound to a driver. Not being able to tell counts as no. -/
def isBoundTo (handle : Handle) (driver : String) (files : FileSystem) : Bool :=
  match handle.boundDriver files with
  | .ok (some current) => current == driver
  | _ => false

/-- Count and report a rebind that has come to its end. -/
def concludeRebind (handle : Handle) (driver : String) (previous : Option String) :
    Action Unit := do
  Action.count (.driverBinds driver) 1
  Action.note (.bound handle.address driver previous)

/-- Give the function to a driver, after it has been released from `current`. -/
def acquire (handle : Handle) (kernel : Interference) (driver : String)
    (current : Option String) : Action Unit := do
  let restricts := (← get).files.holds handle.overrideFile
  if restricts then
    handle.writeStage kernel driver .override current handle.overrideFile driver
  match ← Action.observe
      (handle.writeStage kernel driver .bind current (handle.bindFile driver) handle.address) with
  | .ok () =>
    handle.clearOverride restricts
    handle.concludeRebind driver current
  | .error failure =>
    if handle.isBoundTo driver (← get).files then
      Action.note (.autoBound handle.address driver)
      handle.clearOverride restricts
      handle.concludeRebind driver current
    else
      handle.clearOverride restricts
      throw failure

/-- Bind the function to a driver, releasing it from its present one first. -/
def rebind (handle : Handle) (kernel : Interference) (driver : String) : Action Unit := do
  if !isDriverName driver then
    throw (.bindFailure handle.address driver .bind none .invalidDriverName)
  let current ← Action.ask handle.boundDriver
  if current = some driver then
    Action.note (.alreadyBound handle.address driver)
  else
    handle.release kernel driver current
    handle.acquire kernel driver current

end Handle

end SingleRoot.Device
