/-
# The journal of device management

What a management call reports while it works. An event says what happened; its severity, its
message and its fields are read off from it, so that a call never composes text of its own.
-/
import SingleRoot.Device.Error

namespace SingleRoot.Device

open Host

/-- How much attention an event asks for. -/
inductive Severity where
  | debug
  | info
  | warn
  deriving DecidableEq, Repr

/-- The name of a severity. -/
def Severity.name : Severity → String
  | debug => "DEBUG"
  | info => "INFO"
  | warn => "WARN"

/-- Something that happened during a call. -/
inductive Event where
  | opened (address : String) (directory : HostPath)
  | interfaceRead (address interface : String)
  | alreadyBound (address driver : String)
  | writingDriverFile (address : String) (path : HostPath) (stage : Stage)
  | unbound (address driver : String)
  | autoBound (address driver : String)
  | overrideNotCleared (address : String) (fault : Fault)
  | bound (address driver : String) (previous : Option String)
  | entryUnreadable (address : String) (fault : Fault)
  | entrySkipped (address : String) (entry : Name) (reason : String)
  | enumerated (address : String) (resolved skipped : Nat)
  | alreadyProvisioned (address : String) (count : UInt32)
  | provisioned (address : String) (previous count : UInt32)
  | resourceLoaded (physicalFunctions : Nat)
  | endpointLoaded (host : String) (devices : Nat)
  deriving DecidableEq, Repr

namespace Event

/-- How much attention an event asks for. -/
def severity : Event → Severity
  | overrideNotCleared _ _ | entryUnreadable _ _ | entrySkipped _ _ _ => .warn
  | bound _ _ _ | provisioned _ _ _ | resourceLoaded _ | endpointLoaded _ _ => .info
  | _ => .debug

/-- What an event says, apart from its facts. -/
def message : Event → String
  | opened _ _ => "Opened physical function"
  | interfaceRead _ _ => "Read network interface"
  | alreadyBound _ _ => "Device already bound"
  | writingDriverFile _ _ _ => "Writing driver file"
  | unbound _ _ => "Unbound from driver"
  | autoBound _ _ => "Device auto-bound"
  | overrideNotCleared _ _ => "Failed to clear driver_override"
  | bound _ _ _ => "Device bound to driver"
  | entryUnreadable _ _ => "Unreadable device entry"
  | entrySkipped _ _ _ => "Skipping unresolvable virtual function"
  | enumerated _ _ _ => "Enumerated virtual functions"
  | alreadyProvisioned _ _ => "Virtual functions already provisioned"
  | provisioned _ _ _ => "Provisioned virtual functions"
  | resourceLoaded _ => "Loaded resource config"
  | endpointLoaded _ _ => "Loaded endpoint config"

/-- A driver that may not be there, as a field shows it. -/
def shownDriver : Option String → String
  | none => "None"
  | some driver => "Some(" ++ Text.quote driver ++ ")"

/-- The facts of an event, by name. -/
def fields : Event → List (String × String)
  | opened address directory => [("address", address), ("path", directory.shown)]
  | interfaceRead address interface => [("address", address), ("interface", interface)]
  | alreadyBound address driver | unbound address driver | autoBound address driver =>
    [("address", address), ("driver", driver)]
  | writingDriverFile address path stage =>
    [("address", address), ("path", path.shown), ("stage", stage.name)]
  | overrideNotCleared address fault | entryUnreadable address fault =>
    [("address", address), ("error", fault.message)]
  | bound address driver previous =>
    [("address", address), ("previous", shownDriver previous), ("driver", driver)]
  | entrySkipped address entry reason =>
    [("address", address), ("entry", Text.quoteBytes entry), ("reason", reason)]
  | enumerated address resolved skipped =>
    [("address", address), ("resolved", Text.decimal resolved), ("skipped", Text.decimal skipped)]
  | alreadyProvisioned address count =>
    [("address", address), ("count", Text.decimal count.toNat)]
  | provisioned address previous count =>
    [("address", address), ("previous", Text.decimal previous.toNat),
     ("count", Text.decimal count.toNat)]
  | resourceLoaded physicalFunctions =>
    [("physical_functions", Text.decimal physicalFunctions)]
  | endpointLoaded host devices => [("host", host), ("pci_devices", Text.decimal devices)]

end Event

end SingleRoot.Device
