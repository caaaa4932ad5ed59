/-
# Runs of a session

A session is told one thing after another. A step is one command together with the session that is given
it, and a run is the list of its steps, so that a statement about a run can speak of what each command
found, what it answered and what it left. Nobody else is at work on the host between the commands, unless
a command says so.
-/
import SingleRoot.Session.Host
import SingleRoot.Session.Inventory

namespace SingleRoot.Session

open Device Host

/-! ## Runs on a host -/

/-- A command with the session that is given it. Nobody else is at work on the host. -/
structure HostStep where
  layout : Layout
  command : HostCommand
  before : HostSession

namespace HostStep

variable (step : HostStep)

def answer : Answer HostReply :=
  (HostSession.step step.layout .none step.before step.command).1

def after : HostSession :=
  (HostSession.step step.layout .none step.before step.command).2

end HostStep

/-- The steps of a run. -/
def hostSteps (session : HostSession) : List (Layout × HostCommand) → List HostStep
  | [] => []
  | (layout, command) :: rest =>
    let step : HostStep := ⟨layout, command, session⟩
    step :: hostSteps step.after rest

/-! ## Runs on an inventory -/

/-- A command with the session on an inventory that is given it. -/
structure InventoryStep where
  command : InventoryCommand
  before : InventorySession

namespace InventoryStep

variable (step : InventoryStep)

def answer : Answer Reply :=
  (step.before.step step.command).1

def after : InventorySession :=
  (step.before.step step.command).2

end InventoryStep

/-- The steps of a run. -/
def inventorySteps (session : InventorySession) : List InventoryCommand → List InventoryStep
  | [] => []
  | command :: rest =>
    let step : InventoryStep := ⟨command, session⟩
    step :: inventorySteps step.after rest

end SingleRoot.Session
