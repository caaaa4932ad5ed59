/-
# The machine under management

A management call works on a machine: it reads and writes the host's files, counts, and reports
events. This module says what a machine is and supplies the few things that a call can do to it.
Besides its files a machine carries what has been counted, what has been reported, which writes have
been attempted and what the kernel has done in between, so that a statement about a call can speak of
all of these.

While a rebind waits for the kernel, the kernel may change the tree. An `Interference` says how it
does so at each of the points where it can.
-/
import SingleRoot.Host.Files
import SingleRoot.Device.Event
import SingleRoot.Device.Tally

namespace SingleRoot.Device

open Host

/-- A write that a call has tried to make, and how it ended. -/
structure Attempt where
  path : HostPath
  content : Bytes
  fault : Option Fault
  deriving DecidableEq, Repr

/-- A point of a rebind at which the kernel may change the tree. -/
inductive Point where
  /-- Immediately before the write of a stage. -/
  | before (stage : Stage)
  /-- Right after the function has been released from its driver. -/
  | afterUnbind
  deriving DecidableEq, Repr

/-- What the kernel has done at a point that was reached: the tree as it found it and as it left
it. -/
structure Disturbance where
  point : Point
  found : Tree
  left : Tree
  deriving DecidableEq, Repr

/-- What a management call works on and what it leaves behind. Journal, attempts and disturbances
are in the order in which they came about. -/
structure Machine where
  files : FileSystem
  tally : Tally
  journal : List Event
  attempts : List Attempt
  disturbances : List Disturbance
  deriving Repr

/-- A management call: it may change the machine, and it succeeds or fails. What it has done to the
machine before it fails stays done. -/
abbrev Action (α : Type) := ExceptT DeviceError (StateM Machine) α

/-- What the kernel does to the tree at each point. -/
abbrev Interference := Point → Tree → Tree

/-- The kernel that leaves the tree alone. -/
def Interference.none : Interference := fun _ tree => tree

namespace Machine

/-- A machine about which nothing has been recorded yet. -/
def start (files : FileSystem) : Machine :=
  ⟨files, .zero, [], [], []⟩

/-- The machine after the kernel has been at work at a point. -/
def disturb (machine : Machine) (kernel : Interference) (point : Point) : Machine :=
  let left := kernel point machine.files.tree
  { machine with
    files := machine.files.withTree left
    disturbances := machine.disturbances ++ [⟨point, machine.files.tree, left⟩] }

/-- The machine after an attempt to write a file, and the fault if it failed. -/
def write (machine : Machine) (path : HostPath) (content : Bytes) : Option Fault × Machine :=
  match machine.files.write path content with
  | .ok files =>
    (none, { machine with files, attempts := machine.attempts ++ [⟨path, content, none⟩] })
  | .error fault =>
    (some fault, { machine with attempts := machine.attempts ++ [⟨path, content, some fault⟩] })

end Machine

namespace Action

/-- Report an event. -/
def note (event : Event) : Action Unit :=
  modify fun machine => { machine with journal := machine.journal ++ [event] }

/-- Increase a counter. -/
def count (counter : Counter) (amount : Nat) : Action Unit :=
  modify fun machine => { machine with tally := machine.tally.add counter amount }

/-- Ask the host something without changing it. -/
def ask (query : FileSystem → Except DeviceError α) : Action α := do
  liftExcept (query (← get).files)
where
  liftExcept (answer : Except DeviceError α) : Action α := ExceptT.mk (pure answer)

/-- Give the kernel the opportunity to change the tree. -/
def reach (kernel : Interference) (point : Point) : Action Unit :=
  modify (·.disturb kernel point)

/-- Try to write a file. A fault is an answer here and does not end the call. -/
def write (path : HostPath) (content : String) : Action (Option Fault) :=
  modifyGet (·.write path (Text.toBytes content))

/-- Run a part of a call and take its failure as an answer. -/
def observe (part : Action α) : Action (Except DeviceError α) :=
  ExceptT.mk (Except.ok <$> part.run)

end Action

end SingleRoot.Device
