/-
# Sessions on a host

A session opens handles on the PCI functions of a host, gives them names and asks them, and it loads
descriptors from the host's files. Between its requests the tree may be edited from outside, and
during a rebind the kernel may interfere. This module says what each command does to the machine and
what it answers.
-/
import SingleRoot.Descriptor.Load
import SingleRoot.Device.Enumeration
import SingleRoot.Device.Provision
import SingleRoot.Device.Rebind
import SingleRoot.Host.Edit
import SingleRoot.Session.Request

namespace SingleRoot.Session

open Descriptor Device Host

/-- A machine with the handles that have been opened on it. -/
structure HostSession where
  machine : Machine
  handles : Handles Handle
  deriving Repr

/-- What a session on a host is told to do. -/
inductive HostCommand where
  | edit (edits : List Edit)
  | openHandle (role : Role) (address name : String)
  | ask (name : String) (request : Request) (storeAs : Option String)
  | loadResourcePool (path : HostPath)
  | loadEndpoint (path : HostPath)
  deriving Repr

/-- What a session on a host answers. -/
inductive HostReply where
  | ofFunction (reply : Reply)
  | resourcePool (pool : ResourcePool)
  | endpoint (endpoint : Endpoint)
  deriving DecidableEq, Repr

namespace HostSession

/-- The session on a host before anything has been opened. -/
def start (files : FileSystem) : HostSession := ⟨.start files, .none⟩

/-- Open a handle. Physical functions that are opened by way of a factory are reported. -/
def openAs (layout : Layout) (role : Role) (address : String) : Action Handle :=
  match role with
  | .physical | .configurable => Handle.openPhysical layout address
  | _ => Action.ask fun files => Handle.ofAddress files layout address

/-- Ask the function of a handle. -/
def respond (kernel : Interference) (handle : Handle) : Request → Action Reply
  | .address => return .text handle.address
  | .netInterface => .text <$> handle.reportNetInterface
  | .iommuGroup => .count <$> Action.ask handle.iommuGroup
  | .driver => .driver <$> Action.ask handle.boundDriver
  | .rebind driver => do
    handle.rebind kernel driver
    return .done
  | .capacity => .count <$> Action.ask handle.capacity
  | .configured => .count <$> Action.ask handle.configured
  | .provision count => do
    handle.provision count
    return .done
  | .directory => return .path handle.directory
  | .virtualFunctions => do
    let found ← handle.enumerate
    return .functions found.addresses found.skipped.length

/-- The handles after a request to `handle` has been answered. -/
def remember (handles : Handles Handle) (handle : Handle) (storeAs : Option String) :
    Reply → Handles Handle
  | .functions addresses _ =>
    match storeAs with
    | some stem => handles.storeAll stem (addresses.map fun address => ⟨address, handle.layout⟩)
    | none => handles
  | _ => handles

/-- Perform a call that concerns no handle. -/
def perform (session : HostSession) (call : Action HostReply) : Answer HostReply × HostSession :=
  match call.run session.machine with
  | (.ok reply, machine) => (.reply reply, { session with machine })
  | (.error error, machine) => (.failure error, { session with machine })

/-- Do what a session is told to do. -/
def step (layout : Layout) (kernel : Interference) (session : HostSession) :
    HostCommand → Answer HostReply × HostSession
  | .edit edits =>
    let files := session.machine.files
    let tree := Edit.applyAll files.workingDirectory files.tree edits
    (.reply (.ofFunction .done),
     { session with machine := { session.machine with files := files.withTree tree } })
  | .openHandle role address name =>
    match (openAs layout role address).run session.machine with
    | (.ok handle, machine) =>
      (.reply (.ofFunction (.text handle.address)),
       ⟨machine, session.handles.store name role handle⟩)
    | (.error error, machine) => (.failure error, { session with machine })
  | .ask name request storeAs =>
    match session.handles.find? name with
    | none => (.noHandle name, session)
    | some (role, handle) =>
      if !role.offers request then (.noCapability, session)
      else match (respond kernel handle request).run session.machine with
        | (.ok reply, machine) =>
          (.reply (.ofFunction reply), ⟨machine, remember session.handles handle storeAs reply⟩)
        | (.error error, machine) => (.failure error, { session with machine })
  | .loadResourcePool path => session.perform (.resourcePool <$> ResourcePool.kind.loadFile path)
  | .loadEndpoint path => session.perform (.endpoint <$> Endpoint.kind.loadFile path)

end HostSession

end SingleRoot.Session
