/-
# Runs that the world disturbs

A program holds a session on a host and a session on an inventory and turns now to the one and now to the
other. It is not alone: whenever it turns to the host, the tree may have become any other tree, and while
a rebind lasts the kernel may do with it what it likes. A move is one such turn with the world that comes
to it, and `move_cases` says once what a move can be: a request that a handle answers, or a turn that asks
no handle of the host, makes no attempt to write, counts nothing and warns of nothing.
-/
import SingleRoot.Proofs.Device.Books
import SingleRoot.Proofs.Session.Looking
import SingleRoot.Session.Inventory

namespace SingleRoot.Session

open Descriptor Device Host

/-! ## Turns and moves -/

/-- A session on a host and one on an inventory. -/
structure World where
  host : HostSession
  inventory : InventorySession

/-- One command to one of the two sessions. A command on the host comes with the tree that it finds and
with the kernel that is at work while it lasts. -/
inductive Turn where
  | host (found : Tree) (kernel : Interference) (layout : Layout) (command : HostCommand)
  | inventory (command : InventoryCommand)

/-- A turn with the world that comes to it. -/
structure Move where
  world : World
  turn : Turn

/-- The session, when a tree is found on its host. -/
def HostSession.finding (session : HostSession) (found : Tree) : HostSession :=
  { session with
    machine := { session.machine with files := session.machine.files.withTree found } }

/-- The same answer with another reply. -/
def Answer.map {α β : Type} (f : α → β) : Answer α → Answer β
  | .reply given => .reply (f given)
  | .failure error => .failure error
  | .noHandle name => .noHandle name
  | .noCapability => .noCapability

/-- The answer to a request that ends with a result. -/
def Answer.ofResult : Except DeviceError Reply → Answer HostReply
  | .ok given => .reply (.ofFunction given)
  | .error error => .failure error

namespace Move

variable (move : Move)

/-- The session on the host, as its command meets it. -/
def met : HostSession :=
  match move.turn with
  | .host found _ _ _ => move.world.host.finding found
  | .inventory _ => move.world.host

def answer : Answer HostReply :=
  match move.turn with
  | .host _ kernel layout command => (HostSession.step layout kernel move.met command).1
  | .inventory command => (move.world.inventory.step command).1.map .ofFunction

def after : World :=
  match move.turn with
  | .host _ kernel layout command =>
    ⟨(HostSession.step layout kernel move.met command).2, move.world.inventory⟩
  | .inventory command => ⟨move.world.host, (move.world.inventory.step command).2⟩

/-- The handle that is asked on the host, and what it is asked for. -/
def asked : Option (Handle × Request) :=
  match move.turn with
  | .host _ _ _ (.ask name request _) =>
    (move.world.host.handles.find? name).bind fun (role, handle) =>
      if role.offers request then some (handle, request) else none
  | _ => none

end Move

/-- The world before anything has been opened or counted. -/
def World.start (files : FileSystem) (inventory : Inventory) : World :=
  ⟨.start files, .start inventory⟩

/-- The world after all turns. -/
def World.run (world : World) : List Turn → World
  | [] => world
  | turn :: rest => (Move.after ⟨world, turn⟩).run rest

/-- The moves of a run. -/
def moves (world : World) : List Turn → List Move
  | [] => []
  | turn :: rest => ⟨world, turn⟩ :: moves (Move.after ⟨world, turn⟩) rest

/-! ## Quiet calls of a session -/

theorem quiet_openAs (layout : Layout) (role : Role) (address : String) :
    (HostSession.openAs layout role address).Quiet := by
  have opened : (Handle.openPhysical layout address).Quiet := by
    apply (Action.Quiet.ask _).bind
    intro handle
    exact (Action.Quiet.note (by simp [Event.IsWarning, Event.severity])).bind fun _ => .pure _
  cases role with
  | physical => exact opened
  | configurable => exact opened
  | plain => exact .ask _
  | direct => exact .ask _
  | virtual => exact .ask _

/-- A descriptor is loaded quietly unless its event is a warning. -/
theorem quiet_loadFile {Descriptor : Type} (kind : Kind Descriptor)
    (calm : ∀ descriptor, ¬ (kind.event descriptor).IsWarning) (path : HostPath) :
    (kind.loadFile path).Quiet := by
  apply Action.Quiet.get.bind
  intro machine
  cases kind.ofFile machine.files path with
  | ok descriptor => exact (Action.Quiet.note (calm descriptor)).bind fun _ => .pure _
  | error error => exact .throw _

/-! ## What a move can be -/

/-- A turn that asks no handle of the host. If it opens a handle on the host, the handle gets a name. -/
structure Move.Aside (move : Move) : Prop where
  unasked : move.asked = none
  attempts : move.after.host.machine.attempts = move.met.machine.attempts
  quiet : move.met.machine.Booked [] [] move.after.host.machine
  handles : move.after.host.handles = move.world.host.handles ∨
    ∃ layout address name role handle,
      Handle.ofAddress move.met.machine.files layout address = .ok handle ∧
        move.after.host.handles = move.world.host.handles.store name role handle

/-- A turn that a handle of the host answers. -/
structure Move.Answered (move : Move) (handle : Handle) (request : Request) : Prop where
  asked : move.asked = some (handle, request)
  known : ∃ name role, move.world.host.handles.find? name = some (role, handle)
  ran : ∃ kernel result, (HostSession.respond kernel handle request).run move.met.machine =
      (result, move.after.host.machine) ∧
    move.answer = .ofResult result
  handles : move.after.host.handles = move.world.host.handles ∨
    ∃ addresses skipped stem, move.answer = .reply (.ofFunction (.functions addresses skipped)) ∧
      move.after.host.handles = move.world.host.handles.storeAll stem
        (addresses.map fun address => ⟨address, handle.layout⟩)

section Moves

variable {world : World} {found : Tree} {kernel : Interference} {layout : Layout}

/-- A turn that goes no further than a quiet call that only looks. -/
theorem aside_of_call {α : Type} {move : Move} {call : Action α} (unasked : move.asked = none)
    (machine : move.after.host.machine = (call.run move.met.machine).2)
    (looks : call.LeavesUntouched) (quiet : call.Quiet)
    (handles : move.after.host.handles = move.world.host.handles ∨
      ∃ layout address name role handle,
        Handle.ofAddress move.met.machine.files layout address = .ok handle ∧
          move.after.host.handles = move.world.host.handles.store name role handle) :
    move.Aside where
  unasked := unasked
  attempts := by
    rw [machine]
    exact (looks _).attempts
  quiet := by
    rw [machine]
    exact quiet _
  handles := handles

/-- A command that has nothing but such a call to perform. -/
theorem aside_of_perform {command : HostCommand} {call : Action HostReply}
    (unasked : Move.asked ⟨world, .host found kernel layout command⟩ = none)
    (performs : HostSession.step layout kernel (world.host.finding found) command =
      (world.host.finding found).perform call)
    (looks : call.LeavesUntouched) (quiet : call.Quiet) :
    Move.Aside ⟨world, .host found kernel layout command⟩ := by
  have after_ : (Move.after ⟨world, .host found kernel layout command⟩).host =
      ((world.host.finding found).perform call).2 := by
    rw [← performs]
    rfl
  refine aside_of_call unasked ?_ looks quiet (.inl ?_)
  · rw [after_, HostSession.machine_perform]
    rfl
  · rw [after_, HostSession.perform]
    split <;> rfl

/-- What is opened is what the address leads to, whether or not it is reported. -/
theorem result_openAs (layout : Layout) (role : Role) (address : String) (machine : Machine) :
    ((HostSession.openAs layout role address).run machine).1 =
      Handle.ofAddress machine.files layout address := by
  have opened : ((Handle.openPhysical layout address).run machine).1 =
      Handle.ofAddress machine.files layout address := by
    rw [Handle.openPhysical, Action.run_bind, Action.run_ask]
    cases Handle.ofAddress machine.files layout address <;> rfl
  cases role with
  | physical => exact opened
  | configurable => exact opened
  | plain => rfl
  | direct => rfl
  | virtual => rfl

theorem aside_of_openHandle (role : Role) (address name : String) :
    Move.Aside ⟨world, .host found kernel layout (.openHandle role address name)⟩ := by
  have after_ : (Move.after ⟨world, .host found kernel layout
      (.openHandle role address name)⟩).host =
        (HostSession.step layout kernel (world.host.finding found)
          (.openHandle role address name)).2 := rfl
  have opens := result_openAs layout role address (world.host.finding found).machine
  rw [HostSession.step] at after_
  cases ran : (HostSession.openAs layout role address).run (world.host.finding found).machine with
  | mk result ended =>
    rw [ran] at after_ opens
    have machine : (Move.after ⟨world, .host found kernel layout
        (.openHandle role address name)⟩).host.machine = ended := by
      rw [after_]
      cases result <;> rfl
    refine aside_of_call rfl (machine.trans (congrArg Prod.snd ran.symm))
      (leavesUntouched_openAs layout role address) (quiet_openAs layout role address) ?_
    cases result with
    | ok handle =>
      right
      refine ⟨layout, address, name, role, handle, opens.symm, ?_⟩
      rw [after_]
      rfl
    | error error =>
      left
      rw [after_]
      rfl

/-- The handles that are remembered come from the addresses that a reply hands out. -/
theorem remember_eq (handles : Handles Handle) (handle : Handle) (storeAs : Option String)
    (reply : Reply) :
    HostSession.remember handles handle storeAs reply = handles ∨
      ∃ addresses skipped stem, reply = .functions addresses skipped ∧
        HostSession.remember handles handle storeAs reply =
          handles.storeAll stem (addresses.map fun address => ⟨address, handle.layout⟩) := by
  cases reply with
  | functions addresses skipped =>
    cases storeAs with
    | none => exact .inl rfl
    | some stem => exact .inr ⟨addresses, skipped, stem, rfl, rfl⟩
  | _ => exact .inl rfl

theorem answered_of_ask {name : String} {request : Request} {storeAs : Option String} {role : Role}
    {handle : Handle} (known : world.host.handles.find? name = some (role, handle))
    (offered : role.offers request = true) :
    Move.Answered ⟨world, .host found kernel layout (.ask name request storeAs)⟩ handle request := by
  have step : HostSession.step layout kernel (world.host.finding found)
      (.ask name request storeAs) = _ := HostSession.step_ask known offered
  have asked : Move.asked ⟨world, .host found kernel layout (.ask name request storeAs)⟩ =
      some (handle, request) := by
    simp [Move.asked, known, offered]
  cases ran : (HostSession.respond kernel handle request).run
      (world.host.finding found).machine with
  | mk result after =>
    rw [ran] at step
    have after_ : (Move.after ⟨world, .host found kernel layout (.ask name request storeAs)⟩).host =
        (HostSession.step layout kernel (world.host.finding found) (.ask name request storeAs)).2 :=
      rfl
    have answer : Move.answer ⟨world, .host found kernel layout (.ask name request storeAs)⟩ =
        (HostSession.step layout kernel (world.host.finding found) (.ask name request storeAs)).1 :=
      rfl
    rw [step] at after_ answer
    cases result with
    | error error =>
      dsimp only at after_ answer
      refine ⟨asked, ⟨name, role, known⟩, ⟨kernel, .error error, ?_, answer⟩, .inl ?_⟩
      · rw [after_]
        exact ran
      · rw [after_]
        rfl
    | ok reply =>
      dsimp only at after_ answer
      refine ⟨asked, ⟨name, role, known⟩, ⟨kernel, .ok reply, ?_, answer⟩, ?_⟩
      · rw [after_]
        exact ran
      · rw [after_, answer]
        obtain same | ⟨addresses, skipped, stem, rfl, stored⟩ :=
          remember_eq world.host.handles handle storeAs reply
        · exact .inl same
        · exact .inr ⟨addresses, skipped, stem, rfl, stored⟩

theorem aside_or_answered_of_ask (name : String) (request : Request) (storeAs : Option String) :
    Move.Aside ⟨world, .host found kernel layout (.ask name request storeAs)⟩ ∨
      ∃ handle, Move.Answered ⟨world, .host found kernel layout (.ask name request storeAs)⟩ handle
        request := by
  have idle (unasked : Move.asked ⟨world, .host found kernel layout (.ask name request storeAs)⟩ = none)
      (stays : (HostSession.step layout kernel (world.host.finding found)
        (.ask name request storeAs)).2 = world.host.finding found) :
      Move.Aside ⟨world, .host found kernel layout (.ask name request storeAs)⟩ := by
    have after_ : (Move.after ⟨world, .host found kernel layout
        (.ask name request storeAs)⟩).host = world.host.finding found := stays
    refine ⟨unasked, ?_, ?_, .inl ?_⟩
    · rw [after_]
      rfl
    · rw [after_]
      exact Machine.booked_refl _
    · rw [after_]
      rfl
  cases known : world.host.handles.find? name with
  | none =>
    left
    apply idle
    · simp [Move.asked, known]
    · have unknown : (world.host.finding found).handles.find? name = none := known
      rw [HostSession.step_ask_unknown unknown]
  | some entry =>
    obtain ⟨role, handle⟩ := entry
    cases offered : role.offers request with
    | false =>
      left
      apply idle
      · simp [Move.asked, known, offered]
      · have found_ : (world.host.finding found).handles.find? name = some (role, handle) := known
        rw [HostSession.step_ask_unoffered found_ offered]
    | true => exact .inr ⟨handle, answered_of_ask known offered⟩

/-- A move is a request that a handle answers, or it is aside from all requests. -/
theorem move_cases (move : Move) :
    move.Aside ∨ ∃ handle request, move.Answered handle request := by
  obtain ⟨world, turn⟩ := move
  cases turn with
  | inventory command => exact .inl ⟨rfl, rfl, Machine.booked_refl _, .inl rfl⟩
  | host found kernel layout command =>
    cases command with
    | edit edits => exact .inl ⟨rfl, rfl, ⟨rfl, (List.append_nil _).symm⟩, .inl rfl⟩
    | openHandle role address name => exact .inl (aside_of_openHandle role address name)
    | loadResourcePool path =>
      left
      apply aside_of_perform rfl rfl
      · exact (leavesUntouched_loadFile _ path).map _
      · apply Action.Quiet.map
        apply quiet_loadFile
        intro pool
        simp [ResourcePool.kind, Event.IsWarning, Event.severity]
    | loadEndpoint path =>
      left
      apply aside_of_perform rfl rfl
      · exact (leavesUntouched_loadFile _ path).map _
      · apply Action.Quiet.map
        apply quiet_loadFile
        intro endpoint
        simp [Endpoint.kind, Event.IsWarning, Event.severity]
    | ask name request storeAs =>
      obtain aside | ⟨handle, answered⟩ := aside_or_answered_of_ask name request storeAs
      · exact .inl aside
      · exact .inr ⟨handle, request, answered⟩

end Moves

end SingleRoot.Session
