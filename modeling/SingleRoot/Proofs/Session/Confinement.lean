/-
# Where a session writes

A session writes below the two roots of its layouts and nowhere else, whatever names it is given and
wherever the links of the host lead. What is carried along a run is that every handle of the session is
`Grounded`: it has been opened under an address that was checked, or an enumeration has found it at the
end of a path. The writes of a request then go where `MayProvision` and `MayRebind` say.
-/
import SingleRoot.Proofs.Device.Confinement
import SingleRoot.Proofs.Session.Turns
import SingleRoot.Proofs.Session.Simulation

namespace SingleRoot.Session

open Device Host

/-- What a request may write. -/
def Request.MayWrite (handle : Handle) : Request → Attempt → Prop
  | .provision count, attempt => handle.MayProvision count attempt
  | .rebind wanted, attempt => handle.MayRebind wanted attempt
  | _, _ => False

/-- A move keeps to its place: its handles are grounded, and so are the drivers that it names, and
what it attempts to write is what the request may write that it answers. -/
structure Move.Confined (move : Move) : Prop where
  handles : move.after.host.handles.All Handle.Grounded
  /-- The functions that an enumeration has found. -/
  functions : ∀ handle request addresses skipped, move.asked = some (handle, request) →
    move.answer = .reply (.ofFunction (.functions addresses skipped)) →
    ∀ address ∈ addresses, Handle.Grounded ⟨address, handle.layout⟩
  writes : ∃ made, move.after.host.machine.attempts = move.met.machine.attempts ++ made ∧
    ∀ attempt ∈ made, ∃ handle request, move.asked = some (handle, request) ∧
      request.MayWrite handle attempt
  /-- The driver that a function is bound to. -/
  drivers : ∀ handle name, move.asked = some (handle, .driver) →
    move.answer = .reply (.ofFunction (.driver (some name))) →
    Handle.GroundedDriver handle.layout name ∧
      (move.met.machine.files.tree.Storable → isDriverName name = true)
  /-- The driver that a function has been released from. -/
  previous : ∀ handle wanted address driver stage name fault,
    move.asked = some (handle, .rebind wanted) →
    move.answer = .failure (.bindFailure address driver stage (some name) fault) →
    Handle.GroundedDriver handle.layout name ∧
      (move.met.machine.files.tree.Storable → isDriverName name = true)

section Requests

variable {kernel : Interference} {handle : Handle} {machine after : Machine} {request : Request}
  {result : Except DeviceError Reply}

theorem map_eq_ok {ε α β : Type} {f : α → β} {outcome : Except ε α} {value : β} :
    outcome.map f = .ok value ↔ ∃ given, outcome = .ok given ∧ f given = value := by
  cases outcome <;> simp [Except.map]

/-- What a request attempts to write is what it may write. -/
theorem writes_of_respond (grounded : handle.Grounded)
    (ran : (HostSession.respond kernel handle request).run machine = (result, after)) :
    ∃ made, after.attempts = machine.attempts ++ made ∧
      ∀ attempt ∈ made, request.MayWrite handle attempt := by
  cases looks : request.looks with
  | true =>
    have untouched := (leavesUntouched_respond kernel handle looks).of_run ran
    exact ⟨[], by simp [untouched.attempts], by simp⟩
  | false =>
    cases request with
    | rebind wanted =>
      obtain ⟨outcome, rebound, _⟩ := outcome_of_effect ran
      obtain ⟨made, attempts, rfl | ⟨named, current, bound, planned⟩⟩ :=
        (Handle.course_of_run rebound).attempts
      · exact ⟨[], attempts, by simp⟩
      · exact ⟨made, attempts, fun attempt among =>
          grounded.mayRebind named bound (planned attempt among)⟩
    | provision count =>
      obtain ⟨outcome, provisioned, _⟩ := outcome_of_effect ran
      obtain ⟨made, attempts, writes, _⟩ := (Handle.provisioning_of_run provisioned).attempts
      exact ⟨made, attempts, fun attempt among => grounded.mayProvision (writes attempt among)⟩
    | _ => cases looks

/-- Only an enumeration answers with functions. -/
theorem request_of_functions {addresses : List String} {skipped : Nat}
    (ran : (HostSession.respond kernel handle request).run machine =
      (.ok (.functions addresses skipped), after)) : request = .virtualFunctions := by
  cases request with
  | virtualFunctions => rfl
  | address | directory => cases congrArg Prod.fst ran
  | netInterface | iommuGroup | driver | capacity | configured =>
    rw [HostSession.respond, Action.run_map] at ran
    obtain ⟨_, _, other⟩ := map_eq_ok.1 (congrArg Prod.fst ran)
    cases other
  | rebind _ | provision _ =>
    obtain ⟨outcome, _, maps⟩ := outcome_of_effect ran
    obtain ⟨_, _, other⟩ := map_eq_ok.1 maps.symm
    cases other

/-- Functions that are handed out have been found by an enumeration. -/
theorem grounded_of_respond {addresses : List String} {skipped : Nat}
    (ran : (HostSession.respond kernel handle request).run machine =
      (.ok (.functions addresses skipped), after)) :
    ∀ address ∈ addresses, Handle.Grounded ⟨address, handle.layout⟩ := by
  cases request_of_functions ran
  rw [HostSession.respond, Action.run_bind] at ran
  have answers := Handle.result_enumerate handle machine
  cases enumerated : handle.enumerate.run machine with
  | mk outcome ended =>
    rw [enumerated] at ran answers
    cases outcome with
    | error error => cases ran
    | ok enumeration =>
      cases ran
      intro address among
      obtain ⟨function, found, rfl⟩ := List.mem_map.1 among
      rw [Handle.virtualFunctions] at answers
      split at answers
      · cases answers
      · cases answers
        obtain ⟨name, leads⟩ := Handle.leads_of_mem found
        obtain ⟨layout, grounded⟩ := Handle.grounded_of_leads leads
        rw [← layout]
        exact grounded

/-- A driver in a reply is the one that the function is bound to. -/
theorem boundDriver_of_reply {name : String}
    (ran : (HostSession.respond kernel handle .driver).run machine = (result, after))
    (replied : Answer.ofResult result = .reply (.ofFunction (.driver (some name)))) :
    handle.boundDriver machine.files = .ok (some name) := by
  rw [HostSession.respond, Action.run_map, Action.run_ask] at ran
  cases result with
  | error error => cases replied
  | ok reply =>
    cases replied
    obtain ⟨current, bound, same⟩ := map_eq_ok.1 (congrArg Prod.fst ran)
    cases same
    exact bound

/-- The driver that a failure names is the one that the function was bound to. -/
theorem boundDriver_of_failure {wanted address driver name : String} {stage : Stage} {fault : Fault}
    (ran : (HostSession.respond kernel handle (.rebind wanted)).run machine = (result, after))
    (failed : Answer.ofResult result =
      .failure (.bindFailure address driver stage (some name) fault)) :
    handle.boundDriver machine.files = .ok (some name) := by
  obtain ⟨outcome, rebound, rfl⟩ := outcome_of_effect ran
  cases outcome with
  | ok _ => cases failed
  | error error =>
    cases failed
    exact (Handle.course_of_run rebound).previous rfl

/-- The driver that a function is bound to has a name that stays in its place. -/
theorem named_of_boundDriver {files : FileSystem} {name : String}
    (bound : handle.boundDriver files = .ok (some name)) :
    Handle.GroundedDriver handle.layout name ∧
      (files.tree.Storable → isDriverName name = true) :=
  ⟨Handle.groundedDriver_of_plain handle.layout (Handle.plainName_of_boundDriver bound),
    fun storable => Handle.isDriverName_of_boundDriver storable bound⟩

end Requests

/-! ## Moves -/

section Moves

variable {move : Move}

/-- A grounded session makes a move that keeps to its place, and it stays grounded. -/
theorem confined_of_move (grounded : move.world.host.handles.All Handle.Grounded) :
    move.Confined := by
  obtain aside | ⟨handle, request, answered⟩ := move_cases move
  · have never {pair : Handle × Request} (asked : move.asked = some pair) : False := by
      cases aside.unasked.symm.trans asked
    refine ⟨?_, fun _ _ _ _ asked => (never asked).elim, ⟨[], by simp [aside.attempts], by simp⟩,
      fun _ _ asked => (never asked).elim, fun _ _ _ _ _ _ _ asked => (never asked).elim⟩
    obtain same | ⟨layout, address, name, role, handle, opens, stored⟩ := aside.handles
    · rw [same]
      exact grounded
    · rw [stored]
      exact grounded.store name role (Handle.grounded_of_ofAddress opens).2
  · obtain ⟨kernel, result, ran, answers⟩ := answered.ran
    obtain ⟨name, role, known⟩ := answered.known
    have here : handle.Grounded := grounded.find? known
    have functions {addresses : List String} {skipped : Nat}
        (replied : move.answer = .reply (.ofFunction (.functions addresses skipped))) :
        ∀ address ∈ addresses, Handle.Grounded ⟨address, handle.layout⟩ := by
      rw [answers] at replied
      cases result with
      | error error => cases replied
      | ok reply =>
        cases replied
        exact grounded_of_respond ran
    constructor
    case handles =>
      obtain same | ⟨addresses, skipped, stem, replied, stored⟩ := answered.handles
      · rw [same]
        exact grounded
      · rw [stored]
        apply grounded.storeAll
        intro function among
        obtain ⟨address, listed, rfl⟩ := List.mem_map.1 among
        exact functions replied address listed
    case functions =>
      intro other request addresses skipped asked replied
      cases answered.asked.symm.trans asked
      exact functions replied
    case writes =>
      obtain ⟨made, attempts, may⟩ := writes_of_respond here ran
      exact ⟨made, attempts, fun attempt among => ⟨handle, request, answered.asked, may attempt among⟩⟩
    case drivers =>
      intro other name asked replied
      cases answered.asked.symm.trans asked
      exact named_of_boundDriver (boundDriver_of_reply ran (answers.symm.trans replied))
    case previous =>
      intro other wanted address driver stage name fault asked failed
      cases answered.asked.symm.trans asked
      exact named_of_boundDriver (boundDriver_of_failure ran (answers.symm.trans failed))

/-- A session that is grounded keeps to its place in every run. -/
theorem confined_of_grounded (world : World) (turns : List Turn)
    (grounded : world.host.handles.All Handle.Grounded) :
    ∀ move ∈ moves world turns, move.Confined := by
  -- the world that one move leaves is grounded again and comes to the next
  induction turns generalizing world with
  | nil =>
    intro move among
    cases among
  | cons turn rest ih =>
    have confined : Move.Confined ⟨world, turn⟩ := confined_of_move grounded
    rw [moves]
    exact List.forall_mem_cons.2 ⟨confined, ih _ confined.handles⟩

/-- Whatever a session is told, and whatever the world does meanwhile, it keeps to its place. -/
theorem confined_of_run (files : FileSystem) (inventory : Inventory) (turns : List Turn) :
    ∀ move ∈ moves (.start files inventory) turns, move.Confined := by
  apply confined_of_grounded
  intro row among
  cases among

end Moves

namespace Sample

open Device.Sample

/-- A function is opened. -/
def opens : Turn :=
  .host files.tree .none layout (.openHandle .plain address "function")

/-- It is to be bound to another driver, whose bind file cannot be written. -/
def rebinds : Turn :=
  .host files.tree .none layout (.ask "function" (.rebind "vfio-pci") .none)

/-- The second move of the two. -/
def released : Move :=
  ⟨(World.start files .empty).run [opens], rebinds⟩

end Sample

open Device.Sample Sample in
/-- The driver from which the function has been released in vain stays in its place. -/
theorem confined_of_run_sample :
    released ∈ moves (.start files .empty) [opens, rebinds] ∧ released.Confined ∧
      released.answer = .failure
        (.bindFailure address "vfio-pci" .bind (some "ixgbe") (.system .accessDenied)) ∧
      Handle.GroundedDriver layout "ixgbe" := by
  have among : released ∈ moves (.start files .empty) [opens, rebinds] :=
    List.mem_cons_of_mem _ List.mem_cons_self
  have confined := confined_of_run files .empty [opens, rebinds] released among
  have asked : released.asked = some (⟨address, layout⟩, .rebind "vfio-pci") := by
    decide +kernel
  have failed : released.answer = .failure
      (.bindFailure address "vfio-pci" .bind (some "ixgbe") (.system .accessDenied)) := by
    decide +kernel
  exact ⟨among, confined, failed, (confined.previous _ _ _ _ _ _ _ asked failed).1⟩

end SingleRoot.Session
