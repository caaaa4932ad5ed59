/-
# Requests that only look

Of all that a session can be told, only a rebind and a change of the number of virtual functions write
anything. Every other request reads, reports and counts, and leaves the files and the record of attempts
as they were. This module says so once for all of them, and says what becomes of a session when it is
asked something.
-/
import SingleRoot.Proofs.Device.Effects
import SingleRoot.Session.Host

namespace SingleRoot.Session

open Descriptor Device Host
open Device.Action (LeavesUntouched)

/-- A request that is answered by looking. -/
def Request.looks : Request → Bool
  | .rebind _ | .provision _ => false
  | _ => true

theorem leavesUntouched_enumerate (handle : Handle) : LeavesUntouched handle.enumerate := by
  apply (LeavesUntouched.ask _).bind
  intro enumeration
  refine LeavesUntouched.bind ?_ fun _ => (LeavesUntouched.note _).bind fun _ => .pure _
  exact .forIn (fun entry => (LeavesUntouched.note _).bind fun _ => .count _ _) _

theorem leavesUntouched_respond (kernel : Interference) (handle : Handle) {request : Request}
    (looks : request.looks = true) :
    LeavesUntouched (HostSession.respond kernel handle request) := by
  cases request with
  | address => exact .pure _
  | netInterface =>
    exact .map _ ((LeavesUntouched.ask _).bind fun _ => (LeavesUntouched.note _).bind fun _ => .pure _)
  | iommuGroup => exact .map _ (.ask _)
  | driver => exact .map _ (.ask _)
  | rebind driver => cases looks
  | capacity => exact .map _ (.ask _)
  | configured => exact .map _ (.ask _)
  | provision count => cases looks
  | directory => exact .pure _
  | virtualFunctions => exact (leavesUntouched_enumerate handle).bind fun _ => .pure _

theorem leavesUntouched_openAs (layout : Layout) (role : Role) (address : String) :
    LeavesUntouched (HostSession.openAs layout role address) := by
  have opened : LeavesUntouched (Handle.openPhysical layout address) :=
    (LeavesUntouched.ask _).bind fun _ => (LeavesUntouched.note _).bind fun _ => .pure _
  cases role with
  | physical => exact opened
  | configurable => exact opened
  | plain => exact .ask _
  | direct => exact .ask _
  | virtual => exact .ask _

theorem leavesUntouched_loadFile {Descriptor : Type} (kind : Kind Descriptor) (path : HostPath) :
    LeavesUntouched (kind.loadFile path) := by
  apply LeavesUntouched.get.bind
  intro machine
  show LeavesUntouched (kind.report (kind.ofFile machine.files path))
  cases kind.ofFile machine.files path with
  | ok descriptor => exact (LeavesUntouched.note _).bind fun _ => .pure _
  | error error => exact .throw _

/-! ## Sessions that are asked something -/

/-- A request that does something answers with nothing but its success. -/
theorem run_effect {machine : Machine} (call : Action Unit) :
    (do call; return Reply.done : Action Reply).run machine =
      ((call.run machine).1.map fun _ => .done, (call.run machine).2) := by
  rw [Action.run_bind]
  cases call.run machine with
  | mk result after => cases result <;> rfl

theorem outcome_of_effect {machine after : Machine} {call : Action Unit}
    {result : Except DeviceError Reply}
    (ran : (do call; return Reply.done : Action Reply).run machine = (result, after)) :
    ∃ outcome, call.run machine = (outcome, after) ∧ result = outcome.map fun _ => .done := by
  rw [run_effect] at ran
  cases ended : call.run machine with
  | mk outcome middle =>
    rw [ended] at ran
    cases ran
    exact ⟨outcome, rfl, rfl⟩

namespace HostSession

variable {layout : Layout} {kernel : Interference} {session : HostSession} {name : String}
  {request : Request} {storeAs : Option String} {role : Role} {handle : Handle}

theorem step_ask_unknown (unknown : session.handles.find? name = none) :
    step layout kernel session (.ask name request storeAs) = (.noHandle name, session) := by
  simp [step, unknown]

theorem step_ask_unoffered (known : session.handles.find? name = some (role, handle))
    (unoffered : role.offers request = false) :
    step layout kernel session (.ask name request storeAs) = (.noCapability, session) := by
  simp [step, known, unoffered]

theorem step_ask (known : session.handles.find? name = some (role, handle))
    (offered : role.offers request = true) :
    step layout kernel session (.ask name request storeAs) =
      match (respond kernel handle request).run session.machine with
      | (.ok reply, machine) =>
        (.reply (.ofFunction reply), ⟨machine, remember session.handles handle storeAs reply⟩)
      | (.error error, machine) => (.failure error, { session with machine }) := by
  cases ran : (respond kernel handle request).run session.machine with
  | mk result after => cases result <;> simp [step, known, offered, ran]

/-- A session that is asked something works on the machine of the request. -/
theorem machine_step_ask (known : session.handles.find? name = some (role, handle))
    (offered : role.offers request = true) :
    (step layout kernel session (.ask name request storeAs)).2.machine =
      ((respond kernel handle request).run session.machine).2 := by
  rw [step_ask known offered]
  cases (respond kernel handle request).run session.machine with
  | mk result after => cases result <;> rfl

theorem machine_perform (call : Action HostReply) :
    (session.perform call).2.machine = (call.run session.machine).2 := by
  rw [perform]
  cases call.run session.machine with
  | mk result after => cases result <;> rfl

end HostSession

end SingleRoot.Session
