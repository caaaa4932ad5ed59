/-
# What others do during a call

While a call is at work, the kernel changes the tree, and the machine records each time what the kernel
found and what it left. A call only adds to that record, and it stays on its host: who the caller is and
where the caller works does not change. So what others have done during a call can be told from the
machines before it and after it, and what they have done during two calls in turn is what they did during
the first and then during the second.
-/
import SingleRoot.Device.Provision
import SingleRoot.Proofs.Device.Course

namespace SingleRoot.Device

open Host

/-! ## Interruptions -/

/-- The files as others have found them, and as they have left them. -/
structure Interruption where
  found : FileSystem
  left : FileSystem

namespace Machine

/-- What others have done between two moments. -/
def interruptions (before after : Machine) : List Interruption :=
  (after.disturbances.drop before.disturbances.length).map fun disturbance =>
    ⟨before.files.withTree disturbance.found, before.files.withTree disturbance.left⟩

/-- A machine goes on from another: it is on the same host, and its record begins in the same way. -/
structure Continued (before after : Machine) : Prop where
  record : before.disturbances <+: after.disturbances
  host : ∀ tree, after.files.withTree tree = before.files.withTree tree

variable {before middle after : Machine}

theorem Continued.trans (first : before.Continued middle) (second : middle.Continued after) :
    before.Continued after :=
  ⟨first.record.trans second.record, fun tree => (second.host tree).trans (first.host tree)⟩

/-- What happens from one moment to another happens before a third moment or after it. -/
theorem Continued.interruptions_trans (first : before.Continued middle)
    (second : middle.Continued after) :
    before.interruptions after = before.interruptions middle ++ middle.interruptions after := by
  obtain ⟨⟨early, earlier⟩, host⟩ := first
  obtain ⟨⟨late, later⟩, _⟩ := second
  simp only [interruptions, ← later, ← earlier, host, List.append_assoc, List.drop_left,
    List.length_append, List.map_append]
  rw [List.drop_append]
  simp

theorem interruptions_disturb (machine : Machine) (kernel : Interference) (point : Point) :
    machine.interruptions (machine.disturb kernel point) =
      [⟨machine.files, machine.files.withTree (kernel point machine.files.tree)⟩] := by
  simp only [interruptions, disturb, List.drop_left]
  rfl

end Machine

/-! ## Calls that go on -/

/-- A call goes on from every machine that it is given. -/
def Action.Continues {α : Type} (call : Action α) : Prop :=
  call.Within Machine.Continued

namespace Action

variable {α β : Type}

/-- A call that only looks goes on from the machine. -/
theorem LeavesUntouched.continues {call : Action α} (looks : call.LeavesUntouched) : call.Continues := by
  intro machine
  have untouched := looks machine
  exact ⟨untouched.disturbances ▸ List.prefix_rfl, fun _ => by rw [untouched.files]⟩

namespace Continues

theorem reach (kernel : Interference) (point : Point) : (Action.reach kernel point).Continues :=
  fun _ => ⟨List.prefix_append _ _, fun _ => rfl⟩

theorem write (path : HostPath) (content : String) : (Action.write path content).Continues := by
  intro machine
  rw [run_write, Machine.write]
  cases written : machine.files.write path (Text.toBytes content) with
  | error fault => exact ⟨List.prefix_rfl, fun _ => rfl⟩
  | ok files =>
    obtain ⟨_, _, change⟩ := FileSystem.fileWritten_of_write written
    refine ⟨List.prefix_rfl, fun tree => ?_⟩
    simp only [FileSystem.withTree, change.caller, change.workingDirectory]

theorem bind {part : Action α} {rest : α → Action β} (first : part.Continues)
    (second : ∀ value, (rest value).Continues) : (part >>= rest).Continues :=
  Within.bind Machine.Continued (fun _ _ _ => .trans) first second

/-- A write whose fault is taken care of. -/
theorem write_bind (path : HostPath) (content : String) {rest : Option Fault → Action β}
    (well : (rest none).LeavesUntouched) (badly : ∀ fault, (rest (some fault)).LeavesUntouched) :
    (Action.write path content >>= rest).Continues := by
  apply (write path content).bind
  intro fault?
  cases fault? with
  | none => exact well.continues
  | some fault => exact (badly fault).continues

end Continues

end Action

/-! ## Calls of a function -/

namespace Handle

variable {handle : Handle} {kernel : Interference} {driver : String}

open Device.Action (LeavesUntouched Continues)

theorem continues_writeStage (stage : Stage) (previous : Option String) (path : HostPath)
    (content : String) : (handle.writeStage kernel driver stage previous path content).Continues := by
  apply (LeavesUntouched.note _).continues.bind
  intro _
  apply (Continues.reach kernel _).bind
  intro _
  exact .write_bind path content (.pure ()) fun _ => .throw _

theorem continues_release (current : Option String) :
    (handle.release kernel driver current).Continues := by
  cases current with
  | none => exact (LeavesUntouched.pure ()).continues
  | some name =>
    apply (continues_writeStage .unbind none _ _).bind
    intro _
    exact (Continues.reach kernel _).bind fun _ => (LeavesUntouched.note _).continues

theorem continues_clearOverride (wasSet : Bool) : (handle.clearOverride wasSet).Continues := by
  cases wasSet with
  | false => exact (LeavesUntouched.pure ()).continues
  | true => exact .write_bind _ _ (.pure ()) fun _ => .note _

theorem continues_concludeRebind (previous : Option String) :
    (handle.concludeRebind driver previous).Continues :=
  ((LeavesUntouched.count _ _).bind fun _ => .note _).continues

/-- What follows on a bind write that has failed, when the function is bound or not bound all the same. -/
def reconsider (handle : Handle) (driver : String) (current : Option String) (restricted : Bool)
    (failure : DeviceError) (bound : Bool) : Action Unit := do
  if bound then
    Action.note (.autoBound handle.address driver)
    handle.clearOverride restricted
    handle.concludeRebind driver current
  else
    handle.clearOverride restricted
    throw failure

/-- What follows on the bind write of a rebind. -/
def settle (handle : Handle) (driver : String) (current : Option String) (restricted : Bool) :
    Except DeviceError Unit → Action Unit
  | .ok _ => do
    handle.clearOverride restricted
    handle.concludeRebind driver current
  | .error failure => do
    handle.reconsider driver current restricted failure (handle.isBoundTo driver (← get).files)

theorem grant_eq_settle (current : Option String) (restricted : Bool) :
    handle.grant kernel driver current restricted =
      Action.observe (handle.writeStage kernel driver .bind current (handle.bindFile driver)
        handle.address) >>= handle.settle driver current restricted := by
  refine bind_congr fun outcome => ?_
  cases outcome <;> rfl

theorem continues_reconsider (current : Option String) (restricted : Bool) (failure : DeviceError)
    (bound : Bool) : (handle.reconsider driver current restricted failure bound).Continues := by
  cases bound with
  | false => exact (continues_clearOverride _).bind fun _ => (LeavesUntouched.throw _).continues
  | true =>
    apply (LeavesUntouched.note _).continues.bind
    intro _
    exact (continues_clearOverride _).bind fun _ => continues_concludeRebind _

theorem continues_settle (current : Option String) (restricted : Bool)
    (outcome : Except DeviceError Unit) : (handle.settle driver current restricted outcome).Continues := by
  cases outcome with
  | ok _ => exact (continues_clearOverride _).bind fun _ => continues_concludeRebind _
  | error failure =>
    exact LeavesUntouched.get.continues.bind fun _ => continues_reconsider _ _ _ _

theorem continues_grant (current : Option String) (restricted : Bool) :
    (handle.grant kernel driver current restricted).Continues := by
  have written : (Action.observe (handle.writeStage kernel driver .bind current
      (handle.bindFile driver) handle.address)).Continues := continues_writeStage _ _ _ _
  rw [grant_eq_settle]
  exact written.bind (continues_settle _ _)

theorem continues_acquire (current : Option String) :
    (handle.acquire kernel driver current).Continues := by
  intro machine
  rw [run_acquire]
  refine Continues.bind ?_ (fun _ => continues_grant _ _) machine
  split
  · exact continues_writeStage _ _ _ _
  · exact (LeavesUntouched.pure ()).continues

theorem continues_rebind : (handle.rebind kernel driver).Continues := by
  unfold rebind
  split
  · exact (LeavesUntouched.throw _).continues
  · apply (LeavesUntouched.ask _).continues.bind
    intro current
    split
    · exact (LeavesUntouched.note _).continues
    · exact (continues_release _).bind fun _ => continues_acquire _

theorem continues_provision (count : UInt32) : (handle.provision count).Continues := by
  apply (LeavesUntouched.ask _).continues.bind
  intro configured
  split
  · exact (LeavesUntouched.note _).continues
  split
  · exact (LeavesUntouched.throw _).continues
  · exact .write_bind _ _ ((LeavesUntouched.count _ _).bind fun _ => .note _) fun _ => .throw _

end Handle

end SingleRoot.Device
