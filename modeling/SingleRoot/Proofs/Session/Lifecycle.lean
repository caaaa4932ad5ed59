/-
# The bindings over a whole run

A run is a list of calls on handles of one host, rebinds and queries in any order, on any of the handles.
Between the calls, and at the points of a rebind, the kernel works on the tree. `Obeyed` says of one call
what is expected of the kernel and of the files, and `Told` what the answer of the call then tells about
the drivers that the functions are bound to. `told_of_obeyed` carries the one to the other over runs of
any length: a call keeps the directories where they are, and so the next call finds them.
-/
import SingleRoot.Proofs.Device.Binding
import SingleRoot.Proofs.Session.Looking

namespace SingleRoot.Session

open Device Host

/-- A call on a handle, with what the kernel does while it lasts and the tree that the kernel leaves
before the next call. -/
structure Call where
  handle : Handle
  request : Request
  kernel : Interference
  settled : Tree

namespace Call

/-- The answer of a call, and the machine when it returns. -/
def run (call : Call) (machine : Machine) : Except DeviceError Reply × Machine :=
  (HostSession.respond call.kernel call.handle call.request).run machine

/-- The machine that the next call meets. -/
def next (call : Call) (machine : Machine) : Machine :=
  { (call.run machine).2 with files := (call.run machine).2.files.withTree call.settled }

end Call

/-- The calls of a run, each with the machine that it meets. -/
def visits (machine : Machine) : List Call → List (Machine × Call)
  | [] => []
  | call :: rest => (machine, call) :: visits (call.next machine) rest

/-- What is expected of one call, which is a rebind or one that only looks. A rebind is served by the
kernel and writes no links. Around any other call the kernel leaves the links and the directories
alone. -/
def Obeyed (housing : Housing) (machine : Machine) (call : Call) : Prop :=
  housing.inUse call.handle ∧
    match call.request with
    | .rebind driver =>
      Housing.Lawful housing call.handle driver machine.files
          ((call.run machine).2.disturbances.drop machine.disturbances.length)
          ((call.run machine).2.attempts.drop machine.attempts.length) ∧
        Housing.Settles housing call.handle driver ((call.run machine).1.map fun _ => ())
          (call.run machine).2.files (call.next machine).files
    | request => request.looks = true ∧
        housing.Rests (call.run machine).2.files (call.next machine).files

/-- What one call tells about the drivers of all functions. -/
def Told (housing : Housing) (machine : Machine) (call : Call) : Prop :=
  ∀ asked, housing.inUse asked →
    match call.request with
    | .rebind driver =>
      if asked.address = call.handle.address then
        Housing.Foretold driver (asked.boundDriver machine.files)
          (asked.boundDriver (call.next machine).files) ((call.run machine).1.map fun _ => ())
      else asked.boundDriver (call.next machine).files = asked.boundDriver machine.files
    | _ => asked.boundDriver (call.next machine).files = asked.boundDriver machine.files

section Runs

variable {housing : Housing} {machine : Machine} {call : Call}

theorem run_rebind {driver : String} (asked : call.request = .rebind driver)
    {result : Except DeviceError Unit} {after : Machine}
    (ran : (call.handle.rebind call.kernel driver).run machine = (result, after)) :
    call.run machine = (result.map fun _ => .done, after) := by
  rw [Call.run, asked, HostSession.respond, run_effect, ran]

/-- A call that only looks changes no answer, if the kernel rests. -/
theorem told_of_look (holds : housing.HoldsIn machine.files) (looks : call.request.looks = true)
    (rests : housing.Rests (call.run machine).2.files (call.next machine).files) :
    housing.HoldsIn (call.next machine).files ∧
      ∀ asked, housing.inUse asked →
        asked.boundDriver (call.next machine).files = asked.boundDriver machine.files := by
  have untouched := leavesUntouched_respond call.kernel call.handle looks machine
  have same : (call.run machine).2.files = machine.files := untouched.files
  rw [same] at rests
  have spares : housing.Spares [] machine.files (call.next machine).files := rests.spares
  exact ⟨spares.holdsIn holds, fun asked used =>
    Housing.boundDriver_of_kept holds used spares (rests.links asked used)⟩

/-- A call that goes as expected keeps the directories where they are and tells the truth. -/
theorem told_of_call (holds : housing.HoldsIn machine.files) (obeyed : Obeyed housing machine call) :
    housing.HoldsIn (call.next machine).files ∧ Told housing machine call := by
  obtain ⟨used, expected⟩ := obeyed
  unfold Told
  cases asked : call.request with
  | rebind driver =>
    cases ran : (call.handle.rebind call.kernel driver).run machine with
    | mk result after =>
      have answered := run_rebind asked ran
      have erased : (call.run machine).1.map (fun _ => ()) = result := by
        rw [answered]
        cases result <;> rfl
      simp only [asked, erased] at expected
      rw [answered] at expected
      obtain ⟨lawful, settles⟩ := expected
      obtain ⟨holdsAfter, told⟩ := Housing.binding_of_rebind holds used ran lawful settles
      refine ⟨holdsAfter, ?_⟩
      intro asked usedToo
      dsimp only
      rw [erased]
      exact told asked usedToo
  | _ =>
    simp only [asked] at expected
    obtain ⟨looks, rests⟩ := expected
    rw [← asked] at looks
    exact told_of_look holds looks rests

/-- Over a run of any length, every answer tells what the queries find afterwards. -/
theorem told_of_obeyed (housing : Housing) (calls : List Call) (machine : Machine)
    (holds : housing.HoldsIn machine.files)
    (obeyed : ∀ visit ∈ visits machine calls, Obeyed housing visit.1 visit.2) :
    ∀ visit ∈ visits machine calls, Told housing visit.1 visit.2 := by
  induction calls generalizing machine with
  | nil =>
    intro visit among
    cases among
  | cons call rest ih =>
    obtain ⟨here, later⟩ := List.forall_mem_cons.1 obeyed
    obtain ⟨holdsAfter, told⟩ := told_of_call holds here
    exact List.forall_mem_cons.2 ⟨told, ih (call.next machine) holdsAfter later⟩

end Runs

/-! ## A run on the sample -/

namespace Sample

open Device.Sample

/-- The two functions of the sample. -/
def housing : Housing :=
  .under layout (fun a => a = address ∨ a = neighbour) (fun a => place ["devices", a])
    fun first second _ _ together => by
      simpa [place, Text.toBytes_inj] using together

/-- The tree when the first function has been linked to the other driver. -/
def linked : Tree :=
  files.tree.put (place ["devices", address, "driver"]) (.link (.ofText "../../drivers/vfio-pci"))

/-- The first function is bound to the other driver. -/
def binding : Call := ⟨⟨address, layout⟩, .rebind "vfio-pci", kernel, linked⟩

/-- The neighbour is asked for its driver. -/
def asking : Call := ⟨⟨neighbour, layout⟩, .driver, .none, linked⟩

/-- Both directories of the sample are where they were, and so is the neighbour's link. -/
def Stays (before after : FileSystem) : Prop :=
  after.caller = before.caller ∧ after.workingDirectory = before.workingDirectory ∧
    after.find (layout.deviceDirectory address) = before.find (layout.deviceDirectory address) ∧
    after.find (layout.deviceDirectory neighbour) =
      before.find (layout.deviceDirectory neighbour) ∧
    Housing.Kept (place ["devices", neighbour]) before.tree after.tree

instance (before after : FileSystem) : Decidable (Stays before after) :=
  inferInstanceAs (Decidable (_ ∧ _))

theorem Stays.spares {before after : FileSystem} (stays : Stays before after) :
    housing.Spares (housing.home address) before after := by
  obtain ⟨caller, workingDirectory, own, next, link⟩ := stays
  refine ⟨caller, workingDirectory, ?_, ?_⟩
  · rintro ⟨_, _⟩ ⟨rfl, rfl | rfl⟩
    · exact own
    · exact next
  · rintro ⟨_, _⟩ ⟨rfl, rfl | rfl⟩ away
    · exact absurd rfl away
    · exact link

theorem Stays.rests {before after : FileSystem} (stays : Stays before after)
    (kept : Housing.Kept (place ["devices", address]) before.tree after.tree) :
    housing.Rests before after := by
  refine ⟨stays.spares.caller, stays.spares.workingDirectory, stays.spares.homes, ?_⟩
  rintro ⟨_, _⟩ ⟨rfl, rfl | rfl⟩
  · exact kept
  · exact stays.2.2.2.2

end Sample

open Sample in
theorem told_of_obeyed_sample :
    housing.HoldsIn Device.Sample.files ∧
      (∀ visit ∈ visits (.start Device.Sample.files) [binding, asking],
        Obeyed housing visit.1 visit.2) ∧
      ∀ visit ∈ visits (.start Device.Sample.files) [binding, asking],
        Told housing visit.1 visit.2 := by
  have holds : housing.HoldsIn Device.Sample.files := by
    rintro ⟨_, _⟩ ⟨rfl, rfl | rfl⟩
    · exact ⟨.newDirectory, by decide +kernel⟩
    · exact ⟨.newDirectory, by decide +kernel⟩
  have stays : ∀ disturbance ∈ (binding.run (.start Device.Sample.files)).2.disturbances,
      Stays (Device.Sample.files.withTree disturbance.found)
        (Device.Sample.files.withTree disturbance.left) := by
    decide +kernel
  have serves : ∀ disturbance ∈ (binding.run (.start Device.Sample.files)).2.disturbances,
      Housing.Serves "vfio-pci" (housing.home Device.Sample.address) disturbance := by
    decide +kernel
  have noLinks : ∀ disturbance ∈ (binding.run (.start Device.Sample.files)).2.disturbances,
      ∀ attempt ∈ (binding.run (.start Device.Sample.files)).2.attempts,
        (Device.Sample.files.withTree disturbance.left).namesLink attempt.path = false := by
    decide +kernel
  have settled : Stays (binding.run (.start Device.Sample.files)).2.files
      (binding.next (.start Device.Sample.files)).files := by
    decide +kernel
  have succeeded : (binding.run (.start Device.Sample.files)).1 = .ok .done := by
    decide +kernel
  have bound : Obeyed housing (.start Device.Sample.files) binding := by
    refine ⟨⟨rfl, .inl rfl⟩, ⟨fun disturbance among => (stays disturbance among).spares, serves, ?_⟩,
      settled.spares, fun _ => ?_, fun failed => absurd ?_ failed⟩
    · intro disturbance among attempt made target
      exact FileSystem.findLink_ne_link (noLinks disturbance among attempt made) target
    · show Housing.Linked _ _ _
      decide +kernel
    · rw [succeeded]
      rfl
  have asked : Obeyed housing (binding.next (.start Device.Sample.files)) asking := by
    have rests : Stays (asking.run (binding.next (.start Device.Sample.files))).2.files
        (asking.next (binding.next (.start Device.Sample.files))).files := by
      decide +kernel
    exact ⟨⟨rfl, .inr rfl⟩, rfl, rests.rests (by decide +kernel)⟩
  have obeyed : ∀ visit ∈ visits (.start Device.Sample.files) [binding, asking],
      Obeyed housing visit.1 visit.2 :=
    List.forall_mem_cons.2 ⟨bound, List.forall_mem_cons.2 ⟨asked, by simp [visits]⟩⟩
  exact ⟨holds, obeyed,
    told_of_obeyed housing [binding, asking] (.start Device.Sample.files) holds obeyed⟩

end SingleRoot.Session
