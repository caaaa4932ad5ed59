/-
# What the parts of a call do

Every management call is put together from a few parts: it asks, it reports and counts, it gives way to
the kernel, and it tries to write. This module says what each part does when it runs, and sorts the
changes of a machine accordingly. Reporting and counting leave the machine *untouched*: its files and
its record of attempts and disturbances are as before. A machine is *stirred* by the kernel at a point,
and a write is *tried* on it with or without a fault. Journal and tally are free in all three, so that
no statement about files has to mention them.
-/
import Mathlib.Data.List.Basic
import SingleRoot.Device.Machine
import SingleRoot.Proofs.Host.Writing

namespace SingleRoot.Device

open Host

/-! ## Running a call -/

-- Results can be compared, so that a call can be evaluated where everything is given.
instance decidableEqResult {ε α : Type} [DecidableEq ε] [DecidableEq α] : DecidableEq (Except ε α)
  | .error one, .error other => decidable_of_iff (one = other) (by simp)
  | .ok one, .ok other => decidable_of_iff (one = other) (by simp)
  | .error _, .ok _ => .isFalse (by simp)
  | .ok _, .error _ => .isFalse (by simp)

namespace Action

variable {α β : Type} {machine : Machine}

@[simp] theorem run_note (event : Event) :
    (note event).run machine =
      (.ok (), { machine with journal := machine.journal ++ [event] }) :=
  rfl

@[simp] theorem run_ask (query : FileSystem → Except DeviceError α) :
    (ask query).run machine = (query machine.files, machine) :=
  rfl

@[simp] theorem run_get : (get : Action Machine).run machine = (.ok machine, machine) :=
  rfl

@[simp] theorem run_reach (kernel : Interference) (point : Point) :
    (reach kernel point).run machine = (.ok (), machine.disturb kernel point) :=
  rfl

@[simp] theorem run_write (path : HostPath) (content : String) :
    (write path content).run machine =
      (.ok (machine.write path (Text.toBytes content)).1,
        (machine.write path (Text.toBytes content)).2) :=
  rfl

@[simp] theorem run_observe (part : Action α) :
    (observe part).run machine = (.ok (part.run machine).1, (part.run machine).2) :=
  rfl

/-- A call goes on with the machine that its first part leaves, unless that part fails. -/
theorem run_bind (part : Action α) (rest : α → Action β) :
    (part >>= rest).run machine =
      match part.run machine with
      | (.ok value, middle) => (rest value).run middle
      | (.error error, middle) => (.error error, middle) := by
  show (part >>= rest) machine = _
  simp only [bind, ExceptT.bind, ExceptT.mk, StateT.bind, ExceptT.run, ExceptT.bindCont]
  cases part machine with
  | mk result middle => cases result <;> rfl

theorem run_map (f : α → β) (part : Action α) :
    (f <$> part).run machine = ((part.run machine).1.map f, (part.run machine).2) := by
  rw [← bind_pure_comp, run_bind]
  cases part.run machine with
  | mk result middle => cases result <;> rfl

end Action

/-! ## Changes of a machine -/

namespace Machine

/-- Nothing has happened to the files, and nothing has been tried. -/
structure Untouched (before after : Machine) : Prop where
  files : after.files = before.files
  attempts : after.attempts = before.attempts
  disturbances : after.disturbances = before.disturbances

/-- The kernel has had its opportunity at a point. -/
structure Stirred (kernel : Interference) (point : Point) (before after : Machine) : Prop where
  files : after.files = before.files.withTree (kernel point before.files.tree)
  attempts : after.attempts = before.attempts
  disturbances : after.disturbances =
    before.disturbances ++ [⟨point, before.files.tree, after.files.tree⟩]

/-- A write has been tried; without a fault it has been made, with one it has changed nothing. -/
structure Tried (path : HostPath) (content : String) (fault? : Option Fault)
    (before after : Machine) : Prop where
  made : fault? = none →
    before.files.write path (Text.toBytes content) = .ok after.files
  failed : ∀ fault, fault? = some fault →
    before.files.write path (Text.toBytes content) = .error fault ∧ after.files = before.files
  attempts : after.attempts = before.attempts ++ [⟨path, Text.toBytes content, fault?⟩]
  disturbances : after.disturbances = before.disturbances

variable {before middle after : Machine}

@[simp] theorem untouched_refl (machine : Machine) : Untouched machine machine :=
  ⟨rfl, rfl, rfl⟩

theorem Untouched.trans (first : Untouched before middle) (second : Untouched middle after) :
    Untouched before after :=
  ⟨second.files.trans first.files, second.attempts.trans first.attempts,
    second.disturbances.trans first.disturbances⟩

theorem stirred_disturb (kernel : Interference) (point : Point) (machine : Machine) :
    Stirred kernel point machine (machine.disturb kernel point) :=
  ⟨rfl, rfl, rfl⟩

/-- What leaves the machine untouched may stand before and after a write that is tried. -/
theorem Tried.amid_untouched {path : HostPath} {content : String} {fault? : Option Fault}
    {first last : Machine} (former : Untouched first before)
    (tried : Tried path content fault? before after) (latter : Untouched after last) :
    Tried path content fault? first last := by
  refine ⟨fun unhindered => ?_, fun fault hindered => ?_, ?_, ?_⟩
  · rw [latter.files, ← former.files]
    exact tried.made unhindered
  · rw [latter.files, ← former.files]
    exact tried.failed fault hindered
  · rw [latter.attempts, ← former.attempts]
    exact tried.attempts
  · rw [latter.disturbances, ← former.disturbances]
    exact tried.disturbances

/-- An attempt to write is recorded with the fault that it answers. -/
theorem tried_write {path : HostPath} {content : String} {fault? : Option Fault}
    (written : before.write path (Text.toBytes content) = (fault?, after)) :
    Tried path content fault? before after := by
  rw [write] at written
  split at written
  · rename_i files wrote
    cases written
    exact ⟨fun _ => wrote, by simp, rfl, rfl⟩
  · rename_i fault refused
    cases written
    refine ⟨by simp, ?_, rfl, rfl⟩
    intro other same
    cases same
    exact ⟨refused, rfl⟩

/-- A write that is tried leaves the files alone or changes the one that its path leads to. -/
theorem Tried.files {path : HostPath} {content : String} {fault? : Option Fault}
    (tried : Tried path content fault? before after) :
    after.files = before.files ∨
      ∃ landing, before.files.resolve .produce path = .ok landing ∧
        before.files.FileWritten landing.location (Text.toBytes content) after.files := by
  cases fault? with
  | some fault => exact .inl (tried.failed fault rfl).2
  | none => exact .inr (FileSystem.fileWritten_of_write (tried.made rfl))

end Machine

/-! ## What attempts make of the files -/

/-- What attempts to write make of the files, one after another, when nothing else happens to them. -/
inductive Writes : List Attempt → FileSystem → FileSystem → Prop
  | done {files : FileSystem} : Writes [] files files
  | failed {path : HostPath} {content : Bytes} {fault : Fault} {later : List Attempt}
      {before after : FileSystem} (rest : Writes later before after) :
      Writes (⟨path, content, some fault⟩ :: later) before after
  | made {path : HostPath} {content : Bytes} {later : List Attempt}
      {before between after : FileSystem} (wrote : before.write path content = .ok between)
      (rest : Writes later between after) :
      Writes (⟨path, content, none⟩ :: later) before after

theorem Writes.append {made further : List Attempt} {before between after : FileSystem}
    (former : Writes made before between) (latter : Writes further between after) :
    Writes (made ++ further) before after := by
  induction former with
  | done => exact latter
  | failed _ ih => exact .failed (ih latter)
  | made wrote _ ih => exact .made wrote (ih latter)

/-- What no write changes that the attempts may have made is not changed by all of them. -/
theorem Writes.invariant {P : FileSystem → Prop} {made : List Attempt} {before after : FileSystem}
    (writes : Writes made before after)
    (kept : ∀ attempt ∈ made, ∀ {files next : FileSystem}, P files →
      files.write attempt.path attempt.content = .ok next → P next)
    (initially : P before) : P after := by
  induction writes with
  | done => exact initially
  | failed _ ih =>
    exact ih (fun attempt among => kept attempt (List.mem_cons_of_mem _ among)) initially
  | made wrote _ ih =>
    exact ih (fun attempt among => kept attempt (List.mem_cons_of_mem _ among))
      (kept _ List.mem_cons_self initially wrote)

/-! ## What all runs of a call have in common -/

/-- Every run of a call relates the machine that it meets to the one that it leaves, however it ends. -/
def Action.Within {α : Type} (related : Machine → Machine → Prop) (call : Action α) : Prop :=
  ∀ machine : Machine, related machine (call.run machine).2

namespace Action.Within

variable {α β : Type} (related : Machine → Machine → Prop)

theorem of_run {call : Action α} {result : Except DeviceError α} {before after : Machine}
    (within : Within related call) (ran : call.run before = (result, after)) :
    related before after := by
  have kept := within before
  rw [ran] at kept
  exact kept

variable (trans : ∀ first second third, related first second → related second third →
  related first third)

include trans

theorem bind {part : Action α} {rest : α → Action β} (first : Within related part)
    (second : ∀ value, Within related (rest value)) : Within related (part >>= rest) := by
  intro machine
  have former := first machine
  rw [run_bind]
  cases ran : part.run machine with
  | mk result middle =>
    rw [ran] at former
    cases result with
    | error error => exact former
    | ok value => exact trans _ _ _ former (second value middle)

/-- A loop keeps to a relation if each of its rounds does. -/
theorem forIn (refl : ∀ machine, related machine machine) {round : α → Action Unit}
    (rounds : ∀ value, Within related (round value)) (values : List α) :
    Within related (forIn values PUnit.unit fun value _ => do
      round value
      Pure.pure (ForInStep.yield PUnit.unit)) := by
  induction values with
  | nil => exact refl
  | cons value rest ih =>
    rw [List.forIn_cons, bind_assoc]
    apply bind related trans (rounds value)
    intro _
    rw [pure_bind]
    exact ih

end Action.Within

/-! ## Calls that only look -/

/-- A call that leaves every machine untouched, however it ends. -/
def Action.LeavesUntouched {α : Type} (call : Action α) : Prop :=
  ∀ machine : Machine, machine.Untouched (call.run machine).2

namespace Action.LeavesUntouched

variable {α β : Type}

theorem pure (value : α) : LeavesUntouched (Pure.pure value) := fun _ => ⟨rfl, rfl, rfl⟩

theorem throw (error : DeviceError) : LeavesUntouched (MonadExcept.throw error : Action α) :=
  fun _ => ⟨rfl, rfl, rfl⟩

theorem ask (query : FileSystem → Except DeviceError α) : LeavesUntouched (Action.ask query) :=
  fun _ => ⟨rfl, rfl, rfl⟩

theorem get : LeavesUntouched MonadState.get := fun _ => ⟨rfl, rfl, rfl⟩

theorem note (event : Event) : LeavesUntouched (Action.note event) := fun _ => ⟨rfl, rfl, rfl⟩

theorem count (counter : Counter) (amount : Nat) : LeavesUntouched (Action.count counter amount) :=
  fun _ => ⟨rfl, rfl, rfl⟩

theorem of_run {call : Action α} {result : Except DeviceError α} {before after : Machine}
    (looks : LeavesUntouched call) (ran : call.run before = (result, after)) :
    before.Untouched after :=
  Within.of_run Machine.Untouched looks ran

theorem bind {part : Action α} {rest : α → Action β} (first : LeavesUntouched part)
    (second : ∀ value, LeavesUntouched (rest value)) : LeavesUntouched (part >>= rest) :=
  Within.bind Machine.Untouched (fun _ _ _ => .trans) first second

theorem map (f : α → β) {part : Action α} (first : LeavesUntouched part) :
    LeavesUntouched (f <$> part) := by
  intro machine
  rw [run_map]
  exact first machine

/-- A loop leaves a machine untouched if each of its rounds does. -/
theorem forIn {round : α → Action Unit} (rounds : ∀ value, LeavesUntouched (round value))
    (values : List α) :
    LeavesUntouched (forIn values PUnit.unit fun value _ => do
      round value
      Pure.pure (ForInStep.yield PUnit.unit)) :=
  Within.forIn Machine.Untouched (fun _ _ _ => .trans) Machine.untouched_refl rounds values

end Action.LeavesUntouched

/-! ## Calls that cannot fail -/

/-- A call that succeeds with a value on every machine. -/
def Action.Succeeds {α : Type} (call : Action α) (value : α) : Prop :=
  ∀ machine : Machine, (call.run machine).1 = .ok value

namespace Action.Succeeds

variable {α β : Type}

theorem pure (value : α) : Succeeds (Pure.pure value) value := fun _ => rfl

theorem note (event : Event) : Succeeds (Action.note event) () := fun _ => rfl

theorem count (counter : Counter) (amount : Nat) : Succeeds (Action.count counter amount) () :=
  fun _ => rfl

theorem bind {part : Action α} {rest : α → Action β} {value : α} {final : β}
    (first : Succeeds part value) (second : ∀ value, Succeeds (rest value) final) :
    Succeeds (part >>= rest) final := by
  intro machine
  have succeeded := first machine
  rw [run_bind]
  cases ran : part.run machine with
  | mk result middle =>
    rw [ran] at succeeded
    cases succeeded
    exact second value middle

/-- A loop succeeds if each of its rounds does. -/
theorem forIn {round : α → Action Unit} (rounds : ∀ value, Succeeds (round value) ())
    (values : List α) :
    Succeeds (forIn values PUnit.unit fun value _ => do
      round value
      Pure.pure (ForInStep.yield PUnit.unit)) PUnit.unit := by
  induction values with
  | nil => exact pure _
  | cons value rest ih =>
    rw [List.forIn_cons, bind_assoc]
    apply (rounds value).bind
    intro _
    rw [pure_bind]
    exact ih

end Action.Succeeds

end SingleRoot.Device
