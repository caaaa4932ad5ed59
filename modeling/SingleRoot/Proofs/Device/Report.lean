/-
# A rebind reports what it has done

The caller of a rebind sees its result and nothing else. `Report` says what the result has to do with
the writes that were attempted: which writes there can be and in which order, that nothing follows a
write that failed before the bind write, which failed write an error names and when it names the driver
that the function was released from, and when the result is a success. `report_of_rebind` shows that a
rebind reports in this way whatever the kernel does while it waits. The proof goes through the ways of
`SingleRoot.Proofs.Device.Course`; each way fixes the list of attempts.
-/
import SingleRoot.Proofs.Device.Course
import SingleRoot.Proofs.Device.Driver

namespace SingleRoot.Device

open Host

/-- What an attempt was to write, and where. -/
def Attempt.writing (attempt : Attempt) : HostPath × Bytes :=
  (attempt.path, attempt.content)

namespace Handle

section Definitions

variable (handle : Handle) (driver : String)

/-- The driver that a query sees; a query that fails sees none. -/
def seenDriver (files : FileSystem) : Option String :=
  (handle.boundDriver files).toOption.join

/-- What the write of a stage writes, and where, when the function is bound to `current`. -/
def stageWrite (current : Option String) : Stage → Option (HostPath × Bytes)
  | .unbind => current.map fun current => (handle.unbindFile current, Text.toBytes handle.address)
  | .override => some (handle.overrideFile, Text.toBytes driver)
  | .bind => some (handle.bindFile driver, Text.toBytes handle.address)

/-- All the writes that there can be, in their order. -/
def plannedWrites (current : Option String) : List (HostPath × Bytes) :=
  [.unbind, .override, .bind].filterMap (handle.stageWrite driver current) ++
    [(handle.overrideFile, Text.toBytes "\n")]

/-- What a rebind tells its caller, for a function bound to `current` at its beginning. -/
structure Report (current : Option String) (made : List Attempt) (before : Machine)
    (result : Except DeviceError Unit) (after : Machine) : Prop where
  /-- Every attempt is one of the planned writes, and they are made in their order. -/
  planned : (made.map Attempt.writing).Sublist
    (handle.plannedWrites driver current)
  unbindsOnce : ∀ former, current = some former →
    made.countP (fun attempt => attempt.path = handle.unbindFile former) ≤ 1
  bindsOnce : made.countP (fun attempt => attempt.path = handle.bindFile driver) ≤ 1
  /-- Only after the bind write is anything attempted when a write has failed. -/
  stops : made.Pairwise fun first _ =>
    first.fault.isSome → first.path = handle.bindFile driver
  /-- A function that is bound to the driver already is left alone. -/
  sparesBound : current = some driver → made = [] ∧ before.Untouched after
  /-- An error is about a write, unless the present driver could not be told. -/
  errors : ∀ error, result = .error error →
    (∃ stage previous fault,
      error = .bindFailure handle.address driver stage previous fault) ∨
    (handle.boundDriver before.files = .error error ∧ before.Untouched after)
  /-- The stage that an error names is that of the first write that failed. -/
  stage : ∀ address name stage previous fault,
    result = .error (.bindFailure address name stage previous fault) →
    ∃ attempt, made.find? (·.fault.isSome) = some attempt ∧ attempt.fault = some fault ∧
      handle.stageWrite driver current stage = some attempt.writing
  /-- The driver that an error names is the one from which the function has been released. -/
  previous : ∀ address name stage previous fault,
    result = .error (.bindFailure address name stage previous fault) →
    ∀ former, previous = some former ↔ current = some former ∧
      ⟨handle.unbindFile former, Text.toBytes handle.address, none⟩ ∈ made
  previousOfUnbind : ∀ address name previous fault,
    result = .error (.bindFailure address name .unbind previous fault) → previous = none
  /-- A success means that the function was bound already, or that the bind write was made, or that it
  failed and the function is bound to the driver all the same. -/
  success : result = .ok () ↔ current = some driver ∨
    ∃ fault?, ⟨handle.bindFile driver, Text.toBytes handle.address, fault?⟩ ∈ made ∧
      (fault? = none ∨ handle.boundDriver after.files = .ok (some driver))

end Definitions

variable {handle : Handle} {kernel : Interference} {driver : String}

/-! ## The files of a rebind are different files -/

theorem bindFile_ne_unbindFile (handle : Handle) (driver former : String) :
    handle.bindFile driver ≠ handle.unbindFile former := by
  intro same
  have names := HostPath.eq_of_join_eq (by decide) (by decide) same
  revert names
  decide

theorem overrideFile_ne_unbindFile (handle : Handle) (former : String) :
    handle.overrideFile ≠ handle.unbindFile former := by
  intro same
  have names := HostPath.eq_of_join_eq (by decide) (by decide) same
  revert names
  decide

theorem overrideFile_ne_bindFile (handle : Handle) (driver : String) :
    handle.overrideFile ≠ handle.bindFile driver := by
  intro same
  have names := HostPath.eq_of_join_eq (by decide) (by decide) same
  revert names
  decide

/-! ## Attempts of the phases -/

theorem Attempted.attempts {stage : Stage} {path : HostPath} {content : String}
    {fault? : Option Fault} {before waiting after : Machine}
    (attempted : Attempted kernel stage path content fault? before waiting after) :
    after.attempts = before.attempts ++ [⟨path, Text.toBytes content, fault?⟩] := by
  rw [attempted.2.attempts, attempted.1.attempts]

/-- The attempts of a release that succeeds. -/
def releasing (handle : Handle) (current : Option String) : List Attempt :=
  current.toList.map fun former =>
    ⟨handle.unbindFile former, Text.toBytes handle.address, none⟩

theorem Release.attempts {current : Option String} {before after : Machine}
    (release : Release handle kernel driver current before (.ok ()) after) :
    after.attempts = before.attempts ++ handle.releasing current := by
  cases release with
  | unneeded => simp [releasing]
  | done attempted stirred untouched =>
    rw [untouched.attempts, stirred.attempts, attempted.attempts]
    rfl

theorem Release.refusal {current : Option String} {error : DeviceError} {before after : Machine}
    (release : Release handle kernel driver current before (.error error) after) :
    ∃ former fault, current = some former ∧
      error = .bindFailure handle.address driver .unbind none fault ∧
      after.attempts = before.attempts ++
        [⟨handle.unbindFile former, Text.toBytes handle.address, some fault⟩] := by
  cases release with
  | refused attempted => exact ⟨_, _, rfl, rfl, attempted.attempts⟩

/-- The attempts of a restriction that succeeds. -/
def restraining (handle : Handle) (driver : String) (restricted : Bool) : List Attempt :=
  if restricted then [⟨handle.overrideFile, Text.toBytes driver, none⟩] else []

theorem Restriction.attempts {current : Option String} {restricted : Bool} {before after : Machine}
    (restriction : Restriction handle kernel driver current restricted before (.ok ()) after) :
    after.attempts = before.attempts ++ handle.restraining driver restricted := by
  cases restriction with
  | unknown lacks => simp [restraining]
  | done offers attempted => exact attempted.attempts

theorem Restriction.refusal {current : Option String} {restricted : Bool} {error : DeviceError}
    {before after : Machine}
    (restriction : Restriction handle kernel driver current restricted before (.error error)
      after) :
    ∃ fault, error = .bindFailure handle.address driver .override current fault ∧
      after.attempts = before.attempts ++
        [⟨handle.overrideFile, Text.toBytes driver, some fault⟩] := by
  cases restriction with
  | refused offers attempted => exact ⟨_, rfl, attempted.attempts⟩

/-- The attempts of a lifting: clearing the override, if anything. -/
def Clearing (handle : Handle) (cleared : List Attempt) : Prop :=
  cleared = [] ∨ ∃ fault?, cleared = [⟨handle.overrideFile, Text.toBytes "\n", fault?⟩]

theorem Lifting.attempts {restricted : Bool} {before after : Machine}
    (lifting : Lifting handle restricted before after) :
    ∃ cleared, handle.Clearing cleared ∧ after.attempts = before.attempts ++ cleared := by
  cases lifting with
  | unneeded untouched => exact ⟨[], .inl rfl, by simp [untouched.attempts]⟩
  | tried tried => exact ⟨_, .inr ⟨_, rfl⟩, tried.attempts⟩

/-- A write that is tried does not change whether the function is bound to a driver. -/
theorem boundDriver_of_tried {path : HostPath} {content : String} {fault? : Option Fault}
    {before after : Machine} (tried : before.Tried path content fault? after) :
    handle.boundDriver after.files = .ok (some driver) ↔
      handle.boundDriver before.files = .ok (some driver) := by
  rcases tried.files with same | ⟨landing, _, change⟩
  · rw [same]
  · exact boundDriver_written change

/-- Lifting the restriction does not change whether the function is bound to a driver. -/
theorem Lifting.boundDriver {restricted : Bool} {before after : Machine}
    (lifting : Lifting handle restricted before after) :
    handle.boundDriver after.files = .ok (some driver) ↔
      handle.boundDriver before.files = .ok (some driver) := by
  cases lifting with
  | unneeded untouched => rw [untouched.files]
  | tried tried => exact boundDriver_of_tried tried

/-! ## The report of each way -/

theorem plannedWrites_eq (current : Option String) :
    handle.plannedWrites driver current =
      (current.toList.map fun former => (handle.unbindFile former, Text.toBytes handle.address)) ++
        ([(handle.overrideFile, Text.toBytes driver)] ++
          ([(handle.bindFile driver, Text.toBytes handle.address)] ++
            [(handle.overrideFile, Text.toBytes "\n")])) := by
  cases current <;> rfl

variable {current : Option String} {made : List Attempt}

/-- A file that is planned to be written once is written at most once. -/
theorem countP_of_planned {path : HostPath}
    (planned : (made.map Attempt.writing).Sublist
      (handle.plannedWrites driver current))
    (once : (handle.plannedWrites driver current).countP (fun write => write.1 = path) ≤ 1) :
    made.countP (fun attempt => attempt.path = path) ≤ 1 := by
  have fewer := planned.countP_le (p := fun write => write.1 = path)
  rw [List.countP_map] at fewer
  exact Nat.le_trans fewer once

theorem countP_unbindFile (former : String) :
    (handle.plannedWrites driver (some former)).countP
      (fun write => write.1 = handle.unbindFile former) ≤ 1 := by
  rw [plannedWrites_eq]
  simp [overrideFile_ne_unbindFile, bindFile_ne_unbindFile]

theorem countP_bindFile (current : Option String) :
    (handle.plannedWrites driver current).countP
      (fun write => write.1 = handle.bindFile driver) ≤ 1 := by
  rw [plannedWrites_eq]
  cases current <;>
    simp [overrideFile_ne_bindFile, (bindFile_ne_unbindFile _ _ _).symm]

/-- What a grant attempts and answers. -/
theorem Grant.outcome {restricted : Bool} {before after : Machine}
    {result : Except DeviceError Unit}
    (grant : Grant handle kernel driver current restricted before result after) :
    ∃ fault? cleared, handle.Clearing cleared ∧
      after.attempts = before.attempts ++
        ⟨handle.bindFile driver, Text.toBytes handle.address, fault?⟩ :: cleared ∧
      (result = .ok () ∧ (fault? = none ∨ handle.boundDriver after.files = .ok (some driver)) ∨
        ∃ fault, fault? = some fault ∧
          result = .error (.bindFailure handle.address driver .bind current fault) ∧
          handle.boundDriver after.files ≠ .ok (some driver)) := by
  cases grant with
  | bound attempted lifting =>
    obtain ⟨cleared, clearing, attempts⟩ := lifting.attempts
    refine ⟨none, cleared, clearing, ?_, .inl ⟨rfl, .inl rfl⟩⟩
    rw [attempts, attempted.attempts, List.append_assoc, List.singleton_append]
  | @boundByKernel fault _ _ _ _ attempted bound lifting =>
    obtain ⟨cleared, clearing, attempts⟩ := lifting.attempts
    have boundAfter := lifting.boundDriver.2 (isBoundTo_iff.1 bound)
    refine ⟨some fault, cleared, clearing, ?_, .inl ⟨rfl, .inr boundAfter⟩⟩
    rw [attempts, attempted.attempts, List.append_assoc, List.singleton_append]
  | @refused fault _ _ _ _ attempted unbound lifting =>
    obtain ⟨cleared, clearing, attempts⟩ := lifting.attempts
    have unboundAfter : handle.boundDriver after.files ≠ .ok (some driver) := by
      intro bound
      rw [isBoundTo_iff.2 (lifting.boundDriver.1 bound)] at unbound
      cases unbound
    refine ⟨some fault, cleared, clearing, ?_, .inr ⟨fault, rfl, rfl, unboundAfter⟩⟩
    rw [attempts, attempted.attempts, List.append_assoc, List.singleton_append]

/-- The attempts of a rebind that comes to the bind write. -/
def granting (handle : Handle) (driver : String) (current : Option String) (restricted : Bool)
    (fault? : Option Fault) (cleared : List Attempt) : List Attempt :=
  handle.releasing current ++ (handle.restraining driver restricted ++
    ⟨handle.bindFile driver, Text.toBytes handle.address, fault?⟩ :: cleared)

theorem planned_granting {restricted : Bool} {fault? : Option Fault} {cleared : List Attempt}
    (clearing : handle.Clearing cleared) :
    ((handle.granting driver current restricted fault? cleared).map Attempt.writing).Sublist
      (handle.plannedWrites driver current) := by
  rw [granting, plannedWrites_eq, ← List.singleton_append, List.map_append, List.map_append,
    List.map_append]
  apply List.Sublist.append
  · simp [releasing, Function.comp_def, Attempt.writing]
  apply List.Sublist.append
  · cases restricted <;> simp [restraining, Attempt.writing]
  apply List.Sublist.append
  · simp [Attempt.writing]
  · rcases clearing with rfl | ⟨fault?, rfl⟩
    · simp
    · simp [Attempt.writing]

/-- No write fails in a release or a restriction that succeeds. -/
theorem fault_eq_none {restricted : Bool} {attempt : Attempt}
    (among : attempt ∈ handle.releasing current ++ handle.restraining driver restricted) :
    attempt.fault = none := by
  simp only [releasing, restraining, List.mem_append, List.mem_map] at among
  rcases among with ⟨former, _, rfl⟩ | among
  · rfl
  · cases restricted with
    | false => simp at among
    | true =>
      rw [if_pos rfl, List.mem_singleton] at among
      rw [among]

theorem find?_after_released (handle : Handle) (driver : String) (current : Option String)
    (restricted : Bool) (rest : List Attempt) :
    (handle.releasing current ++ (handle.restraining driver restricted ++ rest)).find?
      (·.fault.isSome) = rest.find? (·.fault.isSome) := by
  rw [← List.append_assoc, List.find?_append]
  have none_ : (handle.releasing current ++ handle.restraining driver restricted).find?
      (·.fault.isSome) = none := by
    rw [List.find?_eq_none]
    intro attempt among
    simp [fault_eq_none among]
  rw [none_, Option.none_or]

variable {before after : Machine}

/-- A rebind that attempts nothing leaves its machine untouched. -/
theorem report_of_untouched {result : Except DeviceError Unit}
    (untouched : before.Untouched after)
    (ends : current = some driver ∧ result = .ok () ∨ current = none ∧
      ∃ error, result = .error error ∧ handle.boundDriver before.files = .error error) :
    handle.Report driver current [] before result after := by
  have never {address name : String} {stage : Stage} {previous : Option String} {fault : Fault} :
      result ≠ .error (.bindFailure address name stage previous fault) := by
    intro failed
    rcases ends with ⟨_, succeeded⟩ | ⟨_, error, failedWith, unknown⟩
    · cases succeeded.symm.trans failed
    · cases failedWith.symm.trans failed
      exact boundDriver_ne_bindFailure unknown
  refine
    { planned := by simp
      unbindsOnce := by simp
      bindsOnce := by simp
      stops := by simp
      sparesBound := fun _ => ⟨rfl, untouched⟩
      errors := fun error failed => ?_
      stage := fun _ _ _ _ _ failed => absurd failed never
      previous := fun _ _ _ _ _ failed => absurd failed never
      previousOfUnbind := fun _ _ _ _ failed => absurd failed never
      success := ?_ }
  · rcases ends with ⟨_, succeeded⟩ | ⟨_, other, failedWith, unknown⟩
    · cases succeeded.symm.trans failed
    · cases failedWith.symm.trans failed
      exact .inr ⟨unknown, untouched⟩
  · rcases ends with ⟨bound, succeeded⟩ | ⟨released, other, failed, _⟩
    · simp [bound, succeeded]
    · simp [released, failed]

/-- The report of a release that is refused. -/
theorem report_of_unreleased {former : String} {fault : Fault} (other : former ≠ driver) :
    handle.Report driver (some former)
      [⟨handle.unbindFile former, Text.toBytes handle.address, some fault⟩] before
      (.error (.bindFailure handle.address driver .unbind none fault)) after := by
  have planned : [(handle.unbindFile former, Text.toBytes handle.address)].Sublist
      (handle.plannedWrites driver (some former)) := by
    rw [plannedWrites_eq]
    simp
  refine
    { planned
      unbindsOnce := fun _ _ => List.countP_le_length
      bindsOnce := List.countP_le_length
      stops := List.pairwise_singleton _ _
      sparesBound := fun same => absurd (Option.some.inj same) other
      errors := fun error failed => ?_
      stage := fun _ _ _ _ _ failed => ?_
      previous := fun _ _ _ _ _ failed sought => ?_
      previousOfUnbind := fun _ _ _ _ failed => ?_
      success := ?_ }
  · cases failed
    exact .inl ⟨_, _, _, rfl⟩
  · cases failed
    exact ⟨_, rfl, rfl, rfl⟩
  · cases failed
    simp
  · cases failed
    rfl
  · simp [other, bindFile_ne_unbindFile]

/-- A function that is bound and released has been released from the driver that it was bound to. -/
theorem released_iff {former : String} (later : List Attempt) :
    current = some former ↔ current = some former ∧
      ⟨handle.unbindFile former, Text.toBytes handle.address, none⟩ ∈
        handle.releasing current ++ later := by
  constructor
  · rintro rfl
    exact ⟨rfl, by simp [releasing]⟩
  · exact And.left

/-- A release writes no bind file. -/
theorem bindFile_notMem_releasing {content : Bytes} {fault? : Option Fault} :
    ⟨handle.bindFile driver, content, fault?⟩ ∉ handle.releasing current := by
  intro among
  obtain ⟨former, _, same⟩ := List.mem_map.1 among
  exact bindFile_ne_unbindFile handle driver former (congrArg Attempt.path same).symm

/-- A restriction writes no bind file. -/
theorem bindFile_notMem_restraining {content : Bytes} {fault? : Option Fault}
    {restricted : Bool} :
    ⟨handle.bindFile driver, content, fault?⟩ ∉ handle.restraining driver restricted := by
  cases restricted <;> simp [restraining, (overrideFile_ne_bindFile _ _).symm]

/-- The report of a restriction that is refused. -/
theorem report_of_unrestricted {fault : Fault} (other : current ≠ some driver) :
    handle.Report driver current
      (handle.releasing current ++ [⟨handle.overrideFile, Text.toBytes driver, some fault⟩]) before
      (.error (.bindFailure handle.address driver .override current fault)) after := by
  have planned : ((handle.releasing current ++
        ([⟨handle.overrideFile, Text.toBytes driver, some fault⟩] : List Attempt)).map
      Attempt.writing).Sublist
      (handle.plannedWrites driver current) := by
    rw [plannedWrites_eq, List.map_append]
    apply List.Sublist.append
    · simp [releasing, Function.comp_def, Attempt.writing]
    · simp [Attempt.writing]
  refine
    { planned
      unbindsOnce := ?_
      bindsOnce := countP_of_planned planned (countP_bindFile current)
      stops := ?_
      sparesBound := fun same => absurd same other
      errors := fun error failed => ?_
      stage := fun _ _ _ _ _ failed => ?_
      previous := fun _ _ _ _ _ failed former => ?_
      previousOfUnbind := fun _ _ _ _ failed => ?_
      success := ?_ }
  · rintro former rfl
    exact countP_of_planned planned (countP_unbindFile former)
  · cases current <;> simp [releasing]
  · cases failed
    exact .inl ⟨_, _, _, rfl⟩
  · cases failed
    refine ⟨⟨handle.overrideFile, Text.toBytes driver, some fault⟩, ?_, rfl, rfl⟩
    have first := handle.find?_after_released driver current false
      [⟨handle.overrideFile, Text.toBytes driver, some fault⟩]
    exact first
  · cases failed
    exact released_iff _
  · cases failed
  · simp [other, bindFile_notMem_releasing, (overrideFile_ne_bindFile handle driver).symm]

/-- The bind write of a grant is attempted once, so that all its attempts have one fault. -/
theorem fault_of_mem_granting {restricted : Bool} {fault? other? : Option Fault}
    {cleared : List Attempt} (clearing : handle.Clearing cleared)
    (among : ⟨handle.bindFile driver, Text.toBytes handle.address, other?⟩ ∈
      handle.granting driver current restricted fault? cleared) : other? = fault? := by
  rw [granting, List.mem_append, List.mem_append, List.mem_cons] at among
  rcases among with among | among | same | among
  · exact absurd among bindFile_notMem_releasing
  · exact absurd among bindFile_notMem_restraining
  · exact congrArg Attempt.fault same
  · rcases clearing with rfl | ⟨_, rfl⟩
    · simp at among
    · simp [(overrideFile_ne_bindFile handle driver).symm] at among

/-- The report of a rebind that comes to the bind write. -/
theorem report_of_granted {restricted : Bool} {fault? : Option Fault} {cleared : List Attempt}
    {result : Except DeviceError Unit} (other : current ≠ some driver)
    (clearing : handle.Clearing cleared)
    (ends : result = .ok () ∧ (fault? = none ∨
        handle.boundDriver after.files = .ok (some driver)) ∨
      ∃ fault, fault? = some fault ∧
        result = .error (.bindFailure handle.address driver .bind current fault) ∧
        handle.boundDriver after.files ≠ .ok (some driver)) :
    handle.Report driver current
      (handle.granting driver current restricted fault? cleared)
      before result after := by
  have planned : ((handle.granting driver current restricted fault? cleared).map
      Attempt.writing).Sublist (handle.plannedWrites driver current) :=
    planned_granting clearing
  refine
    { planned
      unbindsOnce := ?_
      bindsOnce := countP_of_planned planned (countP_bindFile current)
      stops := ?_
      sparesBound := fun same => absurd same other
      errors := fun error failed => ?_
      stage := fun _ _ _ _ _ failed => ?_
      previous := fun _ _ _ _ _ failed former => ?_
      previousOfUnbind := fun _ _ _ _ failed => ?_
      success := ?_ }
  · rintro former rfl
    exact countP_of_planned planned (countP_unbindFile former)
  · rw [granting, ← List.append_assoc, List.pairwise_append]
    refine ⟨?_, ?_, fun first among _ _ failed => ?_⟩
    · apply List.pairwise_of_forall_mem_list
      intro first among _ _ failed
      simp [fault_eq_none among] at failed
    · rcases clearing with rfl | ⟨_, rfl⟩
      · simp
      · simp
    · simp [fault_eq_none among] at failed
  · rcases ends with ⟨succeeded, _⟩ | ⟨fault, _, refused, _⟩
    · cases succeeded.symm.trans failed
    · cases refused.symm.trans failed
      exact .inl ⟨_, _, _, rfl⟩
  · rcases ends with ⟨succeeded, _⟩ | ⟨fault, rfl, refused, _⟩
    · cases succeeded.symm.trans failed
    · cases refused.symm.trans failed
      refine ⟨⟨handle.bindFile driver, Text.toBytes handle.address, some _⟩, ?_, rfl, rfl⟩
      rw [granting, find?_after_released, List.find?_cons_of_pos rfl]
  · rcases ends with ⟨succeeded, _⟩ | ⟨fault, _, refused, _⟩
    · cases succeeded.symm.trans failed
    · cases refused.symm.trans failed
      exact released_iff _
  · rcases ends with ⟨succeeded, _⟩ | ⟨fault, _, refused, _⟩
    · cases succeeded.symm.trans failed
    · cases refused.symm.trans failed
  · have there : ⟨handle.bindFile driver, Text.toBytes handle.address, fault?⟩ ∈
        handle.granting driver current restricted fault? cleared := by
      simp [granting]
    rcases ends with ⟨succeeded, bound⟩ | ⟨fault, rfl, refused, unbound⟩
    · exact iff_of_true succeeded (.inr ⟨fault?, there, bound⟩)
    · rw [refused]
      apply iff_of_false (by simp)
      rintro (same | ⟨other?, among, bound⟩)
      · exact other same
      · cases fault_of_mem_granting clearing among
        exact bound.elim (by simp) unbound

/-- A rebind tells its caller what has become of the function. -/
theorem report_of_rebind (handle : Handle) (kernel : Interference) (driver : String)
    (before : Machine) (named : isDriverName driver = true) :
    ∃ made, ((handle.rebind kernel driver).run before).2.attempts = before.attempts ++ made ∧
      handle.Report driver (handle.seenDriver before.files) made before
        ((handle.rebind kernel driver).run before).1
        ((handle.rebind kernel driver).run before).2 := by
  cases ran : (handle.rebind kernel driver).run before with
  | mk result after =>
    have seen {current : Option String} (bound : handle.boundDriver before.files = .ok current) :
        handle.seenDriver before.files = current := by
      rw [seenDriver, bound]
      rfl
    cases course_of_run ran with
    | misnamed misnamed => simp [named] at misnamed
    | unknown _ unknown =>
      refine ⟨[], by simp, report_of_untouched ⟨rfl, rfl, rfl⟩ (.inr ⟨?_, _, rfl, unknown⟩)⟩
      rw [seenDriver, unknown]
      rfl
    | unneeded _ bound untouched =>
      rw [seen bound]
      exact ⟨[], by simp [untouched.attempts], report_of_untouched untouched (.inl ⟨rfl, rfl⟩)⟩
    | unreleased _ bound other release =>
      obtain ⟨former, fault, rfl, rfl, attempts⟩ := release.refusal
      rw [seen bound]
      exact ⟨_, attempts, report_of_unreleased fun same => other (congrArg some same)⟩
    | unrestricted _ bound other release restriction =>
      obtain ⟨fault, rfl, attempts⟩ := restriction.refusal
      rw [seen bound]
      refine ⟨_, ?_, report_of_unrestricted other⟩
      rw [attempts, release.attempts, List.append_assoc]
    | @granted current restricted _ _ _ _ _ _ bound other release restriction grant =>
      obtain ⟨fault?, cleared, clearing, attempts, ends⟩ := grant.outcome
      rw [seen bound]
      refine ⟨handle.granting driver current restricted fault? cleared, ?_,
        report_of_granted other clearing ends⟩
      rw [attempts, restriction.attempts, release.attempts, List.append_assoc, List.append_assoc]
      rfl

end Handle

/-! ## A host on which the kernel binds by itself -/

namespace Sample

/-- A location, spelled from the root. -/
def place (names : List String) : Location :=
  (names.map Text.toBytes).reverse

/-- The address of the function of the sample. -/
def address : String := "0000:01:00.0"

/-- The layout of the sample. -/
def layout : Layout := ⟨.ofText "/devices", .ofText "/drivers"⟩

/-- The address of another function. -/
def neighbour : String := "0000:01:00.1"

/-- Two functions that are bound to one driver, the first with an override and without virtual
functions, and another driver. -/
def files : FileSystem :=
  ⟨{ rows := [(place ["devices"], .directory .newDirectory),
      (place ["devices", address], .directory .newDirectory),
      (place ["devices", address, "driver"], .link (.ofText "../../drivers/ixgbe")),
      (place ["devices", address, "driver_override"], .file .newFile []),
      (place ["devices", address, "sriov_numvfs"], .file .newFile (Text.toBytes "0\n")),
      (place ["devices", neighbour], .directory .newDirectory),
      (place ["devices", neighbour, "driver"], .link (.ofText "../../drivers/ixgbe")),
      (place ["drivers"], .directory .newDirectory),
      (place ["drivers", "ixgbe"], .directory .newDirectory),
      (place ["drivers", "ixgbe", "unbind"], .file .newFile []),
      (place ["drivers", "vfio-pci"], .directory .newDirectory),
      (place ["drivers", "vfio-pci", "bind"], .file ⟨true, false, false⟩ [])] },
    [], .owner⟩

/-- The kernel takes the link away when the function is released, and makes the new one before the
bind write, which then fails. -/
def kernel : Interference
  | .afterUnbind, tree => tree.remove (place ["devices", address, "driver"])
  | .before .bind, tree =>
    tree.put (place ["devices", address, "driver"]) (.link (.ofText "../../drivers/vfio-pci"))
  | _, tree => tree

/-- An entry that a reader of its directory does not get. -/
def failing (name : Name) : Damage :=
  ⟨[name], .inputOutput, nofun⟩

end Sample

/-- On the sample the bind write fails, and yet the function is bound: the report is that of a
success. -/
theorem report_of_rebind_sample : isDriverName "vfio-pci" = true ∧
    ∃ made, (((⟨Sample.address, Sample.layout⟩ : Handle).rebind Sample.kernel "vfio-pci").run
        (.start Sample.files)).2.attempts = [] ++ made ∧
      (⟨Sample.address, Sample.layout⟩ : Handle).Report "vfio-pci" (some "ixgbe") made
        (.start Sample.files) (.ok ())
        (((⟨Sample.address, Sample.layout⟩ : Handle).rebind Sample.kernel "vfio-pci").run
          (.start Sample.files)).2 := by
  have named : isDriverName "vfio-pci" = true := by decide
  have reports := Handle.report_of_rebind ⟨Sample.address, Sample.layout⟩ Sample.kernel "vfio-pci"
    (.start Sample.files) named
  have seen : (⟨Sample.address, Sample.layout⟩ : Handle).seenDriver
      (Machine.start Sample.files).files = some "ixgbe" := by
    decide +kernel
  have ended : (((⟨Sample.address, Sample.layout⟩ : Handle).rebind Sample.kernel "vfio-pci").run
      (.start Sample.files)).1 = .ok () := by
    decide +kernel
  rw [seen, ended] at reports
  exact ⟨named, reports⟩

end SingleRoot.Device
