/-
# The course of a rebind

A rebind releases the function from its driver, restricts it to the new one, binds it, and lifts the
restriction. Each of these phases can take a few ways, and between the writes the kernel may do what it
likes. `Release`, `Restriction`, `Lifting` and `Course` list the ways, with the machines in between and
with everything that decides between them, and `course_of_run` shows that a rebind takes one of them.
Whatever is to be shown of all rebinds can then be shown way by way.
-/
import SingleRoot.Device.Rebind
import SingleRoot.Proofs.Device.Books
import SingleRoot.Proofs.Host.Path

namespace SingleRoot.Device.Handle

open Host

section Definitions

variable (handle : Handle) (kernel : Interference) (driver : String)

/-- The kernel has had its opportunity and the write of a stage has been tried. -/
def Attempted (stage : Stage) (path : HostPath) (content : String) (fault? : Option Fault)
    (before waiting after : Machine) : Prop :=
  before.Stirred kernel (.before stage) waiting ∧ waiting.Tried path content fault? after

/-- The ways to release a function that is bound to `current`. -/
inductive Release : Option String → Machine → Except DeviceError Unit → Machine → Prop
  | /-- There is nothing to release it from. -/
    unneeded {machine : Machine} : Release none machine (.ok ()) machine
  | refused {current : String} {fault : Fault} {before waiting after : Machine}
      (attempted : Attempted kernel .unbind (handle.unbindFile current) handle.address (some fault)
        before waiting after) :
      Release (some current) before
        (.error (.bindFailure handle.address driver .unbind none fault)) after
  | done {current : String} {before waiting written freed after : Machine}
      (attempted : Attempted kernel .unbind (handle.unbindFile current) handle.address none
        before waiting written)
      (stirred : written.Stirred kernel .afterUnbind freed) (untouched : freed.Untouched after) :
      Release (some current) before (.ok ()) after

/-- The ways to restrict a function that has been released from `current` to the driver. The flag says
whether it is restricted afterwards. -/
inductive Restriction (current : Option String) :
    Bool → Machine → Except DeviceError Unit → Machine → Prop
  | /-- The host offers no such restriction. -/
    unknown {machine : Machine} (lacks : machine.files.holds handle.overrideFile = false) :
      Restriction current false machine (.ok ()) machine
  | refused {fault : Fault} {before waiting after : Machine}
      (offers : before.files.holds handle.overrideFile = true)
      (attempted : Attempted kernel .override handle.overrideFile driver (some fault)
        before waiting after) :
      Restriction current false before
        (.error (.bindFailure handle.address driver .override current fault)) after
  | done {before waiting after : Machine}
      (offers : before.files.holds handle.overrideFile = true)
      (attempted : Attempted kernel .override handle.overrideFile driver none
        before waiting after) :
      Restriction current true before (.ok ()) after

/-- The ways to lift a restriction, if there is one. A fault is no obstacle. -/
inductive Lifting : Bool → Machine → Machine → Prop
  | unneeded {before after : Machine} (untouched : before.Untouched after) :
      Lifting false before after
  | tried {fault? : Option Fault} {before after : Machine}
      (tried : before.Tried handle.overrideFile "\n" fault? after) : Lifting true before after

/-- The ways to give a function that has been released from `current` to the driver, once it is
restricted or cannot be. -/
inductive Grant (current : Option String) (restricted : Bool) :
    Machine → Except DeviceError Unit → Machine → Prop
  | bound {before waiting written after : Machine}
      (attempted : Attempted kernel .bind (handle.bindFile driver) handle.address none
        before waiting written)
      (lifting : Lifting handle restricted written after) :
      Grant current restricted before (.ok ()) after
  | /-- The write has failed, but the kernel has bound the function on its own. -/
    boundByKernel {fault : Fault} {before waiting written after : Machine}
      (attempted : Attempted kernel .bind (handle.bindFile driver) handle.address (some fault)
        before waiting written)
      (bound : handle.isBoundTo driver written.files = true)
      (lifting : Lifting handle restricted written after) :
      Grant current restricted before (.ok ()) after
  | refused {fault : Fault} {before waiting written after : Machine}
      (attempted : Attempted kernel .bind (handle.bindFile driver) handle.address (some fault)
        before waiting written)
      (unbound : handle.isBoundTo driver written.files = false)
      (lifting : Lifting handle restricted written after) :
      Grant current restricted before
        (.error (.bindFailure handle.address driver .bind current fault)) after

/-- The ways of a rebind. -/
inductive Course : Machine → Except DeviceError Unit → Machine → Prop
  | misnamed {machine : Machine} (misnamed : isDriverName driver = false) :
      Course machine
        (.error (.bindFailure handle.address driver .bind none .invalidDriverName)) machine
  | unknown {error : DeviceError} {machine : Machine} (named : isDriverName driver = true)
      (unknown : handle.boundDriver machine.files = .error error) :
      Course machine (.error error) machine
  | unneeded {before after : Machine} (named : isDriverName driver = true)
      (bound : handle.boundDriver before.files = .ok (some driver))
      (untouched : before.Untouched after) : Course before (.ok ()) after
  | unreleased {current : Option String} {error : DeviceError} {before after : Machine}
      (named : isDriverName driver = true)
      (bound : handle.boundDriver before.files = .ok current) (other : current ≠ some driver)
      (release : Release handle kernel driver current before (.error error) after) :
      Course before (.error error) after
  | unrestricted {current : Option String} {error : DeviceError} {restricted : Bool}
      {before released after : Machine} (named : isDriverName driver = true)
      (bound : handle.boundDriver before.files = .ok current) (other : current ≠ some driver)
      (release : Release handle kernel driver current before (.ok ()) released)
      (restriction : Restriction handle kernel driver current restricted released (.error error)
        after) :
      Course before (.error error) after
  | granted {current : Option String} {restricted : Bool} {result : Except DeviceError Unit}
      {before released restrained after : Machine} (named : isDriverName driver = true)
      (bound : handle.boundDriver before.files = .ok current) (other : current ≠ some driver)
      (release : Release handle kernel driver current before (.ok ()) released)
      (restriction : Restriction handle kernel driver current restricted released (.ok ())
        restrained)
      (grant : Grant handle kernel driver current restricted restrained result after) :
      Course before result after

/-- What follows the restriction in a call. -/
def grant (current : Option String) (restricted : Bool) : Action Unit := do
  match ← Action.observe
      (handle.writeStage kernel driver .bind current (handle.bindFile driver) handle.address) with
  | .ok () =>
    handle.clearOverride restricted
    handle.concludeRebind driver current
  | .error failure =>
    if handle.isBoundTo driver (← get).files then
      Action.note (.autoBound handle.address driver)
      handle.clearOverride restricted
      handle.concludeRebind driver current
    else
      handle.clearOverride restricted
      throw failure

/-- The ways to lift a restriction, with the fault if there is one. -/
inductive Lifted : Bool → Option Fault → Machine → Machine → Prop
  | unneeded {before after : Machine} (untouched : before.Untouched after) :
      Lifted false none before after
  | tried {fault? : Option Fault} {before after : Machine}
      (tried : before.Tried handle.overrideFile "\n" fault? after) : Lifted true fault? before after

/-- The warnings about a restriction that was to be lifted. -/
def uncleared (fault? : Option Fault) : List Event :=
  fault?.toList.map (.overrideNotCleared handle.address)

/-- The result of a rebind whose bind write has ended and left these files. -/
def verdict (current : Option String) (fault? : Option Fault) (files : FileSystem) :
    Except DeviceError Unit :=
  match fault? with
  | none => .ok ()
  | some fault =>
    if handle.isBoundTo driver files then .ok ()
    else .error (.bindFailure handle.address driver .bind current fault)

/-- What is counted when a rebind has come to the bind write and ends with a result. -/
def bindsCounted : Except DeviceError Unit → List (Counter × Nat)
  | .ok _ => [(.driverBinds driver, 1)]
  | .error _ => []

/-- The calls that a rebind is made of, up to the one with which it ends. -/
inductive Passage (before : Machine) : Except DeviceError Unit → Machine → Prop
  | misnamed (misnamed : isDriverName driver = false) :
      Passage before
        (.error (.bindFailure handle.address driver .bind none .invalidDriverName)) before
  | unknown {error : DeviceError} (named : isDriverName driver = true)
      (unknown : handle.boundDriver before.files = .error error) :
      Passage before (.error error) before
  | unneeded (named : isDriverName driver = true)
      (bound : handle.boundDriver before.files = .ok (some driver)) :
      Passage before (.ok ())
        { before with journal := before.journal ++ [.alreadyBound handle.address driver] }
  | unreleased {current : Option String} {error : DeviceError} {after : Machine}
      (named : isDriverName driver = true)
      (bound : handle.boundDriver before.files = .ok current) (other : current ≠ some driver)
      (releases : (handle.release kernel driver current).run before = (.error error, after)) :
      Passage before (.error error) after
  | unrestricted {current : Option String} {error : DeviceError} {released after : Machine}
      (named : isDriverName driver = true)
      (bound : handle.boundDriver before.files = .ok current) (other : current ≠ some driver)
      (releases : (handle.release kernel driver current).run before = (.ok (), released))
      (restricts : (if released.files.holds handle.overrideFile then
          handle.writeStage kernel driver .override current handle.overrideFile driver
        else pure ()).run released = (.error error, after)) :
      Passage before (.error error) after
  | granted {current : Option String} {result : Except DeviceError Unit}
      {released restrained after : Machine} (named : isDriverName driver = true)
      (bound : handle.boundDriver before.files = .ok current) (other : current ≠ some driver)
      (releases : (handle.release kernel driver current).run before = (.ok (), released))
      (restricts : (if released.files.holds handle.overrideFile then
          handle.writeStage kernel driver .override current handle.overrideFile driver
        else pure ()).run released = (.ok (), restrained))
      (grants : (grant handle kernel driver current
        (released.files.holds handle.overrideFile)).run restrained = (result, after)) :
      Passage before result after

end Definitions

variable {handle : Handle} {kernel : Interference} {driver : String}

/-! ## Writes before which the kernel waits -/

section Waiting

variable {stage : Stage} {path : HostPath} {content : String} {before waiting after : Machine}

theorem Attempted.wrote (attempted : Attempted kernel stage path content none before waiting after)
    (waits : ∀ tree, kernel (.before stage) tree = tree) :
    before.files.write path (Text.toBytes content) = .ok after.files := by
  have made := attempted.2.made rfl
  rw [attempted.1.files, waits] at made
  exact made

theorem Attempted.failed {fault : Fault}
    (attempted : Attempted kernel stage path content (some fault) before waiting after)
    (waits : ∀ tree, kernel (.before stage) tree = tree) :
    before.files.write path (Text.toBytes content) = .error fault ∧ after.files = before.files := by
  have failed := attempted.2.failed fault rfl
  rw [attempted.1.files, waits] at failed
  exact failed

end Waiting

/-! ## A rebind takes one of these ways -/

/-- The write of a stage answers with the error that names the stage, or does not fail. -/
theorem run_writeStage {stage : Stage} {previous : Option String} {path : HostPath}
    {content : String} {before after : Machine} {result : Except DeviceError Unit}
    (ran : (handle.writeStage kernel driver stage previous path content).run before =
      (result, after)) :
    ∃ fault? waiting, Attempted kernel stage path content fault? before waiting after ∧
      result = match fault? with
        | none => .ok ()
        | some fault => .error (.bindFailure handle.address driver stage previous fault) := by
  simp only [writeStage, Action.run_bind, Action.run_note, Action.run_reach,
    Action.run_write] at ran
  generalize waited : Machine.disturb _ kernel (.before stage) = waiting at ran
  have stirred : before.Stirred kernel (.before stage) waiting := by
    rw [← waited]
    exact ⟨rfl, rfl, rfl⟩
  cases wrote : waiting.write path (Text.toBytes content) with
  | mk fault? written =>
    have tried := Machine.tried_write wrote
    rw [wrote] at ran
    cases fault? with
    | none =>
      cases ran
      exact ⟨none, waiting, ⟨stirred, tried⟩, rfl⟩
    | some fault =>
      cases ran
      exact ⟨some fault, waiting, ⟨stirred, tried⟩, rfl⟩

theorem release_of_run {current : Option String} {before after : Machine}
    {result : Except DeviceError Unit}
    (ran : (handle.release kernel driver current).run before = (result, after)) :
    Release handle kernel driver current before result after := by
  cases current with
  | none =>
    cases ran
    exact .unneeded
  | some current =>
    simp only [release, Action.run_bind, Action.run_reach, Action.run_note] at ran
    cases wrote : (handle.writeStage kernel driver .unbind none (handle.unbindFile current)
        handle.address).run before with
    | mk answer written =>
      obtain ⟨fault?, waiting, attempted, answered⟩ := run_writeStage wrote
      rw [wrote] at ran
      subst answered
      cases fault? with
      | some fault =>
        cases ran
        exact .refused attempted
      | none =>
        cases ran
        exact .done attempted (Machine.stirred_disturb kernel .afterUnbind written) ⟨rfl, rfl, rfl⟩

theorem Lifted.amid_untouched {restricted : Bool} {fault? : Option Fault}
    {first before after last : Machine} (former : first.Untouched before)
    (lifted : Lifted handle restricted fault? before after) (latter : after.Untouched last) :
    Lifted handle restricted fault? first last := by
  cases lifted with
  | unneeded untouched => exact .unneeded ((former.trans untouched).trans latter)
  | tried tried => exact .tried (tried.amid_untouched former latter)

theorem Lifted.lifting {restricted : Bool} {fault? : Option Fault} {before after : Machine}
    (lifted : Lifted handle restricted fault? before after) :
    Lifting handle restricted before after := by
  cases lifted with
  | unneeded untouched => exact .unneeded untouched
  | tried tried => exact .tried tried

/-- The write of a stage counts nothing, and it warns of nothing, not even of its failure. -/
theorem quiet_writeStage (handle : Handle) (kernel : Interference) (driver : String)
    (stage : Stage) (previous : Option String) (path : HostPath) (content : String) :
    (handle.writeStage kernel driver stage previous path content).Quiet := by
  apply (Action.Quiet.note (by simp [Event.IsWarning, Event.severity])).bind
  intro _
  apply (Action.Quiet.reach kernel _).bind
  intro _
  apply (Action.Quiet.write path content).bind
  intro fault?
  cases fault? with
  | none => exact .pure _
  | some fault => exact .throw _

theorem quiet_release (handle : Handle) (kernel : Interference) (driver : String)
    (current : Option String) : (handle.release kernel driver current).Quiet := by
  cases current with
  | none => exact .pure _
  | some current =>
    apply (quiet_writeStage _ _ _ _ _ _ _).bind
    intro _
    apply (Action.Quiet.reach kernel _).bind
    intro _
    exact .note (by simp [Event.IsWarning, Event.severity])

theorem quiet_restriction (handle : Handle) (kernel : Interference) (driver : String)
    (current : Option String) (offered : Bool) :
    (if offered then handle.writeStage kernel driver .override current handle.overrideFile driver
      else pure () : Action Unit).Quiet := by
  cases offered with
  | false => exact .pure _
  | true => exact quiet_writeStage _ _ _ _ _ _ _

/-- Clearing the override does not fail, whatever becomes of the write; a fault is warned of. -/
theorem run_clearOverride (restricted : Bool) (before : Machine) :
    ∃ fault? after, (handle.clearOverride restricted).run before = (.ok (), after) ∧
      Lifted handle restricted fault? before after ∧
      before.Booked [] (uncleared handle fault?) after := by
  cases restricted with
  | false => exact ⟨none, before, rfl, .unneeded ⟨rfl, rfl, rfl⟩, before.booked_refl⟩
  | true =>
    simp only [clearOverride, if_true, Action.run_bind, Action.run_write]
    have quiet := before.booked_write handle.overrideFile (Text.toBytes "\n")
    cases wrote : before.write handle.overrideFile (Text.toBytes "\n") with
    | mk fault? written =>
      have tried := Machine.tried_write wrote
      rw [wrote] at quiet
      cases fault? with
      | none => exact ⟨none, written, rfl, .tried tried, quiet⟩
      | some fault =>
        refine ⟨some fault, _, rfl, ?_, quiet.trans (written.booked_warning rfl)⟩
        exact .tried (tried.amid_untouched ⟨rfl, rfl, rfl⟩ ⟨rfl, rfl, rfl⟩)

/-- A call that clears the override and then reports lifts the restriction and succeeds. -/
theorem run_conclude (restricted : Bool) (current : Option String) (before : Machine) :
    ∃ fault? after, (do
        handle.clearOverride restricted
        handle.concludeRebind driver current : Action Unit).run before = (.ok (), after) ∧
      Lifted handle restricted fault? before after ∧
      before.Booked (bindsCounted driver (.ok ())) (uncleared handle fault?) after := by
  obtain ⟨fault?, cleared, ran, lifted, booked⟩ := handle.run_clearOverride restricted before
  refine ⟨fault?, ((handle.concludeRebind driver current).run cleared).2, ?_,
    lifted.amid_untouched ⟨rfl, rfl, rfl⟩ ⟨rfl, rfl, rfl⟩, ?_⟩
  · rw [Action.run_bind, ran]
    rfl
  · have calm : ¬ (Event.bound handle.address driver current).IsWarning := by
      simp [Event.IsWarning, Event.severity]
    have concludes : cleared.Booked (bindsCounted driver (.ok ())) []
        ((handle.concludeRebind driver current).run cleared).2 :=
      (cleared.booked_count (.driverBinds driver) 1).trans (Machine.booked_note _ calm)
    have all := booked.trans concludes
    rw [List.append_nil] at all
    exact all

/-- A grant is a bind write and a lifting. Its result is settled before the lifting. -/
theorem lifted_of_grant {current : Option String} {restricted : Bool} {before after : Machine}
    {result : Except DeviceError Unit}
    (ran : (handle.grant kernel driver current restricted).run before = (result, after)) :
    ∃ bindFault? clearFault? waiting written,
      Attempted kernel .bind (handle.bindFile driver) handle.address bindFault? before waiting
        written ∧
      Lifted handle restricted clearFault? written after ∧
      result = verdict handle driver current bindFault? written.files ∧
      before.Booked (bindsCounted driver result) (uncleared handle clearFault?) after := by
  rw [grant, Action.run_bind, Action.run_observe] at ran
  cases wrote : (handle.writeStage kernel driver .bind current (handle.bindFile driver)
      handle.address).run before with
  | mk answer written =>
    obtain ⟨bindFault?, waiting, attempted, answered⟩ := run_writeStage wrote
    have quiet := (quiet_writeStage _ _ _ _ _ _ _).of_run wrote
    rw [wrote] at ran
    subst answered
    cases bindFault? with
    | none =>
      obtain ⟨clearFault?, ended, concluded, lifted, booked⟩ :=
        run_conclude restricted current written
      cases concluded.symm.trans ran
      exact ⟨none, clearFault?, waiting, written, attempted, lifted, rfl, quiet.trans booked⟩
    | some fault =>
      simp only [Action.run_bind, Action.run_get] at ran
      cases bound : handle.isBoundTo driver written.files with
      | true =>
        rw [if_pos bound, Action.run_bind, Action.run_note] at ran
        dsimp only at ran
        have calm : ¬ (Event.autoBound handle.address driver).IsWarning := by
          simp [Event.IsWarning, Event.severity]
        have noted := written.booked_note calm
        obtain ⟨clearFault?, ended, concluded, lifted, booked⟩ := run_conclude restricted current
          { written with journal := written.journal ++ [.autoBound handle.address driver] }
        cases concluded.symm.trans ran
        have looked : written.Untouched
            { written with journal := written.journal ++ [.autoBound handle.address driver] } :=
          ⟨rfl, rfl, rfl⟩
        refine ⟨some fault, clearFault?, waiting, written, attempted,
          lifted.amid_untouched looked ⟨rfl, rfl, rfl⟩, ?_, quiet.trans (noted.trans booked)⟩
        rw [verdict, if_pos bound]
      | false =>
        rw [if_neg (by simp [bound])] at ran
        obtain ⟨clearFault?, cleared, clears, lifted, booked⟩ :=
          handle.run_clearOverride restricted written
        rw [Action.run_bind, clears] at ran
        cases ran
        refine ⟨some fault, clearFault?, waiting, written, attempted, lifted, ?_,
          quiet.trans booked⟩
        rw [verdict, if_neg (by simp [bound])]

theorem grant_of_run {current : Option String} {restricted : Bool} {before after : Machine}
    {result : Except DeviceError Unit}
    (ran : (handle.grant kernel driver current restricted).run before = (result, after)) :
    Grant handle kernel driver current restricted before result after := by
  obtain ⟨bindFault?, clearFault?, waiting, written, attempted, lifted, rfl, _⟩ :=
    lifted_of_grant ran
  cases bindFault? with
  | none => exact .bound attempted lifted.lifting
  | some fault =>
    rw [verdict]
    cases bound : handle.isBoundTo driver written.files with
    | true => exact .boundByKernel attempted bound lifted.lifting
    | false => exact .refused attempted bound lifted.lifting

theorem restriction_of_run {current : Option String} {before after : Machine}
    {result : Except DeviceError Unit}
    (ran : (if before.files.holds handle.overrideFile then
        handle.writeStage kernel driver .override current handle.overrideFile driver
      else pure ()).run before = (result, after)) :
    ∃ restricted, Restriction handle kernel driver current restricted before result after ∧
      (result = .ok () → restricted = before.files.holds handle.overrideFile) := by
  cases offers : before.files.holds handle.overrideFile with
  | false =>
    rw [offers] at ran
    cases ran
    exact ⟨false, .unknown offers, fun _ => rfl⟩
  | true =>
    rw [offers, if_pos rfl] at ran
    obtain ⟨fault?, waiting, attempted, answered⟩ := run_writeStage ran
    subst answered
    cases fault? with
    | none => exact ⟨true, .done offers attempted, fun _ => rfl⟩
    | some fault => exact ⟨false, .refused offers attempted, by simp⟩

/-- The driver is acquired in two parts. -/
theorem run_acquire (current : Option String) (before : Machine) :
    (handle.acquire kernel driver current).run before =
      ((if before.files.holds handle.overrideFile then
          handle.writeStage kernel driver .override current handle.overrideFile driver
        else pure ()) >>= fun _ =>
          handle.grant kernel driver current (before.files.holds handle.overrideFile)).run
        before := by
  rw [acquire, Action.run_bind, Action.run_get]
  dsimp only
  split
  · rfl
  · rfl

/-- A rebind is made of the listed calls. -/
theorem passage_of_run {before after : Machine} {result : Except DeviceError Unit}
    (ran : (handle.rebind kernel driver).run before = (result, after)) :
    Passage handle kernel driver before result after := by
  rw [rebind] at ran
  cases named : isDriverName driver with
  | false =>
    rw [named] at ran
    cases ran
    exact .misnamed named
  | true =>
    simp only [named, Bool.not_true, Bool.false_eq_true, if_false, Action.run_bind,
      Action.run_ask] at ran
    cases bound : handle.boundDriver before.files with
    | error error =>
      rw [bound] at ran
      cases ran
      exact .unknown named bound
    | ok current =>
      simp only [bound] at ran
      by_cases same : current = some driver
      · rw [if_pos same] at ran
        subst same
        cases ran
        exact .unneeded named bound
      · rw [if_neg same, Action.run_bind] at ran
        cases released : (handle.release kernel driver current).run before with
        | mk answer between =>
          rw [released] at ran
          cases answer with
          | error error =>
            cases ran
            exact .unreleased named bound same released
          | ok _ =>
            simp only [run_acquire, Action.run_bind] at ran
            cases restrained : (if between.files.holds handle.overrideFile then
                handle.writeStage kernel driver .override current handle.overrideFile driver
              else pure ()).run between with
            | mk answer further =>
              rw [restrained] at ran
              cases answer with
              | error error =>
                cases ran
                exact .unrestricted named bound same released restrained
              | ok _ => exact .granted named bound same released restrained ran

/-- A rebind takes one of the listed ways. -/
theorem course_of_run {before after : Machine} {result : Except DeviceError Unit}
    (ran : (handle.rebind kernel driver).run before = (result, after)) :
    Course handle kernel driver before result after := by
  cases passage_of_run ran with
  | misnamed misnamed => exact .misnamed misnamed
  | unknown named unknown => exact .unknown named unknown
  | unneeded named bound => exact .unneeded named bound ⟨rfl, rfl, rfl⟩
  | unreleased named bound other releases =>
    exact .unreleased named bound other (release_of_run releases)
  | unrestricted named bound other releases restricts =>
    obtain ⟨restricted, restriction, _⟩ := restriction_of_run restricts
    exact .unrestricted named bound other (release_of_run releases) restriction
  | granted named bound other releases restricts grants =>
    obtain ⟨restricted, restriction, offered⟩ := restriction_of_run restricts
    rw [← offered rfl] at grants
    exact .granted named bound other (release_of_run releases) restriction (grant_of_run grants)

/-! ## Rebinds that nobody disturbs -/

/-- The names of the files that a rebind writes. -/
def rebindNames : List Name :=
  [unbindEntry, overrideEntry, bindEntry].map Text.toBytes

theorem plainName_of_mem_rebindNames : ∀ name ∈ rebindNames, PlainName name := by
  decide

/-- The files are what attempts under these names have made of them. -/
def Composed (before after : Machine) : Prop :=
  ∃ made, after.attempts = before.attempts ++ made ∧ Writes made before.files after.files ∧
    ∀ attempt ∈ made, ∃ base : HostPath, ∃ name ∈ rebindNames, attempt.path = base.join ⟨name⟩

section Composition

variable {before middle after : Machine}

theorem composed_of_untouched (untouched : before.Untouched after) : Composed before after := by
  refine ⟨[], by simp [untouched.attempts], ?_, by simp⟩
  rw [untouched.files]
  exact .done

theorem Composed.trans (former : Composed before middle) (latter : Composed middle after) :
    Composed before after := by
  obtain ⟨made, attempts, writes, named⟩ := former
  obtain ⟨further, moreAttempts, moreWrites, moreNamed⟩ := latter
  refine ⟨made ++ further, ?_, writes.append moreWrites, ?_⟩
  · rw [moreAttempts, attempts, List.append_assoc]
  · exact List.forall_mem_append.2 ⟨named, moreNamed⟩

theorem composed_of_tried {base : HostPath} {name : Name} (among : name ∈ rebindNames)
    {content : String} {fault? : Option Fault}
    (tried : before.Tried (base.join ⟨name⟩) content fault? after) : Composed before after := by
  refine ⟨_, tried.attempts, ?_, ?_⟩
  · cases fault? with
    | none => exact .made (tried.made rfl) .done
    | some fault =>
      rw [(tried.failed fault rfl).2]
      exact .failed .done
  · intro attempt here
    cases List.mem_singleton.1 here
    exact ⟨base, name, among, rfl⟩

theorem composed_of_stirred {point : Point} (stirred : before.Stirred .none point after) :
    Composed before after :=
  ⟨[], by simp [stirred.attempts], stirred.files ▸ .done, by simp⟩

theorem composed_of_attempted {stage : Stage} {base : HostPath} {name : Name}
    (among : name ∈ rebindNames) {content : String} {fault? : Option Fault} {waiting : Machine}
    (attempted : Attempted .none stage (base.join ⟨name⟩) content fault? before waiting after) :
    Composed before after :=
  (composed_of_stirred attempted.1).trans (composed_of_tried among attempted.2)

theorem composed_of_release {current : Option String} {result : Except DeviceError Unit}
    (release : Release handle .none driver current before result after) :
    Composed before after := by
  cases release with
  | unneeded => exact composed_of_untouched (Machine.untouched_refl _)
  | refused attempted => exact composed_of_attempted (by decide) attempted
  | done attempted stirred untouched =>
    exact ((composed_of_attempted (by decide) attempted).trans
      (composed_of_stirred stirred)).trans (composed_of_untouched untouched)

theorem composed_of_restriction {current : Option String} {restricted : Bool}
    {result : Except DeviceError Unit}
    (restriction : Restriction handle .none driver current restricted before result after) :
    Composed before after := by
  cases restriction with
  | unknown lacks => exact composed_of_untouched (Machine.untouched_refl _)
  | refused offers attempted => exact composed_of_attempted (by decide) attempted
  | done offers attempted => exact composed_of_attempted (by decide) attempted

theorem composed_of_lifting {restricted : Bool} (lifting : Lifting handle restricted before after) :
    Composed before after := by
  cases lifting with
  | unneeded untouched => exact composed_of_untouched untouched
  | tried tried => exact composed_of_tried (by decide) tried

theorem composed_of_grant {current : Option String} {restricted : Bool}
    {result : Except DeviceError Unit}
    (grant : Grant handle .none driver current restricted before result after) :
    Composed before after := by
  cases grant with
  | bound attempted lifting =>
    exact (composed_of_attempted (by decide) attempted).trans (composed_of_lifting lifting)
  | boundByKernel attempted bound lifting =>
    exact (composed_of_attempted (by decide) attempted).trans (composed_of_lifting lifting)
  | refused attempted unbound lifting =>
    exact (composed_of_attempted (by decide) attempted).trans (composed_of_lifting lifting)

/-- A rebind that nobody disturbs leaves what its attempts have made of the files. -/
theorem composed_of_course {result : Except DeviceError Unit}
    (course : Course handle .none driver before result after) : Composed before after := by
  cases course with
  | misnamed misnamed => exact composed_of_untouched (Machine.untouched_refl _)
  | unknown named unknown => exact composed_of_untouched (Machine.untouched_refl _)
  | unneeded named bound untouched => exact composed_of_untouched untouched
  | unreleased named bound other release => exact composed_of_release release
  | unrestricted named bound other release restriction =>
    exact (composed_of_release release).trans (composed_of_restriction restriction)
  | granted named bound other release restriction grant =>
    exact ((composed_of_release release).trans (composed_of_restriction restriction)).trans
      (composed_of_grant grant)

end Composition

end SingleRoot.Device.Handle
