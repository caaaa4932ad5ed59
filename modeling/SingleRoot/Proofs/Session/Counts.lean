/-
# The number of virtual functions over a whole run

A number of virtual functions is exchanged for another only by way of zero. On a host this is a statement
about everything that a session can be told, for the file with the number is an ordinary file, and other
functions may lead to it through links. `session_cases` sorts the commands: most of them only look, a
rebind writes files of other names, and a provisioning writes the file that it has read. Over a run,
`host_changes_through_zero` follows one function's number from command to command; what it keeps is the place
of the file. The same law for an inventory is about one field of a record.
-/
import SingleRoot.Proofs.Device.Provisioning
import SingleRoot.Proofs.Device.Report
import SingleRoot.Proofs.Inventory
import SingleRoot.Proofs.Session.Looking
import SingleRoot.Proofs.Session.Steps

namespace SingleRoot.Session

open Device Host

/-! ## Runs on a host -/

namespace HostStep

variable (step : HostStep)

/-- The command leaves the writing to the session. -/
def EditsNothing : Prop :=
  ∀ edits, step.command ≠ .edit edits

/-- None of the files that a rebind writes is a link. -/
def RebindsNoLinks : Prop :=
  ∀ name driver storeAs, step.command = .ask name (.rebind driver) storeAs →
    ∀ attempt ∈ step.after.machine.attempts.drop step.before.machine.attempts.length,
      ∀ target, step.before.machine.files.findLink attempt.path ≠ .ok (.link target)

/-- If the number of virtual functions of a function is not what it was, then it was asked for, and it
has come from zero or gone to zero. -/
def ChangesThroughZero (handle : Handle) : Prop :=
  ∀ former count, handle.configured step.before.machine.files = .ok former →
    handle.configured step.after.machine.files = .ok count → former ≠ count →
      (∃ name storeAs, step.command = .ask name (.provision count) storeAs) ∧
        step.answer = .reply (.ofFunction .done) ∧ (former = 0 ∨ count = 0)

end HostStep

/-- What a command can do to the files. -/
theorem session_cases (step : HostStep) (editsNothing : step.EditsNothing) :
    step.after.machine.files = step.before.machine.files ∨
    (∃ name driver storeAs, step.command = .ask name (.rebind driver) storeAs ∧
      Handle.Composed step.before.machine step.after.machine) ∨
    ∃ name count storeAs handle result, step.command = .ask name (.provision count) storeAs ∧
      Handle.Provisioning handle count step.before.machine result step.after.machine ∧
      (result = .ok () → step.answer = .reply (.ofFunction .done)) := by
  obtain ⟨layout, command, session⟩ := step
  unfold HostStep.after HostStep.answer
  dsimp only
  cases command with
  | edit edits => exact absurd rfl (editsNothing edits)
  | openHandle role address name =>
    left
    have untouched := leavesUntouched_openAs layout role address session.machine
    rw [HostSession.step]
    cases opened : (HostSession.openAs layout role address).run session.machine with
    | mk result after =>
      rw [opened] at untouched
      cases result with
      | ok handle => exact untouched.files
      | error error => exact untouched.files
  | loadResourcePool path =>
    left
    rw [HostSession.step, HostSession.machine_perform]
    exact ((leavesUntouched_loadFile _ path).map _ session.machine).files
  | loadEndpoint path =>
    left
    rw [HostSession.step, HostSession.machine_perform]
    exact ((leavesUntouched_loadFile _ path).map _ session.machine).files
  | ask name request storeAs =>
    cases known : session.handles.find? name with
    | none => exact .inl (by rw [HostSession.step_ask_unknown known])
    | some entry =>
      obtain ⟨role, handle⟩ := entry
      cases offered : role.offers request with
      | false => exact .inl (by rw [HostSession.step_ask_unoffered known offered])
      | true =>
        cases request with
        | rebind driver =>
          refine .inr (.inl ⟨name, driver, storeAs, rfl, ?_⟩)
          rw [HostSession.machine_step_ask known offered, HostSession.respond, run_effect]
          exact Handle.composed_of_course (Handle.course_of_run rfl)
        | provision count =>
          refine .inr (.inr ⟨name, count, storeAs, handle,
            ((handle.provision count).run session.machine).1, rfl, ?_, fun succeeded => ?_⟩)
          · rw [HostSession.machine_step_ask known offered, HostSession.respond, run_effect]
            exact Handle.provisioning_of_run rfl
          · rw [HostSession.step_ask known offered, HostSession.respond, run_effect, succeeded]
            rfl
        | _ =>
          left
          rw [HostSession.machine_step_ask known offered]
          exact (leavesUntouched_respond .none handle rfl session.machine).files

/-! ## The file with the number -/

/-- The name of the file with the number of virtual functions. -/
def configuredName : Name := Text.toBytes configuredEntry

/-- A rebind that writes no links leaves every file with this name as it was. -/
theorem find_of_composed {before after : Machine} (composed : Handle.Composed before after)
    (noLinks : ∀ attempt ∈ after.attempts.drop before.attempts.length,
      ∀ target, before.files.findLink attempt.path ≠ .ok (.link target))
    {path : HostPath} {place : Location} {permissions : Permissions} {content : Bytes}
    (found : before.files.find path =
      .ok (configuredName :: place, .file permissions content)) :
    after.files.find path = .ok (configuredName :: place, .file permissions content) := by
  obtain ⟨made, attempts, writes, named⟩ := composed
  rw [attempts, List.drop_left] at noLinks
  -- that the other files are no links has to be carried along, as they are written one by one
  have kept : after.files.find path = .ok (configuredName :: place, .file permissions content) ∧
      ∀ attempt ∈ made, ∀ target, after.files.findLink attempt.path ≠ .ok (.link target) := by
    refine writes.invariant (P := fun files =>
      files.find path = .ok (configuredName :: place, .file permissions content) ∧
        ∀ attempt ∈ made, ∀ target, files.findLink attempt.path ≠ .ok (.link target))
      ?_ ⟨found, noLinks⟩
    rintro attempt among files next ⟨foundHere, noLinksHere⟩ wrote
    obtain ⟨landing, ends, change⟩ := FileSystem.fileWritten_of_write wrote
    have noLink := noLinksHere attempt among
    obtain ⟨base, name, listed, path_⟩ := named attempt among
    rw [path_] at ends noLink
    obtain ⟨parent, written⟩ := FileSystem.location_of_produce
      (Handle.plainName_of_mem_rebindNames name listed) ends noLink
    have other : configuredName :: place ≠ landing.location := by
      rw [written]
      intro same
      rw [← (List.cons.inj same).1] at listed
      revert listed
      decide
    refine ⟨?_, fun further amongToo target linked => ?_⟩
    · rw [change.find_file foundHere, if_neg other]
    · obtain ⟨otherBase, otherName, otherListed, otherPath⟩ := named further amongToo
      rw [otherPath, change.findLink_link_iff
        (Handle.plainName_of_mem_rebindNames otherName otherListed), ← otherPath] at linked
      exact noLinksHere further amongToo target linked
  exact kept.1

section HostRuns

variable {handle : Handle} {place : Location}

/-- The file with the number is at its place, and is a file. -/
def CountAt (handle : Handle) (place : Location) (files : FileSystem) : Prop :=
  ∃ permissions content, files.find (handle.entry configuredEntry) =
    .ok (configuredName :: place, .file permissions content)

theorem count_eq_of_find {files : FileSystem} {location : Location} {permissions : Permissions}
    {content : Bytes} {count : UInt32}
    (found : files.find (handle.entry configuredEntry) = .ok (location, .file permissions content))
    (read : handle.configured files = .ok count) : Text.count? content = some count := by
  obtain ⟨_, _, _, foundToo, _, counts⟩ := Handle.readCount_eq_ok_iff.1 read
  cases found.symm.trans foundToo
  exact counts

/-- Every command keeps the file at its place and changes the number as it should. -/
theorem step_changes_through_zero (step : HostStep)
    (stands : CountAt handle place step.before.machine.files) (editsNothing : step.EditsNothing)
    (rebindsNoLinks : step.RebindsNoLinks) :
    CountAt handle place step.after.machine.files ∧ step.ChangesThroughZero handle := by
  obtain ⟨permissions, content, found⟩ := stands
  -- where the file is found with the same content, it reads as the same number
  have unchanged (foundAfter : step.after.machine.files.find (handle.entry configuredEntry) =
      .ok (configuredName :: place, .file permissions content)) :
      step.ChangesThroughZero handle := by
    intro former count read readAfter differ
    have counts := count_eq_of_find found read
    have countsAfter := count_eq_of_find foundAfter readAfter
    cases counts.symm.trans countsAfter
    exact absurd rfl differ
  obtain same | ⟨name, driver, storeAs, asked, composed⟩ |
    ⟨name, count, storeAs, other, result, asked, provisioning, answered⟩ :=
    session_cases step editsNothing
  · have foundAfter := found
    rw [← same] at foundAfter
    exact ⟨⟨permissions, content, foundAfter⟩, unchanged foundAfter⟩
  · have foundAfter := find_of_composed composed (rebindsNoLinks name driver storeAs asked) found
    exact ⟨⟨permissions, content, foundAfter⟩, unchanged foundAfter⟩
  · obtain foundAfter | ⟨succeeded, ⟨configured, held, throughZero⟩, foundAfter⟩ :=
      Handle.find_of_provisioning provisioning found
    · exact ⟨⟨permissions, content, foundAfter⟩, unchanged foundAfter⟩
    · refine ⟨⟨permissions, _, foundAfter⟩, ?_⟩
      intro former reached read readAfter _
      have counts := count_eq_of_find found read
      cases counts.symm.trans held
      have countsAfter := count_eq_of_find foundAfter readAfter
      rw [Text.count?_decimal] at countsAfter
      cases countsAfter
      exact ⟨⟨name, storeAs, asked⟩, answered succeeded, throughZero⟩

theorem host_changes_through_zero (session : HostSession) (commands : List (Layout × HostCommand))
    (stands : CountAt handle place session.machine.files)
    (expected : ∀ step ∈ hostSteps session commands, step.EditsNothing ∧ step.RebindsNoLinks) :
    ∀ step ∈ hostSteps session commands, step.ChangesThroughZero handle := by
  induction commands generalizing session with
  | nil =>
    intro step among
    cases among
  | cons told rest ih =>
    obtain ⟨layout, command⟩ := told
    rw [hostSteps] at expected ⊢
    obtain ⟨⟨editsNothing, rebindsNoLinks⟩, later⟩ := List.forall_mem_cons.1 expected
    obtain ⟨standsAfter, changes⟩ := step_changes_through_zero ⟨layout, command, session⟩ stands
      editsNothing rebindsNoLinks
    exact List.forall_mem_cons.2 ⟨changes, ih _ standsAfter later⟩

end HostRuns

/-! ## Runs on an inventory -/

namespace InventoryStep

variable (step : InventoryStep)

/-- The command registers no device. -/
def RegistersNothing : Prop :=
  ∀ address record, step.command ≠ .register address record

/-- If the number of virtual functions of a device is not what it was, then it was asked for, and it has
come from zero or gone to zero. -/
def ChangesThroughZero (address : String) : Prop :=
  ∀ former count, step.before.inventory.configured address = .ok former →
    step.after.inventory.configured address = .ok count → former ≠ count →
      (∃ name storeAs, step.command = .ask name (.provision count) storeAs) ∧
        step.answer = .reply .done ∧ (former = 0 ∨ count = 0)

end InventoryStep

/-- A request that is not a rebind or a provisioning gives the inventory back. -/
theorem respond_of_looks {inventory next : Inventory} {address : String} {request : Request}
    {reply : Reply} (looks : request.looks = true)
    (answered : InventorySession.respond inventory address request = .ok (reply, next)) :
    next = inventory := by
  have mapped {α : Type} {answer : Except DeviceError α} {f : α → Reply}
      (answered : (answer.bind fun value => .ok (f value, inventory)) = .ok (reply, next)) :
      next = inventory := by
    cases answer with
    | error error => cases answered
    | ok value =>
      cases answered
      rfl
  cases request with
  | rebind driver => cases looks
  | provision count => cases looks
  | address =>
    cases answered
    rfl
  | directory =>
    cases answered
    rfl
  | netInterface => exact mapped answered
  | iommuGroup => exact mapped answered
  | driver => exact mapped answered
  | capacity => exact mapped answered
  | configured => exact mapped answered
  | virtualFunctions => exact mapped answered

/-- What a command can do to an inventory. -/
theorem inventory_cases (step : InventoryStep) (registersNothing : step.RegistersNothing) :
    step.after.inventory = step.before.inventory ∨
    (∃ address driver, step.before.inventory.rebind address driver = .ok step.after.inventory) ∨
    ∃ name count storeAs address, step.command = .ask name (.provision count) storeAs ∧
      step.before.inventory.provision address count = .ok step.after.inventory ∧
      step.answer = .reply .done := by
  obtain ⟨command, session⟩ := step
  unfold InventoryStep.after InventoryStep.answer
  dsimp only
  cases command with
  | register address record => exact absurd rfl (registersNothing address record)
  | openHandle role address name =>
    left
    rw [InventorySession.step]
    split <;> rfl
  | ask name request storeAs =>
    rw [InventorySession.step]
    cases session.handles.find? name with
    | none => exact .inl rfl
    | some entry =>
      obtain ⟨role, address⟩ := entry
      dsimp only
      split
      · exact .inl rfl
      · cases answered : InventorySession.respond session.inventory address request with
        | error error => exact .inl rfl
        | ok given =>
          obtain ⟨reply, next⟩ := given
          dsimp only
          cases request with
          | rebind driver =>
            cases bound : session.inventory.rebind address driver with
            | error error => simp [InventorySession.respond, bound, bind, Except.bind] at answered
            | ok changed =>
              simp only [InventorySession.respond, bound, bind, Except.bind, pure, Except.pure,
                Except.ok.injEq, Prod.mk.injEq] at answered
              obtain ⟨rfl, rfl⟩ := answered
              exact .inr (.inl ⟨address, driver, bound⟩)
          | provision count =>
            cases provisioned : session.inventory.provision address count with
            | error error =>
              simp [InventorySession.respond, provisioned, bind, Except.bind] at answered
            | ok changed =>
              simp only [InventorySession.respond, provisioned, bind, Except.bind, pure,
                Except.pure, Except.ok.injEq, Prod.mk.injEq] at answered
              obtain ⟨rfl, rfl⟩ := answered
              exact .inr (.inr ⟨name, count, storeAs, address, rfl, provisioned, rfl⟩)
          | _ => exact .inl (respond_of_looks rfl answered)

theorem inventory_changes_through_zero (step : InventoryStep) (address : String)
    (registersNothing : step.RegistersNothing) : step.ChangesThroughZero address := by
  intro former count read readAfter differ
  have unchanged (same : step.after.inventory.configured address =
      step.before.inventory.configured address) : False := by
    rw [same, read] at readAfter
    exact differ (Except.ok.inj readAfter)
  obtain same | ⟨other, driver, bound⟩ |
    ⟨name, requested, storeAs, other, asked, provisioned, answered⟩ :=
    inventory_cases step registersNothing
  · exact (unchanged (by rw [same])).elim
  · exact (unchanged (Inventory.configured_of_rebind bound)).elim
  · obtain ⟨record, held, throughZero, next⟩ := Inventory.configured_of_provision provisioned
    by_cases here : address = other
    · subst here
      obtain ⟨_, heldToo, rfl⟩ := Inventory.configured_eq_ok_iff.1 read
      cases held.symm.trans heldToo
      rw [next, Inventory.configured_eq_ok_iff] at readAfter
      simp only [Inventory.record?_register, if_true, Option.some.injEq, exists_eq_left'] at readAfter
      subst readAfter
      exact ⟨⟨name, storeAs, asked⟩, answered, throughZero.resolve_left differ⟩
    · refine (unchanged ?_).elim
      simp [next, Inventory.configured, Inventory.find, here]

/-! ## The law of the counts -/

/-- A number of virtual functions is exchanged for another only by way of zero, on a host and in an
inventory, and a reset opens that way from every number. -/
theorem counts_change_through_zero :
    (∀ (handle : Handle) (session : HostSession) (commands : List (Layout × HostCommand))
        (permissions : Permissions) (content : Bytes),
      session.machine.files.findLink (handle.entry configuredEntry) =
        .ok (.file permissions content) →
      (∀ step ∈ hostSteps session commands, step.EditsNothing ∧ step.RebindsNoLinks) →
      ∀ step ∈ hostSteps session commands, step.ChangesThroughZero handle) ∧
    (∀ (handle : Handle) (machine : Machine) (address : String) (configured requested : UInt32),
      ((handle.provision 0).run machine).1 ≠
        .error (.alreadyProvisioned address configured requested)) ∧
    (∀ (handle : Handle) (machine : Machine) (location : Location) (permissions : Permissions)
        (held count : UInt32),
      handle.CountStands machine.files location permissions held →
      ∃ reset after, (handle.provision 0).run machine = (.ok (), reset) ∧
        (handle.provision count).run reset = (.ok (), after) ∧
        handle.configured after.files = .ok count) ∧
    (∀ (session : InventorySession) (commands : List InventoryCommand) (address : String),
      (∀ step ∈ inventorySteps session commands, step.RegistersNothing) →
      ∀ step ∈ inventorySteps session commands, step.ChangesThroughZero address) ∧
    (∀ (inventory : Inventory) (address named : String) (configured requested : UInt32),
      inventory.provision address 0 ≠ .error (.alreadyProvisioned named configured requested)) ∧
    ∀ (inventory : Inventory) (address : String) (record : Inventory.Record) (count : UInt32),
      inventory.record? address = some record →
      ∃ reset after, inventory.provision address 0 = .ok reset ∧
        reset.provision address count = .ok after ∧ after.configured address = .ok count := by
  refine ⟨?_, Handle.reset_not_refused, ?_, ?_, Inventory.reset_not_refused, ?_⟩
  · intro handle session commands permissions content seen expected
    obtain ⟨place, found⟩ := FileSystem.find_of_findLink (by decide) seen (by simp)
    exact host_changes_through_zero session commands ⟨permissions, content, found⟩ expected
  · intro handle machine location permissions held count stands
    obtain ⟨reset, resets, empty⟩ := stands.provision (.inr rfl)
    obtain ⟨after, provisions, filled⟩ := empty.provision (.inl rfl)
    exact ⟨reset, after, resets, provisions, filled.configured⟩
  · intro session commands address expected step among
    exact inventory_changes_through_zero step address (expected step among)
  · intro inventory address record count held
    have resets := Inventory.provision_through_zero held (.inr rfl)
    have registered : (inventory.register address { record with configured := 0 }).record? address =
        some { record with configured := 0 } := by
      simp
    have provisions : (inventory.register address
        { record with configured := 0 }).provision address count = .ok _ :=
      Inventory.provision_through_zero registered (.inl rfl)
    refine ⟨_, _, resets, provisions, ?_⟩
    rw [Inventory.configured_eq_ok_iff]
    exact ⟨{ record with configured := count }, by simp, rfl⟩

namespace Sample

open Device.Sample

/-- A function is opened. -/
def opening : HostStep := ⟨layout, .openHandle .configurable address "pf", .start files⟩

/-- It is given virtual functions. -/
def provisioning : HostStep := ⟨layout, .ask "pf" (.provision 4) .none, opening.after⟩

/-- It is to be bound to another driver, which nobody helps with. -/
def rebinding : HostStep := ⟨layout, .ask "pf" (.rebind "vfio-pci") .none, provisioning.after⟩

/-- The three commands. -/
def commands : List (Layout × HostCommand) :=
  [opening, provisioning, rebinding].map fun step => (step.layout, step.command)

/-- An inventory with a device that has two virtual functions. -/
def inventory : Inventory :=
  Inventory.empty.register address { Inventory.Record.bare with configured := 2 }

end Sample

open Device.Sample Sample in
theorem counts_change_through_zero_sample :
    (∀ step ∈ hostSteps (.start files) commands, step.EditsNothing ∧ step.RebindsNoLinks) ∧
      (∀ step ∈ hostSteps (.start files) commands, step.ChangesThroughZero ⟨address, layout⟩) ∧
      (∃ reset after, ((⟨address, layout⟩ : Handle).provision 0).run (.start files) = (.ok (), reset) ∧
        ((⟨address, layout⟩ : Handle).provision 4).run reset = (.ok (), after) ∧
        (⟨address, layout⟩ : Handle).configured after.files = .ok 4) ∧
      (∀ step ∈ inventorySteps (.start inventory) [.ask "pf" (.provision 0) .none],
        step.ChangesThroughZero address) ∧
      ∃ reset after, inventory.provision address 0 = .ok reset ∧
        reset.provision address 4 = .ok after ∧ after.configured address = .ok 4 := by
  obtain ⟨host, _, resets, stub, _, stubResets⟩ := counts_change_through_zero
  have stands : files.findLink ((⟨address, layout⟩ : Handle).entry configuredEntry) =
      .ok (.file .newFile (Text.toBytes "0\n")) := by
    decide +kernel
  have free : ∀ attempt ∈
      rebinding.after.machine.attempts.drop rebinding.before.machine.attempts.length,
      rebinding.before.machine.files.namesLink attempt.path = false := by
    decide +kernel
  have noLinks : rebinding.RebindsNoLinks := by
    intro _ _ _ _ attempt among target
    exact FileSystem.findLink_ne_link (free attempt among) target
  have expected : ∀ step ∈ hostSteps (.start files) commands,
      step.EditsNothing ∧ step.RebindsNoLinks := by
    refine List.forall_mem_cons.2 ⟨⟨?_, ?_⟩, List.forall_mem_cons.2 ⟨⟨?_, ?_⟩,
      List.forall_mem_cons.2 ⟨⟨?_, noLinks⟩, List.forall_mem_nil _⟩⟩⟩
    · intro _ same
      cases same
    · intro _ _ _ asked
      cases asked
    · intro _ same
      cases same
    · intro _ _ _ asked
      cases asked
    · intro _ same
      cases same
  have counts : (⟨address, layout⟩ : Handle).CountStands files
      (place ["devices", address, "sriov_numvfs"]) .newFile 0 :=
    ⟨⟨Text.toBytes "0\n", by decide +kernel, by decide +kernel⟩, by decide, by decide⟩
  refine ⟨expected, host _ _ _ _ _ stands expected, resets _ (.start files) _ _ _ 4 counts,
    stub _ _ address ?_, stubResets inventory address _ 4 rfl⟩
  refine List.forall_mem_cons.2 ⟨?_, List.forall_mem_nil _⟩
  intro _ _ same
  cases same

end SingleRoot.Session
