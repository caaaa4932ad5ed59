/-
# What is done to one device of an inventory

A session on an inventory holds any number of handles, several of them on one device, and some that an
enumeration has handed out without checking their addresses. All of them work on one table. Yet whatever
is done to a device, by whichever handle, could as well have been done to it alone: `Deed.perform` does it
to an inventory by the address only, and a run comes to the same record and the same answers as the replay
of the deeds on that one address. Only an enumeration looks further, and it sees of the other devices no
more than whether they are registered.

What is carried along a run is the record of the one address, which is the same in both inventories. That
no handle is left behind without a record is an invariant of its own: a record is never taken away.
-/
import SingleRoot.Proofs.Session.Counts
import SingleRoot.Proofs.Session.Simulation

namespace SingleRoot.Session

open Device

/-! ## Deeds -/

/-- What can be done to one device. -/
inductive Deed where
  | register (record : Inventory.Record)
  | locate
  | ask (request : Request)
  deriving DecidableEq

namespace Deed

/-- Do it to the device of an address. An inventory is unchanged by what fails. -/
def perform (inventory : Inventory) (address : String) : Deed → Answer Reply × Inventory
  | register record => (.reply .done, inventory.register address record)
  | locate =>
    match inventory.locate address with
    | .ok _ => (.reply (.text address), inventory)
    | .error error => (.failure error, inventory)
  | ask request =>
    match InventorySession.respond inventory address request with
    | .ok (reply, next) => (.reply reply, next)
    | .error error => (.failure error, inventory)

/-- An enumeration is the only deed that looks at other devices. -/
def looksAround (deed : Deed) : Prop :=
  deed = .ask .virtualFunctions

end Deed

/-- A deed with the inventory that it is done to. -/
structure DeedStep where
  address : String
  deed : Deed
  before : Inventory

namespace DeedStep

variable (step : DeedStep)

def answer : Answer Reply :=
  (step.deed.perform step.before step.address).1

def after : Inventory :=
  (step.deed.perform step.before step.address).2

end DeedStep

/-- The steps of a replay of deeds on one address. -/
def replay (address : String) (inventory : Inventory) : List Deed → List DeedStep
  | [] => []
  | deed :: rest =>
    let step : DeedStep := ⟨address, deed, inventory⟩
    step :: replay address step.after rest

/-- The inventory that a replay of deeds on one address leaves. -/
def replayed (address : String) (inventory : Inventory) (deeds : List Deed) : Inventory :=
  deeds.foldl (fun inventory deed => (deed.perform inventory address).2) inventory

namespace InventoryStep

variable (step : InventoryStep)

/-- What a command does, and to the device of which address. A command to no handle, or to one that does
not offer the request, does nothing. -/
def deed? : Option (String × Deed) :=
  match step.command with
  | .register address record => some (address, .register record)
  | .openHandle _ address _ => some (address, .locate)
  | .ask name request _ =>
    (step.before.handles.find? name).bind fun (role, address) =>
      if role.offers request then some (address, .ask request) else none

/-- What a command does to the device of an address. -/
def deedOn? (address : String) : Option Deed :=
  step.deed?.bind fun (other, deed) => if other = address then some deed else none

end InventoryStep

/-- The session that a run leaves. -/
def InventorySession.run (session : InventorySession) (commands : List InventoryCommand) :
    InventorySession :=
  commands.foldl (fun session command => (session.step command).2) session

/-! ## A deed and the other devices -/

section Deeds

variable {inventory first second next : Inventory} {address other : String} {deed : Deed}
  {request : Request} {reply : Reply}

/-- A request that succeeds leaves the inventory, or sets the record of a registered device. -/
theorem respond_cases (answered : InventorySession.respond inventory address request =
    .ok (reply, next)) :
    next = inventory ∨ ∃ record, next = inventory.register address record := by
  cases request with
  | rebind driver =>
    right
    simp only [InventorySession.respond, Inventory.rebind, Inventory.find] at answered
    cases held : inventory.record? address with
    | none => simp [held, bind, Except.bind] at answered
    | some record =>
      simp only [held, bind, Except.bind, pure, Except.pure, Except.ok.injEq, Prod.mk.injEq]
        at answered
      exact ⟨_, answered.2.symm⟩
  | provision count =>
    right
    cases provisioned : inventory.provision address count with
    | error error => simp [InventorySession.respond, provisioned, bind, Except.bind] at answered
    | ok changed =>
      simp only [InventorySession.respond, provisioned, bind, Except.bind, pure, Except.pure,
        Except.ok.injEq, Prod.mk.injEq] at answered
      obtain ⟨record, _, _, register⟩ := Inventory.configured_of_provision provisioned
      exact ⟨_, answered.2.symm.trans register⟩
  | _ => exact .inl (respond_of_looks rfl answered)

/-- A deed leaves the inventory, or sets the record of its own device. -/
theorem perform_cases (inventory : Inventory) (address : String) (deed : Deed) :
    (deed.perform inventory address).2 = inventory ∨
      ∃ record, (deed.perform inventory address).2 = inventory.register address record := by
  cases deed with
  | register record => exact .inr ⟨record, rfl⟩
  | locate =>
    left
    rw [Deed.perform]
    split <;> rfl
  | ask request =>
    rw [Deed.perform]
    split
    · rename_i answered
      exact respond_cases answered
    · exact .inl rfl

/-- A deed on one device changes no other. -/
theorem record?_perform_of_ne (different : other ≠ address) :
    (deed.perform inventory address).2.record? other = inventory.record? other := by
  obtain same | ⟨record, registered⟩ := perform_cases inventory address deed
  · rw [same]
  · rw [registered, Inventory.record?_register, if_neg different]

/-- No deed takes a record away. -/
theorem isSome_record?_perform (held : (inventory.record? other).isSome) :
    ((deed.perform inventory address).2.record? other).isSome := by
  obtain same | ⟨record, registered⟩ := perform_cases inventory address deed
  · rw [same]
    exact held
  · rw [registered]
    exact Inventory.isSome_record?_register held

/-! ## What a deed depends on -/

/-- What a request answers, with the record that it leaves on its device. -/
def outcomeAt (inventory : Inventory) (address : String) (request : Request) :
    Except DeviceError (Reply × Option Inventory.Record) :=
  (InventorySession.respond inventory address request).map fun (reply, next) =>
    (reply, next.record? address)

/-- A request other than an enumeration depends on the record of its device only. -/
theorem outcomeAt_congr (same : first.record? address = second.record? address)
    (near : request ≠ .virtualFunctions) :
    outcomeAt first address request = outcomeAt second address request := by
  cases held : second.record? address with
  | none =>
    have heldFirst := same.trans held
    cases request with
    | virtualFunctions => exact absurd rfl near
    | address => simp [outcomeAt, InventorySession.respond, Except.map, pure, Except.pure, same]
    | directory => simp [outcomeAt, InventorySession.respond, Except.map, pure, Except.pure, same]
    | _ =>
      simp [outcomeAt, InventorySession.respond, Inventory.netInterface, Inventory.iommuGroup,
        Inventory.boundDriver, Inventory.capacity, Inventory.configured, Inventory.rebind,
        Inventory.provision, Inventory.find, held, heldFirst, bind, Except.bind, Except.map]
  | some record =>
    have heldFirst := same.trans held
    cases request with
    | virtualFunctions => exact absurd rfl near
    | netInterface =>
      simp only [outcomeAt, InventorySession.respond, Inventory.netInterface, Inventory.find, held,
        heldFirst, bind, Except.bind]
      cases record.netInterface <;>
        simp [Except.map, pure, Except.pure, same, throw, throwThe, MonadExceptOf.throw]
    | iommuGroup =>
      simp only [outcomeAt, InventorySession.respond, Inventory.iommuGroup, Inventory.find, held,
        heldFirst, bind, Except.bind]
      cases record.iommuGroup <;>
        simp [Except.map, pure, Except.pure, same, throw, throwThe, MonadExceptOf.throw]
    | provision count =>
      simp only [outcomeAt, InventorySession.respond, Inventory.provision_eq held,
        Inventory.provision_eq heldFirst]
      split <;> simp [bind, Except.bind, Except.map, pure, Except.pure]
    | _ =>
      simp [outcomeAt, InventorySession.respond, Inventory.boundDriver, Inventory.capacity,
        Inventory.configured, Inventory.rebind, Inventory.find, held, heldFirst, bind, Except.bind,
        Except.map, pure, Except.pure]

/-- A deed leaves on its device what it would leave there alone, and unless it looks around it is answered
as if it were alone. -/
theorem perform_congr (deed : Deed) (same : first.record? address = second.record? address) :
    (deed.perform first address).2.record? address =
        (deed.perform second address).2.record? address ∧
      (¬ deed.looksAround →
        (deed.perform first address).1 = (deed.perform second address).1) := by
  cases deed with
  | register record => simp [Deed.perform]
  | locate =>
    have locates : first.locate address = second.locate address := by
      rw [Inventory.locate, Inventory.locate, same]
    simp only [Deed.perform, locates]
    split
    · exact ⟨same, fun _ => rfl⟩
    · exact ⟨same, fun _ => rfl⟩
  | ask request =>
    by_cases around : request = .virtualFunctions
    · subst around
      have stays (inventory : Inventory) :
          (Deed.perform inventory address (.ask .virtualFunctions)).2 = inventory := by
        rw [Deed.perform]
        split
        · rename_i answered
          exact respond_of_looks rfl answered
        · rfl
      rw [stays, stays]
      exact ⟨same, fun near => absurd rfl near⟩
    · have outcomes := outcomeAt_congr same around
      rw [outcomeAt, outcomeAt] at outcomes
      simp only [Deed.perform]
      cases here : InventorySession.respond first address request with
      | error error =>
        rw [here] at outcomes
        cases there : InventorySession.respond second address request with
        | error other =>
          rw [there] at outcomes
          cases outcomes
          exact ⟨same, fun _ => rfl⟩
        | ok answered =>
          rw [there] at outcomes
          cases outcomes
      | ok answered =>
        rw [here] at outcomes
        cases there : InventorySession.respond second address request with
        | error other =>
          rw [there] at outcomes
          cases outcomes
        | ok other =>
          rw [there] at outcomes
          obtain ⟨reply, next⟩ := answered
          obtain ⟨otherReply, otherNext⟩ := other
          simp only [Except.map, Except.ok.injEq, Prod.mk.injEq] at outcomes
          exact ⟨outcomes.2, fun _ => congrArg Answer.reply outcomes.1⟩

/-- An enumeration depends on the record of its device and on which addresses are registered. -/
theorem enumeration_congr (same : first.record? address = second.record? address)
    (registered : ∀ other, (first.record? other).isSome = (second.record? other).isSome) :
    (Deed.perform first address (.ask .virtualFunctions)).1 =
      (Deed.perform second address (.ask .virtualFunctions)).1 := by
  have finds : first.find address = second.find address := by
    rw [Inventory.find, Inventory.find, same]
  have sees : (fun other => (first.record? other).isSome) =
      fun other => (second.record? other).isSome := funext registered
  simp only [Deed.perform, InventorySession.respond, Inventory.virtualFunctions, finds, sees]
  cases second.find address <;> rfl

end Deeds

/-! ## Commands as deeds -/

section Commands

variable {step : InventoryStep} {address : String} {deed : Deed}

/-- A command answers and leaves what its deed does. -/
theorem performs_of_deed? (does : step.deed? = some (address, deed)) :
    step.answer = (deed.perform step.before.inventory address).1 ∧
      step.after.inventory = (deed.perform step.before.inventory address).2 := by
  obtain ⟨command, session⟩ := step
  unfold InventoryStep.answer InventoryStep.after
  cases command with
  | register other record =>
    cases does
    exact ⟨rfl, rfl⟩
  | openHandle role other name =>
    cases does
    simp only [InventorySession.step, Deed.perform]
    cases located : session.inventory.locate address with
    | error error => exact ⟨rfl, rfl⟩
    | ok found => exact ⟨rfl, rfl⟩
  | ask name request storeAs =>
    simp only [InventoryStep.deed?] at does
    cases known : session.handles.find? name with
    | none => simp [known] at does
    | some entry =>
      obtain ⟨role, other⟩ := entry
      cases offered : role.offers request with
      | false => simp [known, offered] at does
      | true =>
        simp only [known, offered, Option.bind_some, if_true, Option.some.injEq,
          Prod.mk.injEq] at does
        obtain ⟨rfl, rfl⟩ := does
        simp only [InventorySession.step, known, offered, Deed.perform]
        cases InventorySession.respond session.inventory other request with
        | error error => exact ⟨rfl, rfl⟩
        | ok answered => exact ⟨rfl, rfl⟩

/-- A command that does nothing leaves the inventory. -/
theorem idle_of_deed? (idle : step.deed? = none) :
    step.after.inventory = step.before.inventory := by
  obtain ⟨command, session⟩ := step
  unfold InventoryStep.after
  cases command with
  | register other record => cases idle
  | openHandle role other name => cases idle
  | ask name request storeAs =>
    simp only [InventoryStep.deed?] at idle
    cases known : session.handles.find? name with
    | none => simp [InventorySession.step, known]
    | some entry =>
      obtain ⟨role, other⟩ := entry
      cases offered : role.offers request with
      | false => simp [InventorySession.step, known, offered]
      | true => simp [known, offered] at idle

theorem deedOn?_eq_some_iff :
    step.deedOn? address = some deed ↔ step.deed? = some (address, deed) := by
  rw [InventoryStep.deedOn?]
  cases step.deed? with
  | none => simp
  | some done =>
    obtain ⟨other, deed⟩ := done
    by_cases here : other = address <;> simp [here]

/-- A command that does nothing to a device leaves its record. -/
theorem record?_of_elsewhere (elsewhere : step.deedOn? address = none) :
    step.after.inventory.record? address = step.before.inventory.record? address := by
  cases does : step.deed? with
  | none => rw [idle_of_deed? does]
  | some done =>
    obtain ⟨other, deed⟩ := done
    rw [(performs_of_deed? does).2]
    apply record?_perform_of_ne
    intro here
    rw [deedOn?_eq_some_iff.2 (does.trans (by rw [here]))] at elsewhere
    cases elsewhere

/-- No command takes a record away. -/
theorem isSome_record?_step (held : (step.before.inventory.record? address).isSome) :
    (step.after.inventory.record? address).isSome := by
  cases does : step.deed? with
  | none =>
    rw [idle_of_deed? does]
    exact held
  | some done =>
    rw [(performs_of_deed? does).2]
    exact isSome_record?_perform held

end Commands

/-! ## No handle without a record -/

section Handles

variable {inventory next : Inventory} {address : String} {request : Request} {reply : Reply}

/-- Why a request to a device can fail. -/
inductive Refusal (inventory : Inventory) (address : String) : DeviceError → Prop
  | unregistered (unregistered : inventory.record? address = none) :
      Refusal inventory address (.notFound address deviceResource)
  | noInterface : Refusal inventory address (.notFound address interfaceResource)
  | noGroup : Refusal inventory address
      (.resolution address (.ofText iommuGroupEntry) "no IOMMU group")
  | alreadyProvisioned (configured count : UInt32) :
      Refusal inventory address (.alreadyProvisioned address configured count)

theorem refusal_of_respond {error : DeviceError}
    (failed : InventorySession.respond inventory address request = .error error) :
    Refusal inventory address error := by
  cases held : inventory.record? address with
  | none =>
    have finds : inventory.find address = .error (.notFound address deviceResource) := by
      rw [Inventory.find, held]
      rfl
    cases request with
    | address | directory => cases failed
    | _ =>
      simp only [InventorySession.respond, Inventory.netInterface, Inventory.iommuGroup,
        Inventory.boundDriver, Inventory.capacity, Inventory.configured, Inventory.rebind,
        Inventory.provision, Inventory.virtualFunctions, finds] at failed
      cases failed
      exact .unregistered held
  | some record =>
    have finds : inventory.find address = .ok record := by
      rw [Inventory.find, held]
    cases request with
    | netInterface =>
      simp only [InventorySession.respond, Inventory.netInterface, finds, bind, Except.bind]
        at failed
      cases stored : record.netInterface with
      | some interface =>
        rw [stored] at failed
        cases failed
      | none =>
        rw [stored] at failed
        cases failed
        exact .noInterface
    | iommuGroup =>
      simp only [InventorySession.respond, Inventory.iommuGroup, finds, bind, Except.bind]
        at failed
      cases stored : record.iommuGroup with
      | some group =>
        rw [stored] at failed
        cases failed
      | none =>
        rw [stored] at failed
        cases failed
        exact .noGroup
    | provision count =>
      simp only [InventorySession.respond, Inventory.provision_eq held] at failed
      split at failed
      · cases failed
        exact .alreadyProvisioned record.configured count
      · cases failed
    | _ =>
      simp only [InventorySession.respond, Inventory.boundDriver, Inventory.capacity,
        Inventory.configured, Inventory.rebind, Inventory.virtualFunctions, finds] at failed
      cases failed

/-- A request to a registered device does not fail for want of a record. -/
theorem registered_of_respond (held : (inventory.record? address).isSome) (named : String) :
    InventorySession.respond inventory address request ≠ .error (.notFound named deviceResource) := by
  intro failed
  generalize missing : DeviceError.notFound named deviceResource = error at failed
  cases refusal_of_respond failed with
  | unregistered unregistered =>
    rw [unregistered] at held
    cases held
  | noInterface =>
    injection missing with _ resources
    revert resources
    decide
  | noGroup => cases missing
  | alreadyProvisioned configured count => cases missing

/-- What a reply hands out is registered. -/
theorem registered_of_reply
    (answered : InventorySession.respond inventory address request = .ok (reply, next)) :
    ∀ other ∈ reply.addresses, (next.record? other).isSome := by
  -- every other reply is made of a value that names no function
  have silent {α : Type} {answer : Except DeviceError α} {f : α → Reply × Inventory}
      (unnamed : ∀ value, (f value).1.addresses = [])
      (answered : (answer.bind fun value => .ok (f value)) = .ok (reply, next)) :
      ∀ other ∈ reply.addresses, (next.record? other).isSome := by
    cases answer with
    | error error => cases answered
    | ok value =>
      have named := unnamed value
      rw [Except.ok.inj answered] at named
      rw [named]
      intro other among
      cases among
  cases request with
  | virtualFunctions =>
    simp only [InventorySession.respond, Inventory.virtualFunctions, Inventory.find] at answered
    cases held : inventory.record? address with
    | none => simp [held, bind, Except.bind] at answered
    | some record =>
      simp only [held, bind, Except.bind, pure, Except.pure, List.partition_eq_filter_filter,
        Except.ok.injEq, Prod.mk.injEq] at answered
      obtain ⟨rfl, rfl⟩ := answered
      intro other among
      exact (List.mem_filter.1 among).2
  | address | directory =>
    cases answered
    intro other among
    cases among
  | netInterface => exact silent (fun _ => rfl) answered
  | iommuGroup => exact silent (fun _ => rfl) answered
  | driver => exact silent (fun _ => rfl) answered
  | capacity => exact silent (fun _ => rfl) answered
  | configured => exact silent (fun _ => rfl) answered
  | rebind driver => exact silent (fun _ => rfl) answered
  | provision count => exact silent (fun _ => rfl) answered

/-- Every handle of a session is on a registered device. -/
def InventorySession.Kept (session : InventorySession) : Prop :=
  session.handles.All fun address => (session.inventory.record? address).isSome

theorem kept_start (inventory : Inventory) : (InventorySession.start inventory).Kept := by
  intro row among
  cases among

/-- Every command keeps it so: what it opens or hands out is registered, and what was registered is. -/
theorem kept_step {step : InventoryStep} (kept : step.before.Kept) : step.after.Kept := by
  have older : step.before.handles.All fun address =>
      (step.after.inventory.record? address).isSome :=
    fun row among => isSome_record?_step (kept row among)
  obtain ⟨command, session⟩ := step
  revert older
  unfold InventoryStep.after
  cases command with
  | register other record => exact fun older => older
  | openHandle role other name =>
    rw [InventorySession.step]
    cases located : session.inventory.locate other with
    | error error => exact fun older => older
    | ok found =>
      intro older
      obtain ⟨rfl, registered⟩ := locate_eq_ok located
      exact older.store name role registered
  | ask name request storeAs =>
    rw [InventorySession.step]
    cases session.handles.find? name with
    | none => exact fun older => older
    | some entry =>
      obtain ⟨role, other⟩ := entry
      dsimp only
      split
      · exact fun older => older
      cases answered : InventorySession.respond session.inventory other request with
      | error error => exact fun older => older
      | ok given =>
        intro older
        obtain ⟨reply, next⟩ := given
        have registered := registered_of_reply answered
        unfold InventorySession.Kept
        cases reply with
        | functions addresses skipped =>
          cases storeAs with
          | none => exact older
          | some stem => exact older.storeAll stem registered
        | _ => exact older

/-- A handle of the session never fails for want of a record. -/
theorem registered_of_kept {step : InventoryStep} (kept : step.before.Kept) {name : String}
    {request : Request} {storeAs : Option String} (asks : step.command = .ask name request storeAs)
    (named : String) : step.answer ≠ .failure (.notFound named deviceResource) := by
  obtain ⟨command, session⟩ := step
  cases asks
  unfold InventoryStep.answer
  rw [InventorySession.step]
  cases known : session.handles.find? name with
  | none =>
    intro failed
    cases failed
  | some entry =>
    obtain ⟨role, other⟩ := entry
    have finds : InventorySession.respond session.inventory other request ≠
        .error (.notFound named deviceResource) :=
      registered_of_respond (kept.find? known) named
    dsimp only
    split
    · intro failed
      cases failed
    cases answered : InventorySession.respond session.inventory other request with
    | error error =>
      rw [answered] at finds
      intro failed
      cases failed
      exact finds rfl
    | ok given =>
      intro failed
      cases failed

end Handles

/-! ## Runs -/

/-- A step of a run does to a device what a step of a replay does to it alone: it finds and leaves the same
record, and unless it looks around it is answered the same. -/
structure Repeats (address : String) (step : InventoryStep) (alone : DeedStep) : Prop where
  does : step.deed? = some (address, alone.deed)
  found : alone.before.record? address = step.before.inventory.record? address
  left : alone.after.record? address = step.after.inventory.record? address
  answers : ¬ alone.deed.looksAround → alone.answer = step.answer

/-- The steps of a run that do something to the device of an address. -/
def stepsOn (address : String) (steps : List InventoryStep) : List InventoryStep :=
  steps.filter fun step => (step.deedOn? address).isSome

/-- What the steps of a run do to the device of an address. -/
def deedsOn (address : String) (steps : List InventoryStep) : List Deed :=
  steps.filterMap fun step => step.deedOn? address

theorem on_cons_of_none {address : String} {step : InventoryStep} (steps : List InventoryStep)
    (elsewhere : step.deedOn? address = none) :
    stepsOn address (step :: steps) = stepsOn address steps ∧
      deedsOn address (step :: steps) = deedsOn address steps := by
  simp [stepsOn, deedsOn, elsewhere]

theorem on_cons_of_some {address : String} {step : InventoryStep} {deed : Deed}
    (steps : List InventoryStep) (here : step.deedOn? address = some deed) :
    stepsOn address (step :: steps) = step :: stepsOn address steps ∧
      deedsOn address (step :: steps) = deed :: deedsOn address steps := by
  simp [stepsOn, deedsOn, here]

/-- A replay on any inventory with the same record of the device repeats a run. -/
theorem repeats_of_record? {address : String} {session : InventorySession} {alone : Inventory}
    (same : alone.record? address = session.inventory.record? address)
    (commands : List InventoryCommand) :
    List.Forall₂ (Repeats address) (stepsOn address (inventorySteps session commands))
        (replay address alone (deedsOn address (inventorySteps session commands))) ∧
      (replayed address alone (deedsOn address (inventorySteps session commands))).record? address =
        (session.run commands).inventory.record? address := by
  induction commands generalizing session alone with
  | nil => exact ⟨.nil, same⟩
  | cons command rest ih =>
    let step : InventoryStep := ⟨command, session⟩
    show List.Forall₂ _ (stepsOn address (step :: inventorySteps step.after rest))
        (replay address alone (deedsOn address (step :: inventorySteps step.after rest))) ∧
      (replayed address alone (deedsOn address (step :: inventorySteps step.after rest))).record?
        address = (step.after.run rest).inventory.record? address
    cases does : step.deedOn? address with
    | none =>
      obtain ⟨steps, deeds⟩ := on_cons_of_none (inventorySteps step.after rest) does
      rw [steps, deeds]
      exact ih (same.trans (record?_of_elsewhere does).symm)
    | some deed =>
      obtain ⟨answers, leaves⟩ := performs_of_deed? (deedOn?_eq_some_iff.1 does)
      obtain ⟨left, answered⟩ := perform_congr deed same
      rw [← leaves] at left
      obtain ⟨later, last⟩ := ih left
      obtain ⟨steps, deeds⟩ := on_cons_of_some (inventorySteps step.after rest) does
      rw [steps, deeds]
      refine ⟨.cons ⟨deedOn?_eq_some_iff.1 does, same, left, ?_⟩ later, last⟩
      intro near
      exact (answered near).trans answers.symm

theorem registered_of_run {session : InventorySession} (kept : session.Kept)
    (commands : List InventoryCommand) :
    ∀ step ∈ inventorySteps session commands, step.before.Kept := by
  induction commands generalizing session with
  | nil =>
    intro step among
    cases among
  | cons command rest ih =>
    have after : InventorySession.Kept (InventoryStep.after ⟨command, session⟩) := kept_step kept
    exact List.forall_mem_cons.2 ⟨kept, ih after⟩

/-- A device of an inventory comes to the same record and gives the same answers in a run as when what the
run does to it is done to it alone; an enumeration depends besides on nothing but which addresses are
registered; and no handle of a run ever finds that its device is gone. -/
theorem local_of_run (inventory : Inventory) (commands : List InventoryCommand) :
    (∀ (address : String) (alone : Inventory),
      alone.record? address = inventory.record? address →
      List.Forall₂ (Repeats address)
          (stepsOn address (inventorySteps (.start inventory) commands))
          (replay address alone (deedsOn address (inventorySteps (.start inventory) commands))) ∧
        (replayed address alone
            (deedsOn address (inventorySteps (.start inventory) commands))).record? address =
          ((InventorySession.start inventory).run commands).inventory.record? address) ∧
    (∀ (first second : InventoryStep) (address : String),
      first.deed? = some (address, .ask .virtualFunctions) →
      second.deed? = some (address, .ask .virtualFunctions) →
      first.before.inventory.record? address = second.before.inventory.record? address →
      (∀ other, (first.before.inventory.record? other).isSome =
        (second.before.inventory.record? other).isSome) →
      first.answer = second.answer) ∧
    ∀ step ∈ inventorySteps (.start inventory) commands, ∀ name request storeAs named,
      step.command = .ask name request storeAs →
        step.answer ≠ .failure (.notFound named deviceResource) := by
  refine ⟨?_, ?_, ?_⟩
  · intro address alone same
    have start : alone.record? address =
        (InventorySession.start inventory).inventory.record? address := same
    exact repeats_of_record? start commands
  · intro first second address enumerates enumeratesToo same registered
    rw [(performs_of_deed? enumerates).1, (performs_of_deed? enumeratesToo).1]
    exact enumeration_congr same registered
  · intro step among name request storeAs named asks
    exact registered_of_kept (registered_of_run (kept_start inventory) commands step among) asks named

namespace Sample

open Represents.Sample

/-- A physical function is enumerated, what was found is bound to a driver, and the address that was missing
is registered, so that another enumeration finds more. -/
def dealings : List InventoryCommand :=
  [.openHandle .physical parent "pf", .ask "pf" .virtualFunctions (some "vf"),
    .ask "vf0" (.rebind "vfio-pci") none, .register missing .bare,
    .ask "pf" .virtualFunctions (some "vf"), .ask "pf" (.rebind "ixgbe") none,
    .ask "vf1" (.rebind "igbvf") none, .ask "vf0" .driver none]

/-- The virtual function without any other device. -/
def childAlone : Inventory := Inventory.empty.register child .bare

end Sample

open Represents.Sample Sample in
theorem local_of_run_sample :
    childAlone.record? child = devices.record? child ∧
      deedsOn child (inventorySteps (.start devices) dealings) =
        [.ask (.rebind "vfio-pci"), .ask .driver] ∧
      (replay child childAlone [.ask (.rebind "vfio-pci"), .ask .driver]).map DeedStep.answer =
        [.reply .done, .reply (.driver (some "vfio-pci"))] ∧
      List.Forall₂ (Repeats child) (stepsOn child (inventorySteps (.start devices) dealings))
        (replay child childAlone [.ask (.rebind "vfio-pci"), .ask .driver]) ∧
      ((InventorySession.start devices).run dealings).inventory.record? child =
        some { Inventory.Record.bare with driver := some "vfio-pci" } ∧
      ∀ step ∈ inventorySteps (.start devices) dealings, ∀ name request storeAs named,
        step.command = .ask name request storeAs →
          step.answer ≠ .failure (.notFound named deviceResource) := by
  obtain ⟨repeats, _, kept⟩ := local_of_run devices dealings
  have same : childAlone.record? child = devices.record? child := by decide
  have deeds : deedsOn child (inventorySteps (.start devices) dealings) =
      [.ask (.rebind "vfio-pci"), .ask .driver] := by
    decide +kernel
  obtain ⟨steps, last⟩ := repeats child childAlone same
  rw [deeds] at steps last
  refine ⟨same, deeds, by decide +kernel, steps, ?_, kept⟩
  rw [← last]
  decide +kernel

end SingleRoot.Session
