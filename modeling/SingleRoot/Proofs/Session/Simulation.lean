/-
# Sessions on a host and on an inventory that it represents

A session on a host and a session on an inventory are told the same things, one after another: to open
handles, to ask them for what they report, and to provision virtual functions. If the tree represents the
inventory, the two answer the same, and after every command the tree represents the inventory again.

What is carried along a run is `Agree`: besides the tree and the inventory, the handles of the two
sessions have the same names and roles, and all of them are handles of registered devices. An enumeration
keeps to that, since it hands out none but registered devices.
-/
import SingleRoot.Proofs.Representation
import SingleRoot.Proofs.Session.Looking
import SingleRoot.Proofs.Session.Steps

namespace SingleRoot.Session

open Device Host

/-! ## The same answers -/

/-- Two errors that say the same. A host that finds no group blames a link and says why; an inventory has
no links, so that only the kind of the error and the address can agree. -/
inductive SameError : DeviceError → DeviceError → Prop
  | same (error : DeviceError) : SameError error error
  | resolution (address : String) (path otherPath : HostPath) (reason otherReason : String) :
      SameError (.resolution address path reason) (.resolution address otherPath otherReason)

/-- Two results that say the same. -/
inductive SameResult {α : Type} : Except DeviceError α → Except DeviceError α → Prop
  | ok (value : α) : SameResult (.ok value) (.ok value)
  | error {error other : DeviceError} (same : SameError error other) :
      SameResult (.error error) (.error other)

theorem SameResult.of_eq {α : Type} {first second : Except DeviceError α} (equal : first = second) :
    SameResult first second := by
  subst equal
  cases first with
  | ok value => exact .ok value
  | error error => exact .error (.same error)

/-- Two answers that say the same. -/
inductive SameAnswer : Answer HostReply → Answer Reply → Prop
  | reply (reply : Reply) : SameAnswer (.reply (.ofFunction reply)) (.reply reply)
  | failure {error other : DeviceError} (same : SameError error other) :
      SameAnswer (.failure error) (.failure other)
  | noHandle (name : String) : SameAnswer (.noHandle name) (.noHandle name)
  | noCapability : SameAnswer .noCapability .noCapability

/-! ## The same names -/

namespace Handles

variable {H K : Type} {P : H → Prop}

/-- The same names for other handles. -/
def map (f : H → K) (handles : Handles H) : Handles K :=
  ⟨handles.named.map fun row => (row.1, row.2.1, f row.2.2)⟩

/-- What holds of every handle that has a name. -/
def All (P : H → Prop) (handles : Handles H) : Prop :=
  ∀ row ∈ handles.named, P row.2.2

theorem find?_map (f : H → K) (handles : Handles H) (name : String) :
    (handles.map f).find? name = (handles.find? name).map fun found => (found.1, f found.2) := by
  obtain ⟨named⟩ := handles
  show (named.map fun row => (row.1, row.2.1, f row.2.2)).lookup name =
    (named.lookup name).map fun found => (found.1, f found.2)
  induction named with
  | nil => rfl
  | cons row rest ih =>
    rw [List.map_cons, List.lookup_cons, List.lookup_cons, ih]
    cases name == row.1 <;> rfl

theorem store_map (f : H → K) (handles : Handles H) (name : String) (role : Role) (handle : H) :
    (handles.map f).store name role (f handle) = (handles.store name role handle).map f := by
  simp only [store, map, List.filter_map, List.map_cons]
  rfl

theorem storeAll_map (f : H → K) (handles : Handles H) (stem : String) (found : List H) :
    (handles.map f).storeAll stem (found.map f) = (handles.storeAll stem found).map f := by
  simp only [storeAll, List.zipIdx_map, List.foldl_map]
  generalize found.zipIdx = numbered
  induction numbered generalizing handles with
  | nil => rfl
  | cons row rest ih =>
    rw [List.foldl_cons, List.foldl_cons, ← ih, ← store_map]
    rfl

theorem All.find? {handles : Handles H} (all : handles.All P) {name : String} {role : Role}
    {handle : H} (known : handles.find? name = some (role, handle)) : P handle := by
  obtain ⟨front, back, split, _⟩ := List.lookup_eq_some_iff.1 known
  exact all (name, role, handle) (by simp [split])

theorem All.store {handles : Handles H} (all : handles.All P) (name : String) (role : Role)
    {handle : H} (holds : P handle) : (handles.store name role handle).All P := by
  intro row among
  rcases List.mem_cons.1 among with rfl | among
  · exact holds
  · exact all row (List.mem_filter.1 among).1

theorem All.storeAll {handles : Handles H} (all : handles.All P) (stem : String) {found : List H}
    (holds : ∀ handle ∈ found, P handle) : (handles.storeAll stem found).All P := by
  have numbered : ∀ row ∈ found.zipIdx, P row.1 := fun row among =>
    holds row.1 (List.fst_mem_of_mem_zipIdx among)
  rw [Handles.storeAll]
  revert numbered
  generalize found.zipIdx = rows
  intro numbered
  induction rows generalizing handles with
  | nil => exact all
  | cons row rest ih =>
    obtain ⟨here, later⟩ := List.forall_mem_cons.1 numbered
    exact ih (all.store _ _ here) later

end Handles

/-! ## Requests -/

/-- The requests that both kinds of session are meant to answer alike. A rebind is left out, because
after it the links of a host are the kernel's affair, and so is the path of a directory, which an
inventory does not have. -/
def Request.isShared : Request → Bool
  | .rebind _ | .directory => false
  | _ => true

/-- The addresses that a reply hands out. -/
def Reply.addresses : Reply → List String
  | .functions addresses _ => addresses
  | _ => []

/-- A request ends alike on a host, whose machine it leaves, and on an inventory: with the same reply, or
with errors that say the same and nothing changed. -/
inductive Alike (layout : Layout) (root : Location) (machine : Machine) (inventory : Inventory) :
    Except DeviceError Reply → Except DeviceError (Reply × Inventory) → Prop
  | replied {reply : Reply} {next : Inventory}
      (represents : Represents layout machine.files root next)
      (kept : ∀ address, (inventory.record? address).isSome → (next.record? address).isSome)
      (known : ∀ address ∈ reply.addresses, (next.record? address).isSome) :
      Alike layout root machine inventory (.ok reply) (.ok (reply, next))
  | failed {error other : DeviceError}
      (represents : Represents layout machine.files root inventory) (same : SameError error other) :
      Alike layout root machine inventory (.error error) (.error other)

section Requests

variable {layout : Layout} {root : Location} {machine : Machine} {inventory : Inventory}
  {address : String} {record : Inventory.Record}

/-- A query with the same result on both sides, of which a reply is made that hands out nothing. -/
theorem alike_of_query {α : Type} {host stub : Except DeviceError α} (f : α → Reply)
    (silent : ∀ value, (f value).addresses = [])
    (represents : Represents layout machine.files root inventory) (same : SameResult host stub) :
    Alike layout root machine inventory (host.map f)
      (stub.bind fun value => .ok (f value, inventory)) := by
  cases same with
  | ok value =>
    refine .replied represents (fun _ known => known) ?_
    rw [silent value]
    exact nofun
  | error same => exact .failed represents same

section Queries

variable {files : FileSystem} (represents : Represents layout files root inventory)
  (held : inventory.record? address = some record)

include represents held

theorem sameResult_netInterface :
    SameResult (Handle.netInterface ⟨address, layout⟩ files) (inventory.netInterface address) := by
  apply SameResult.of_eq
  rw [(represents.stands address record held).netInterface_eq represents.rooted
    (represents.valid address record held).1]
  simp only [Inventory.netInterface, Inventory.find, held, bind, Except.bind]
  cases record.netInterface <;> rfl

theorem sameResult_iommuGroup :
    SameResult (Handle.iommuGroup ⟨address, layout⟩ files) (inventory.iommuGroup address) := by
  have reads := (represents.stands address record held).iommuGroup_eq represents.rooted
    (represents.valid address record held).1
  simp only [Inventory.iommuGroup, Inventory.find, held, bind, Except.bind]
  cases stored : record.iommuGroup with
  | some group =>
    simp only [stored] at reads
    rw [reads]
    exact .ok group
  | none =>
    simp only [stored] at reads
    obtain ⟨path, reason, reads⟩ := reads
    rw [reads]
    exact .error (.resolution address path _ reason _)

theorem sameResult_boundDriver :
    SameResult (Handle.boundDriver ⟨address, layout⟩ files) (inventory.boundDriver address) := by
  apply SameResult.of_eq
  rw [(represents.stands address record held).boundDriver_eq represents.rooted
    (represents.valid address record held).1]
  simp [Inventory.boundDriver, Inventory.find, held, bind, Except.bind, pure, Except.pure]

theorem sameResult_capacity :
    SameResult (Handle.capacity ⟨address, layout⟩ files) (inventory.capacity address) := by
  apply SameResult.of_eq
  rw [(represents.stands address record held).capacity_eq represents.rooted
    (represents.valid address record held).1]
  simp [Inventory.capacity, Inventory.find, held, bind, Except.bind, pure, Except.pure]

theorem sameResult_configured :
    SameResult (Handle.configured ⟨address, layout⟩ files) (inventory.configured address) := by
  apply SameResult.of_eq
  rw [(represents.stands address record held).configured_eq represents.rooted
    (represents.valid address record held).1]
  simp [Inventory.configured, Inventory.find, held, bind, Except.bind, pure, Except.pure]

end Queries

theorem run_query {α : Type} (f : α → Reply) (query : FileSystem → Except DeviceError α) :
    (f <$> Action.ask query).run machine = ((query machine.files).map f, machine) := by
  rw [Action.run_map, Action.run_ask]

/-- A provisioning ends alike on both sides. -/
theorem provision_alike (represents : Represents layout machine.files root inventory)
    (held : inventory.record? address = some record) (count : UInt32) :
    Alike layout root
      ((HostSession.respond .none ⟨address, layout⟩ (.provision count)).run machine).2 inventory
      ((HostSession.respond .none ⟨address, layout⟩ (.provision count)).run machine).1
      (InventorySession.respond inventory address (.provision count)) := by
  rw [HostSession.respond, run_effect]
  rcases represents.provision_alike held count with
    ⟨after, ran, provisions, representsAfter⟩ | ⟨error, ran, refuses⟩
  · rw [ran, InventorySession.respond, provisions]
    refine .replied representsAfter ?_ (List.forall_mem_nil _)
    intro other known
    exact Inventory.isSome_record?_register known
  · rw [ran, InventorySession.respond, refuses]
    exact .failed represents (.same error)

/-- An enumeration ends alike on both sides: in a tree that represents an inventory, the functions that
are there are the devices that are registered. -/
theorem enumerate_alike (represents : Represents layout machine.files root inventory)
    (held : inventory.record? address = some record) :
    Alike layout root
      ((HostSession.respond .none ⟨address, layout⟩ .virtualFunctions).run machine).2 inventory
      ((HostSession.respond .none ⟨address, layout⟩ .virtualFunctions).run machine).1
      (InventorySession.respond inventory address .virtualFunctions) := by
  obtain ⟨valid, listed⟩ := represents.valid address record held
  have spelled : ∀ other ∈ record.virtualFunctions, IsNameText other := by
    intro other among
    exact Pci.isNameText_of_isAddressText (listed other among)
  obtain ⟨enumeration, found, addresses, skipped⟩ :=
    (represents.stands address record held).virtualFunctions_eq represents.rooted valid spelled
  have registered : Handle.present machine.files root =
      fun other => (inventory.record? other).isSome := by
    funext other
    exact represents.present_eq other
  rw [registered] at addresses skipped
  have stub : inventory.virtualFunctions address =
      .ok (enumeration.addresses, enumeration.skipped.length) := by
    simp only [Inventory.virtualFunctions, Inventory.find, held, bind, Except.bind, pure,
      Except.pure, List.partition_eq_filter_filter, addresses, skipped]
    rfl
  have result := Handle.result_enumerate ⟨address, layout⟩ machine
  have files := (leavesUntouched_enumerate ⟨address, layout⟩ machine).files
  rw [HostSession.respond, Action.run_bind, InventorySession.respond, stub]
  cases ran : (Handle.enumerate ⟨address, layout⟩).run machine with
  | mk answer after =>
    rw [ran, found] at result
    rw [ran] at files
    cases result
    rw [← files] at represents
    refine .replied represents (fun _ known => known) ?_
    intro other among
    have among : other ∈ enumeration.addresses := among
    rw [addresses] at among
    exact (List.mem_filter.1 among).2

/-- A shared request to a registered device ends alike on both sides. -/
theorem respond_alike {request : Request}
    (represents : Represents layout machine.files root inventory)
    (held : inventory.record? address = some record) (shared : request.isShared = true) :
    Alike layout root ((HostSession.respond .none ⟨address, layout⟩ request).run machine).2 inventory
      ((HostSession.respond .none ⟨address, layout⟩ request).run machine).1
      (InventorySession.respond inventory address request) := by
  cases request with
  | rebind driver => cases shared
  | directory => cases shared
  | address => exact .replied represents (fun _ known => known) (List.forall_mem_nil _)
  | netInterface =>
    obtain ⟨after, files, ran⟩ := Handle.run_reportNetInterface ⟨address, layout⟩ machine
    rw [HostSession.respond, Action.run_map, ran]
    rw [← files] at represents ⊢
    exact alike_of_query .text (fun _ => rfl) represents (sameResult_netInterface represents held)
  | iommuGroup =>
    rw [HostSession.respond, run_query]
    exact alike_of_query .count (fun _ => rfl) represents (sameResult_iommuGroup represents held)
  | driver =>
    rw [HostSession.respond, run_query]
    exact alike_of_query .driver (fun _ => rfl) represents (sameResult_boundDriver represents held)
  | capacity =>
    rw [HostSession.respond, run_query]
    exact alike_of_query .count (fun _ => rfl) represents (sameResult_capacity represents held)
  | configured =>
    rw [HostSession.respond, run_query]
    exact alike_of_query .count (fun _ => rfl) represents (sameResult_configured represents held)
  | provision count => exact provision_alike represents held count
  | virtualFunctions => exact enumerate_alike represents held

end Requests

/-! ## Sessions -/

/-- What a session of either kind can be told. -/
inductive Command where
  | openHandle (role : Role) (address name : String)
  | ask (name : String) (request : Request) (storeAs : Option String)

namespace Command

/-- The command to a session on a host. -/
def onHost : Command → HostCommand
  | openHandle role address name => .openHandle role address name
  | ask name request storeAs => .ask name request storeAs

/-- The command to a session on an inventory. -/
def onInventory : Command → InventoryCommand
  | openHandle role address name => .openHandle role address name
  | ask name request storeAs => .ask name request storeAs

/-- Handles are opened for discovery or for provisioning, and asked what both kinds of session are meant
to answer alike. -/
def Shared : Command → Prop
  | openHandle role _ _ => role = .physical ∨ role = .configurable
  | ask _ request _ => request.isShared = true

end Command

/-- A session on a host agrees with a session on an inventory. -/
structure Agree (layout : Layout) (root : Location) (host : HostSession) (stub : InventorySession) :
    Prop where
  represents : Represents layout host.machine.files root stub.inventory
  handles : host.handles = stub.handles.map fun address => ⟨address, layout⟩
  known : stub.handles.All fun address => (stub.inventory.record? address).isSome

section Sessions

variable {layout : Layout} {root : Location} {host : HostSession} {stub : InventorySession}

theorem locate_eq_ok {inventory : Inventory} {address found : String}
    (located : inventory.locate address = .ok found) :
    found = address ∧ (inventory.record? address).isSome := by
  rw [Inventory.locate, checkAddress] at located
  by_cases valid : Pci.isAddressText address = true
  · rw [if_pos valid] at located
    cases held : inventory.record? address with
    | none => simp [held, bind, Except.bind, throw, throwThe, MonadExceptOf.throw] at located
    | some record =>
      simp only [held, bind, Except.bind, pure, Except.pure, Except.ok.injEq] at located
      exact ⟨located.symm, rfl⟩
  · rw [if_neg valid] at located
    cases located

theorem openAs_shared (layout : Layout) (address : String) {role : Role}
    (shared : role = .physical ∨ role = .configurable) :
    HostSession.openAs layout role address = Handle.openPhysical layout address := by
  rcases shared with rfl | rfl <;> rfl

/-- Both sessions open a handle, or both fail to. -/
theorem open_agrees (agree : Agree layout root host stub) {role : Role}
    (shared : role = .physical ∨ role = .configurable) (address name : String) :
    SameAnswer (HostSession.step layout .none host (.openHandle role address name)).1
        (stub.step (.openHandle role address name)).1 ∧
      Agree layout root (HostSession.step layout .none host (.openHandle role address name)).2
        (stub.step (.openHandle role address name)).2 := by
  have opens := agree.represents.ofAddress_eq address
  rw [HostSession.step, InventorySession.step, openAs_shared layout address shared,
    Handle.openPhysical, Action.run_bind, Action.run_ask, opens]
  cases located : stub.inventory.locate address with
  | error error => exact ⟨.failure (.same error), agree⟩
  | ok found =>
    obtain ⟨rfl, registered⟩ := locate_eq_ok located
    refine ⟨.reply _, agree.represents, ?_, agree.known.store name role registered⟩
    show host.handles.store name role ⟨found, layout⟩ = _
    rw [agree.handles]
    exact Handles.store_map _ stub.handles name role found

/-- What is remembered of the same reply agrees. -/
theorem remember_agrees (agree : Agree layout root host stub) {address : String} {reply : Reply}
    {machine : Machine} {next : Inventory} (represents : Represents layout machine.files root next)
    (kept : ∀ address, (stub.inventory.record? address).isSome → (next.record? address).isSome)
    (known : ∀ address ∈ reply.addresses, (next.record? address).isSome)
    (storeAs : Option String) :
    Agree layout root
      ⟨machine, HostSession.remember host.handles ⟨address, layout⟩ storeAs reply⟩
      ⟨next, InventorySession.remember stub.handles storeAs reply⟩ := by
  have older : stub.handles.All fun address => (next.record? address).isSome :=
    fun row among => kept row.2.2 (agree.known row among)
  cases reply with
  | functions addresses skipped =>
    cases storeAs with
    | none => exact ⟨represents, agree.handles, older⟩
    | some stem =>
      refine ⟨represents, ?_, older.storeAll stem known⟩
      show host.handles.storeAll stem (addresses.map fun address => ⟨address, layout⟩) = _
      rw [agree.handles]
      exact Handles.storeAll_map _ stub.handles stem addresses
  | done => exact ⟨represents, agree.handles, older⟩
  | text text => exact ⟨represents, agree.handles, older⟩
  | count count => exact ⟨represents, agree.handles, older⟩
  | driver driver => exact ⟨represents, agree.handles, older⟩
  | path path => exact ⟨represents, agree.handles, older⟩

/-- Both sessions answer a request alike. -/
theorem ask_agrees (agree : Agree layout root host stub) {request : Request}
    (shared : request.isShared = true) (name : String) (storeAs : Option String) :
    SameAnswer (HostSession.step layout .none host (.ask name request storeAs)).1
        (stub.step (.ask name request storeAs)).1 ∧
      Agree layout root (HostSession.step layout .none host (.ask name request storeAs)).2
        (stub.step (.ask name request storeAs)).2 := by
  have names := Handles.find?_map (fun address => (⟨address, layout⟩ : Handle)) stub.handles name
  rw [← agree.handles] at names
  cases found : stub.handles.find? name with
  | none =>
    rw [found] at names
    rw [HostSession.step_ask_unknown names]
    simp only [InventorySession.step, found]
    exact ⟨.noHandle name, agree⟩
  | some entry =>
    obtain ⟨role, address⟩ := entry
    rw [found] at names
    cases offered : role.offers request with
    | false =>
      rw [HostSession.step_ask_unoffered names offered]
      simp only [InventorySession.step, found, offered]
      exact ⟨.noCapability, agree⟩
    | true =>
      obtain ⟨record, held⟩ := Option.isSome_iff_exists.1 (agree.known.find? found)
      have alike := respond_alike agree.represents held shared
      rw [HostSession.step_ask names offered]
      simp only [InventorySession.step, found, offered]
      cases ran : (HostSession.respond .none ⟨address, layout⟩ request).run host.machine with
      | mk result machine =>
        rw [ran] at alike
        cases answered : InventorySession.respond stub.inventory address request with
        | error other =>
          rw [answered] at alike
          cases alike with
          | failed represents same => exact ⟨.failure same, represents, agree.handles, agree.known⟩
        | ok given =>
          rw [answered] at alike
          cases alike with
          | replied represents kept known =>
            exact ⟨.reply _, remember_agrees agree represents kept known storeAs⟩

/-- A command that both kinds of session are meant to take alike is answered alike, and the sessions
agree again. -/
theorem step_agrees (agree : Agree layout root host stub) {command : Command}
    (shared : command.Shared) :
    SameAnswer (HostSession.step layout .none host command.onHost).1
        (stub.step command.onInventory).1 ∧
      Agree layout root (HostSession.step layout .none host command.onHost).2
        (stub.step command.onInventory).2 := by
  cases command with
  | openHandle role address name => exact open_agrees agree shared address name
  | ask name request storeAs => exact ask_agrees agree shared name storeAs

end Sessions

/-! ## Runs -/

/-- Sessions agree before anything has been opened. -/
theorem agree_start {layout : Layout} {files : FileSystem} {root : Location} {inventory : Inventory}
    (represents : Represents layout files root inventory) :
    Agree layout root (.start files) (.start inventory) := by
  refine ⟨represents, rfl, ?_⟩
  intro row among
  cases among

/-- A step of a session on a host accords with a step of a session on an inventory: they answer the same,
and afterwards the tree represents the inventory. -/
structure Accords (layout : Layout) (root : Location) (onHost : HostStep)
    (onInventory : InventoryStep) : Prop where
  answers : SameAnswer onHost.answer onInventory.answer
  represents : Represents layout onHost.after.machine.files root onInventory.after.inventory

theorem accord_of_agree {layout : Layout} {root : Location} {host : HostSession}
    {stub : InventorySession} (agree : Agree layout root host stub) (commands : List Command)
    (shared : ∀ command ∈ commands, command.Shared) :
    List.Forall₂ (Accords layout root)
      (hostSteps host (commands.map fun command => (layout, command.onHost)))
      (inventorySteps stub (commands.map Command.onInventory)) := by
  induction commands generalizing host stub with
  | nil => exact .nil
  | cons command rest ih =>
    obtain ⟨here, later⟩ := List.forall_mem_cons.1 shared
    obtain ⟨answers, agreeAfter⟩ := step_agrees agree here
    exact .cons ⟨answers, agreeAfter.represents⟩ (ih agreeAfter later)

/-- A session on a host and a session on an inventory that the tree represents answer everything alike
that they are told, command by command, and the tree goes on to represent the inventory. -/
theorem accord_of_represents {layout : Layout} {files : FileSystem} {root : Location}
    {inventory : Inventory} (represents : Represents layout files root inventory)
    (commands : List Command) (shared : ∀ command ∈ commands, command.Shared) :
    List.Forall₂ (Accords layout root)
      (hostSteps (.start files) (commands.map fun command => (layout, command.onHost)))
      (inventorySteps (.start inventory) (commands.map Command.onInventory)) :=
  accord_of_agree (agree_start represents) commands shared

open Represents.Sample in
/-- On the sample a physical function is opened and enumerated, the virtual function that was found is
asked for its driver, and the physical function is given four virtual functions and then, in vain, two. -/
theorem accord_of_represents_sample :
    ∃ commands : List Command,
      commands = [.openHandle .configurable parent "pf",
        .ask "pf" .virtualFunctions (some "vf"), .ask "vf0" .driver none,
        .ask "pf" (.provision 4) none, .ask "pf" (.provision 2) none] ∧
      Represents layout files root devices ∧ (∀ command ∈ commands, command.Shared) ∧
      (inventorySteps (.start devices) (commands.map Command.onInventory)).map InventoryStep.answer =
        [.reply (.text parent), .reply (.functions [child] 1), .reply (.driver none), .reply .done,
          .failure (.alreadyProvisioned parent 4 2)] ∧
      List.Forall₂ (Accords layout root)
        (hostSteps (.start files) (commands.map fun command => (layout, command.onHost)))
        (inventorySteps (.start devices) (commands.map Command.onInventory)) := by
  refine ⟨_, rfl, represents, ?_, by decide +kernel, accord_of_represents represents _ ?_⟩
  all_goals
    simp only [List.forall_mem_cons, Command.Shared, Request.isShared]
    simp

end SingleRoot.Session
