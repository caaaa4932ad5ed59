/-
# Requests about devices that are gone

No request should be answered for a device that no longer exists. An inventory keeps to this: whatever needs
the record of an address fails without one. On a host most requests keep to it as well, whatever it is that
hides the directory of the function. The query for the driver does not, and a rebind does not because it
starts with that query: `Escapes` says when they succeed. In all other cases the request is `Refused`, with
an error that names the handle's address, and nothing has been written or counted.
-/
import SingleRoot.Proofs.Device.Absence
import SingleRoot.Proofs.Device.Opening
import SingleRoot.Proofs.Session.Accounts
import SingleRoot.Proofs.Session.Causes

namespace SingleRoot

open Device Host

/-! ## Handles and where they come from -/

/-- The ways to come by a handle of a host: it is opened, or an enumeration hands it out. -/
inductive Device.Handle.Obtained : Handle → Prop
  | opened {files : FileSystem} {layout : Layout} {address : String} {handle : Handle}
      (opens : Handle.ofAddress files layout address = .ok handle) : Obtained handle
  | enumerated {machine : Machine} {physical handle : Handle} {enumeration : Enumeration}
      (enumerates : (physical.enumerate.run machine).1 = .ok enumeration)
      (among : handle ∈ enumeration.handles) : Obtained handle

theorem Device.Handle.Obtained.grounded {handle : Handle} (obtained : handle.Obtained) :
    handle.Grounded := by
  cases obtained with
  | opened opens =>
    obtain ⟨rfl, grounded⟩ := Handle.grounded_of_ofAddress opens
    exact grounded
  | enumerated enumerates among =>
    obtain ⟨_, _, _, _, ends⟩ := (Handle.mem_handles_iff enumerates).1 among
    exact Handle.grounded_of_plain (HostPath.plainName_of_fileName? ends).1

namespace Session

/-- Whether an answer to the request has to do with the device. -/
def Request.consults : Request → Bool
  | .address | .directory => false
  | _ => true

/-- The requests that succeed for a handle although its device is gone. -/
def Request.Escapes (handle : Handle) (files : FileSystem) : Request → Prop
  | .driver => handle.Vanished files
  | .rebind wanted => ∃ left, handle.BindsNothing wanted files left
  | _ => False

/-- A request has failed with an error that names an address, and has neither written nor counted. -/
structure Refused (address : String) (machine : Machine) (result : Except DeviceError Reply)
    (after : Machine) : Prop where
  failed : ∃ error, result = .error error ∧ error.address? = some address
  files : after.files = machine.files
  tally : after.tally = machine.tally

section Hosts

variable {handle : Handle} {machine after : Machine} {request : Request}
  {result : Except DeviceError Reply}

/-- A request that only looks fails with the query that it passes on. -/
theorem failed_of_query {α : Type} {f : α → Reply} {query : FileSystem → Except DeviceError α}
    (fails : ∃ error, query machine.files = .error error)
    (ran : (f <$> Action.ask query).run machine = (result, after)) :
    ∃ error, result = .error error := by
  obtain ⟨error, fails⟩ := fails
  rw [Action.run_map, Action.run_ask, fails] at ran
  cases ran
  exact ⟨error, rfl⟩

/-- Without a device a request fails and writes nothing, or it is one of those that escape. -/
theorem respond_of_lost (grounded : handle.Grounded) (lost : handle.Lost machine.files)
    (consults : request.consults = true)
    (ran : (HostSession.respond .none handle request).run machine = (result, after)) :
    (¬ request.Escapes handle machine.files ∧ (∃ error, result = .error error) ∧
        after.files = machine.files) ∨
      (request = .driver ∧ handle.Vanished machine.files ∧ result = .ok (.driver none)) ∨
      ∃ driver, request = .rebind driver ∧
        handle.BindsNothing driver machine.files after.files ∧ result = .ok .done := by
  have spared {asked : Request} (other : asked ≠ .driver) (noRebind : ∀ driver, asked ≠ .rebind driver) :
      ¬ asked.Escapes handle machine.files := by
    cases asked <;> simp_all [Request.Escapes]
  have looked {asked : Request} (looks : asked.looks = true)
      (ran : (HostSession.respond .none handle asked).run machine = (result, after)) :
      after.files = machine.files :=
    ((leavesUntouched_respond .none handle looks).of_run ran).files
  cases request with
  | address | directory => cases consults
  | netInterface =>
    refine .inl ⟨spared (by simp) (by simp), ?_, looked rfl ran⟩
    obtain ⟨_, _, reads⟩ := Handle.run_reportNetInterface handle machine
    obtain ⟨error, failed⟩ := Handle.netInterface_of_lost grounded lost
    rw [HostSession.respond, Action.run_map, reads, failed] at ran
    cases ran
    exact ⟨error, rfl⟩
  | iommuGroup =>
    have fails := failed_of_query (Handle.iommuGroup_of_lost grounded lost) ran
    exact .inl ⟨spared (by simp) (by simp), fails, looked rfl ran⟩
  | capacity | configured =>
    have fails := failed_of_query (Handle.readCount_of_lost grounded lost (by decide)) ran
    exact .inl ⟨spared (by simp) (by simp), fails, looked rfl ran⟩
  | driver =>
    by_cases vanished : handle.Vanished machine.files
    · have answers := (Handle.boundDriver_of_lost grounded lost).1 vanished
      rw [HostSession.respond, Action.run_map, Action.run_ask, answers] at ran
      cases ran
      exact .inr (.inl ⟨rfl, vanished, rfl⟩)
    · have fails := failed_of_query ((Handle.boundDriver_of_lost grounded lost).2 vanished) ran
      exact .inl ⟨by simpa [Request.Escapes] using vanished, fails, looked rfl ran⟩
  | rebind driver =>
    obtain ⟨outcome, rebound, rfl⟩ := outcome_of_effect ran
    obtain ⟨rfl, binds⟩ | ⟨⟨error, rfl⟩, same, spared⟩ := Handle.rebind_of_lost grounded lost rebound
    · exact .inr (.inr ⟨driver, rfl, binds, rfl⟩)
    · refine .inl ⟨?_, ⟨error, rfl⟩, same⟩
      rintro ⟨left, binds⟩
      exact spared left binds
  | provision count =>
    obtain ⟨outcome, provisioned, rfl⟩ := outcome_of_effect ran
    have plain : PlainName (Text.toBytes configuredEntry) := by decide
    obtain ⟨error, unread⟩ := Handle.readCount_of_lost grounded lost plain
    rw [Handle.provision, Action.run_bind, Action.run_ask, Handle.configured, unread] at provisioned
    cases provisioned
    exact .inl ⟨spared (by simp) (by simp), ⟨error, rfl⟩, rfl⟩
  | virtualFunctions =>
    refine .inl ⟨spared (by simp) (by simp), ?_, looked rfl ran⟩
    obtain ⟨error, unlisted⟩ := Handle.virtualFunctions_of_lost lost
    rw [HostSession.respond, Action.run_bind, Handle.enumerate, Action.run_bind, Action.run_ask,
      unlisted] at ran
    cases ran
    exact ⟨error, rfl⟩

/-- Whatever fails without a device, the error is about it, and nothing has been counted. -/
theorem refused_of_failed {error : DeviceError}
    (ran : (HostSession.respond .none handle request).run machine = (.error error, after))
    (same : after.files = machine.files) : Refused handle.address machine (.error error) after := by
  refine ⟨⟨error, rfl, (blames_of_respond ran).1⟩, same, ?_⟩
  rw [tally_of_respond ran, counted_of_failure]
  rfl

end Hosts

/-- What a request to the device of an inventory comes to without its record. -/
theorem respond_of_unregistered {inventory : Inventory} {address : String} {request : Request}
    (gone : inventory.record? address = none) (consults : request.consults = true) :
    InventorySession.respond inventory address request =
      .error (.notFound address deviceResource) := by
  have missing : inventory.find address = .error (.notFound address deviceResource) := by
    rw [Inventory.find, gone]
    rfl
  cases request with
  | address | directory => cases consults
  | netInterface => simp [InventorySession.respond, Inventory.netInterface, missing, bind, Except.bind]
  | iommuGroup => simp [InventorySession.respond, Inventory.iommuGroup, missing, bind, Except.bind]
  | driver => simp [InventorySession.respond, Inventory.boundDriver, missing, bind, Except.bind]
  | rebind wanted => simp [InventorySession.respond, Inventory.rebind, missing, bind, Except.bind]
  | capacity => simp [InventorySession.respond, Inventory.capacity, missing, bind, Except.bind]
  | configured => simp [InventorySession.respond, Inventory.configured, missing, bind, Except.bind]
  | provision count => simp [InventorySession.respond, Inventory.provision, missing, bind, Except.bind]
  | virtualFunctions =>
    simp [InventorySession.respond, Inventory.virtualFunctions, missing, bind, Except.bind]

/-- A request to a handle whose device is gone is refused unless it escapes. The query for the driver escapes
from a host that calls the directory absent, and says that there is no driver; a rebind escapes with it if
its bind write is accepted, and is counted. On an inventory no request escapes. -/
theorem refused_of_lost (request : Request) (consults : request.consults = true) :
    (∀ (handle : Handle) (machine after : Machine) (result : Except DeviceError Reply),
      handle.Obtained → handle.Lost machine.files →
      (HostSession.respond .none handle request).run machine = (result, after) →
        (Refused handle.address machine result after ↔ ¬ request.Escapes handle machine.files) ∧
        (request = .driver → request.Escapes handle machine.files →
          result = .ok (.driver none) ∧ after.files = machine.files) ∧
        ∀ wanted, request = .rebind wanted → request.Escapes handle machine.files →
          result = .ok .done ∧ handle.BindsNothing wanted machine.files after.files ∧
            after.tally = machine.tally.add (.driverBinds wanted) 1) ∧
    ∀ (session : InventorySession) (name address : String) (role : Role) (storeAs : Option String),
      session.handles.find? name = some (role, address) → role.offers request = true →
      session.inventory.record? address = none →
        session.step (.ask name request storeAs) =
          (.failure (.notFound address deviceResource), session) := by
  constructor
  · intro handle machine after result obtained lost ran
    have grounded := obtained.grounded
    obtain ⟨spared, ⟨error, rfl⟩, same⟩ | ⟨rfl, vanished, rfl⟩ | ⟨wanted, rfl, binds, rfl⟩ :=
      respond_of_lost grounded lost consults ran
    · refine ⟨iff_of_true (refused_of_failed ran same) spared, ?_, ?_⟩
      · exact fun _ escapes => absurd escapes spared
      · exact fun _ _ escapes => absurd escapes spared
    · refine ⟨iff_of_false ?_ (not_not_intro vanished), fun _ _ => ⟨rfl, ?_⟩, by simp⟩
      · rintro ⟨⟨error, failed, _⟩, _⟩
        cases failed
      · exact ((leavesUntouched_respond .none handle rfl).of_run ran).files
    · refine ⟨iff_of_false ?_ (not_not_intro ⟨_, binds⟩), by simp, ?_⟩
      · rintro ⟨⟨error, failed, _⟩, _⟩
        cases failed
      · rintro _ ⟨⟩ _
        refine ⟨rfl, binds, ?_⟩
        rw [tally_of_respond ran, Request.counted, if_neg (Handle.not_bound_of_lost grounded lost)]
        rfl
  · intro session name address role storeAs known offered gone
    rw [InventorySession.step, known]
    simp only [offered, respond_of_unregistered gone consults]
    rfl

/-! ## A device that has been unplugged -/

namespace Sample

open Device.Sample

/-- A handle that was opened while the device was there. -/
def unplugged : Handle := ⟨address, layout⟩

/-- The host without the directory of the function. -/
def without : FileSystem :=
  files.withTree (files.tree.remove (place ["devices", address]))

/-- A session with a handle on a device that is not registered. -/
def unregistered : InventorySession :=
  ⟨.empty, Handles.none.store "pf" .physical address⟩

theorem obtained_unplugged : unplugged.Obtained :=
  have opens : Handle.ofAddress files layout address = .ok unplugged := by
    decide +kernel
  .opened opens

end Sample

open Sample in
/-- A rebind to a driver whose bind file may not be written is refused, and so is a query to an inventory. -/
theorem refused_of_lost_sample :
    unplugged.Lost without ∧
      Refused unplugged.address (.start without)
        ((HostSession.respond .none unplugged (.rebind "vfio-pci")).run (.start without)).1
        ((HostSession.respond .none unplugged (.rebind "vfio-pci")).run (.start without)).2 ∧
      unregistered.step (.ask "pf" .driver none) =
        (.failure (.notFound Device.Sample.address deviceResource), unregistered) := by
  have lost : unplugged.Lost without := by
    rw [Handle.Lost]
    decide +kernel
  have hindered : without.write (unplugged.bindFile "vfio-pci") (Text.toBytes unplugged.address) =
      .error (.system .accessDenied) := by
    decide +kernel
  have spared : ¬ (Request.rebind "vfio-pci").Escapes unplugged without := by
    rintro ⟨left, _, _, wrote⟩
    cases hindered.symm.trans wrote
  have refuses := (refused_of_lost (.rebind "vfio-pci") rfl).1 unplugged (.start without) _ _
    obtained_unplugged lost rfl
  exact ⟨lost, refuses.1.2 spared,
    (refused_of_lost .driver rfl).2 unregistered "pf" _ .physical none rfl rfl rfl⟩

open Sample in
/-- A function that is gone is reported as one without a driver, and it can be rebound. -/
theorem lost_device_answers :
    unplugged.Obtained ∧ unplugged.Lost without ∧
      ((HostSession.respond .none unplugged .driver).run (.start without)).1 = .ok (.driver none) ∧
      ((HostSession.respond .none unplugged (.rebind "ixgbe")).run (.start without)).1 = .ok .done ∧
      ((HostSession.respond .none unplugged (.rebind "ixgbe")).run (.start without)).2.files ≠
        without ∧
      ((HostSession.respond .none unplugged (.rebind "ixgbe")).run (.start without)).2.tally ≠
        .zero := by
  refine ⟨obtained_unplugged, ?_, ?_, ?_, ?_, ?_⟩
  · rw [Handle.Lost]
    decide +kernel
  · decide +kernel
  · decide +kernel
  · decide +kernel
  · decide +kernel

end Session
end SingleRoot
