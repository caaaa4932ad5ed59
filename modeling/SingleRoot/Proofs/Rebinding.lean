/-
# Rebinding on a host and in an inventory

The host of an inventory has a directory for each registered device, with a link that names the driver of its
record, and directories for the drivers. The kernel takes the link away when a function is released and makes
it anew when a function is bound. A rebind of a registered device then agrees with the rebind of its record if
both drivers have names that the host accepts, and only then: an inventory binds a device to a driver whatever
it is called, so that there is nothing on its side that a refusal of the host could agree with.

The directories are asked for in the tree without the link of the device. A path to the drivers that goes
through this very link would be lost in the middle of the rebind.
-/
import SingleRoot.Proofs.Device.Binding
import SingleRoot.Proofs.Device.Readiness
import SingleRoot.Proofs.Device.Standing
import SingleRoot.Proofs.Inventory

namespace SingleRoot

open Device Host
open Device.Handle (LinkTells Nameable Offers Withdraws boundDriver_of_link boundDriver_of_vacant driverName
  nameable_of_rebind ready_of_rebind untouched_of_bound)

/-- A tree represents the drivers of an inventory, the directory of each device being at a place. The host has
directories for the drivers that it knows, as far as their names allow that. -/
structure RepresentsDrivers (layout : Layout) (files : FileSystem) (home : String → Location)
    (known : String → Prop) (inventory : Inventory) : Prop where
  furnished : ∀ address record, inventory.record? address = some record →
    Handle.Furnished ⟨address, layout⟩ (home address) (files.without (driverName :: home address))
  accepted : ∀ address record, inventory.record? address = some record →
    (Handle.entry ⟨address, layout⟩ driverEntry).refusal? = none
  linked : ∀ address record, inventory.record? address = some record →
    LinkTells files (driverName :: home address) some record.driver
  bound : ∀ address record driver, inventory.record? address = some record →
    record.driver = some driver → known driver
  offers : ∀ address record, inventory.record? address = some record →
    ∀ driver entry, known driver → entry ∈ [bindEntry, unbindEntry] → Nameable layout driver entry →
      Offers layout (files.without (driverName :: home address)) driver entry

/-- The kernel has made the link to a driver and nothing else. -/
structure LinkMade (home : Location) (driver : String) (before after : FileSystem) : Prop where
  caller : after.caller = before.caller
  workingDirectory : after.workingDirectory = before.workingDirectory
  linked : Housing.Linked after.tree home driver
  elsewhere : ∀ other, other ≠ driverName :: home → after.tree.node? other = before.tree.node? other

/-- What the kernel leaves of the files after a rebind: it makes the link to the driver if the bind write has
been made. -/
def SettledBy (handle : Handle) (home : Location) (driver : String) (after : Machine)
    (settled : FileSystem) : Prop :=
  if ⟨handle.bindFile driver, Text.toBytes handle.address, none⟩ ∈ after.attempts then
    LinkMade home driver after.files settled
  else settled = after.files

/-- A rebind on a host and one in an inventory agree: both succeed and the driver is bound on both sides, or
both fail in the same way and nothing has changed. An inventory whose rebind fails is never changed. -/
inductive RebindsAgree (handle : Handle) (driver : String) (before after settled : FileSystem) :
    Except DeviceError Unit → Except DeviceError Inventory → Prop
  | bound {next : Inventory} (host : handle.boundDriver settled = .ok (some driver))
      (stub : next.boundDriver handle.address = .ok (some driver)) :
      RebindsAgree handle driver before after settled (.ok ()) (.ok next)
  | refused {address name : String} {stage : Stage} {previous : Option String} {fault other : Fault}
      (unchanged : after = before) :
      RebindsAgree handle driver before after settled
        (.error (.bindFailure address name stage previous fault))
        (.error (.bindFailure address name stage previous other))

section Agreement

variable {layout : Layout} {files settled : FileSystem} {home : String → Location}
  {known : String → Prop} {inventory : Inventory} {address driver : String}
  {record : Inventory.Record} {kernel : Interference} {result : Except DeviceError Unit}
  {after : Machine}

/-- A function without a driver is bound to the one that the kernel links it to. -/
theorem boundDriver_of_linkMade {handle : Handle} {place : Location} {before : FileSystem}
    (ready : handle.Ready place driver before) (accepted : (handle.entry driverEntry).refusal? = none)
    (made : LinkMade place driver before settled) : handle.boundDriver settled = .ok (some driver) := by
  have within : before.Within settled := by
    refine ⟨made.caller, made.workingDirectory, fun location node stands => ?_⟩
    rw [made.elsewhere, stands]
    rintro rfl
    cases ready.free.symm.trans stands
  obtain ⟨permissions, found, searchable⟩ := ready.furnished.directory
  obtain ⟨target, stands, named⟩ := Housing.linked_iff.1 made.linked
  exact boundDriver_of_link (within.find found) accepted (made.caller ▸ searchable) stands named

/-- An inventory never refuses, so there is agreement just when the host does not refuse either. -/
theorem rebindsAgree_iff (held : inventory.record? address = some record) {before ended : FileSystem} :
    RebindsAgree ⟨address, layout⟩ driver before ended settled result (inventory.rebind address driver) ↔
      result = .ok () ∧ Handle.boundDriver ⟨address, layout⟩ settled = .ok (some driver) := by
  rw [Inventory.rebind_eq held]
  constructor
  · intro agree
    cases agree with
    | bound host stub => exact ⟨rfl, host⟩
  · rintro ⟨rfl, host⟩
    exact .bound host (inventory.boundDriver_register address _)

namespace RepresentsDrivers

variable (represents : RepresentsDrivers layout files home known inventory)
  (held : inventory.record? address = some record)

include represents held

/-- A query on the host answers what the record says. -/
theorem boundDriver_eq : Handle.boundDriver ⟨address, layout⟩ files = .ok record.driver := by
  have gone := files.withdrawn_without (List.cons_ne_nil driverName (home address))
  obtain ⟨permissions, found, searchable⟩ := (represents.furnished address record held).directory
  have foundToo := gone.within.find found
  have accepted := represents.accepted address record held
  have tells := represents.linked address record held
  cases bound : record.driver with
  | none =>
    rw [bound] at tells
    exact boundDriver_of_vacant foundToo accepted searchable tells
  | some driver =>
    rw [bound] at tells
    obtain ⟨target, name, stands, named, same⟩ := tells
    cases same
    exact boundDriver_of_link foundToo accepted searchable stands named

theorem releasable
    (nameable : ∀ former, record.driver = some former → Nameable layout former unbindEntry) :
    Handle.Releasable ⟨address, layout⟩ (home address) record.driver files
      (files.without (driverName :: home address)) where
  gone := files.withdrawn_without (List.cons_ne_nil _ _)
  free unbound := by
    have tells := represents.linked address record held
    rw [unbound] at tells
    exact tells
  nameable := nameable
  offers former bound := represents.offers address record held former unbindEntry
    (represents.bound address record former held bound) (by simp) (nameable former bound)

theorem ready (wanted : known driver) (nameable : Nameable layout driver bindEntry) :
    Handle.Ready ⟨address, layout⟩ (home address) driver
      (files.without (driverName :: home address)) where
  free := (files.withdrawn_without (List.cons_ne_nil _ _)).vacant
  furnished := represents.furnished address record held
  offers := represents.offers address record held driver bindEntry wanted (by simp) nameable

/-- A rebind on the host and one in the inventory agree just when the drivers have names that the host
accepts, or the device is bound to the driver already. -/
theorem rebindsAgree_iff_nameable (wanted : known driver)
    (withdraws : Withdraws kernel (driverName :: home address))
    (ran : (Handle.rebind ⟨address, layout⟩ kernel driver).run (.start files) = (result, after))
    (settles : SettledBy ⟨address, layout⟩ (home address) driver after settled) :
    RebindsAgree ⟨address, layout⟩ driver files after.files settled result
        (inventory.rebind address driver) ↔
      isDriverName driver = true ∧ (record.driver = some driver ∨
        Nameable layout driver bindEntry ∧
          ∀ former, record.driver = some former → Nameable layout former unbindEntry) := by
  rw [rebindsAgree_iff held]
  have seen : Handle.boundDriver ⟨address, layout⟩ (Machine.start files).files = .ok record.driver :=
    represents.boundDriver_eq held
  constructor
  · rintro ⟨rfl, _⟩
    exact nameable_of_rebind withdraws seen ran
  · rintro ⟨named, nameable⟩
    by_cases same : record.driver = some driver
    · -- nothing is done, and nothing is left to the kernel
      rw [same] at seen
      obtain ⟨rfl, untouched⟩ := untouched_of_bound named seen ran
      rw [SettledBy, untouched.attempts, if_neg (by simp [Machine.start])] at settles
      rw [settles, untouched.files]
      exact ⟨rfl, seen⟩
    · obtain ⟨nameable, nameableFormer⟩ := nameable.resolve_left same
      obtain ⟨rfl, ready, made⟩ := ready_of_rebind withdraws seen same nameable
        (represents.releasable held nameableFormer) (represents.ready held wanted nameable) ran
      rw [SettledBy, if_pos made] at settles
      exact ⟨rfl, boundDriver_of_linkMade ready (represents.accepted address record held) settles⟩

end RepresentsDrivers

end Agreement

/-! ## A device on a host and in an inventory -/

namespace RepresentsDrivers.Sample

open Device.Sample (place layout address)

/-- One device that is bound. -/
def devices : Inventory :=
  ⟨[(address, { Inventory.Record.bare with driver := some "ixgbe" })]⟩

/-- The place of a function's directory. -/
def home (address : String) : Location := place ["devices", address]

/-- The names of drivers that are asked for. The last one is no name. -/
def known (driver : String) : Prop :=
  driver ∈ ["ixgbe", "vfio-pci", "a/b"]

def files : FileSystem :=
  Device.Sample.files.withTree
    (Device.Sample.files.tree.put (place ["drivers", "vfio-pci", "bind"]) (.file .newFile []))

/-- The kernel takes the link away when the function has been released. -/
def kernel : Interference
  | .afterUnbind, tree => tree.remove (driverName :: home address)
  | .before _, tree => tree

/-- The files after a rebind to `vfio-pci`, with the link that the kernel makes. -/
def settled (after : FileSystem) : FileSystem :=
  after.withTree (after.tree.put (driverName :: home address) (.link (.ofText "../../drivers/vfio-pci")))

theorem withdraws : Withdraws kernel (driverName :: home address) :=
  ⟨fun _ _ => rfl, fun _ _ => rfl⟩

theorem linkMade (after : FileSystem) : LinkMade (home address) "vfio-pci" after (settled after) where
  caller := rfl
  workingDirectory := rfl
  linked := by
    rw [Housing.linked_iff]
    refine ⟨.ofText "../../drivers/vfio-pci", ?_, by decide +kernel⟩
    simp [settled, FileSystem.withTree, Tree.node?_put]
  elsewhere other away := by
    simp [settled, FileSystem.withTree, Tree.node?_put, away]

theorem record?_eq {other : String} {record : Inventory.Record}
    (held : devices.record? other = some record) :
    other = address ∧ record = { Inventory.Record.bare with driver := some "ixgbe" } := by
  obtain ⟨front, back, split, _⟩ := List.lookup_eq_some_iff.1 held
  have among : (other, record) ∈ devices.records := by simp [split]
  simpa [devices] using among

theorem represents : RepresentsDrivers layout files home known devices where
  furnished other record held := by
    obtain ⟨rfl, rfl⟩ := record?_eq held
    exact ⟨⟨.newDirectory, by decide +kernel, by decide⟩,
      .inr ⟨.newFile, [], by decide +kernel, by decide⟩⟩
  accepted other record held := by
    obtain ⟨rfl, rfl⟩ := record?_eq held
    decide +kernel
  linked other record held := by
    obtain ⟨rfl, rfl⟩ := record?_eq held
    exact ⟨.ofText "../../drivers/ixgbe", "ixgbe", by decide +kernel⟩
  bound other record driver held bound := by
    obtain ⟨rfl, rfl⟩ := record?_eq held
    cases bound
    simp [known]
  offers other record held driver entry wanted listed nameable := by
    obtain ⟨rfl, rfl⟩ := record?_eq held
    simp only [known, List.mem_cons, List.not_mem_nil, or_false] at wanted listed
    rcases wanted with rfl | rfl | rfl
    · refine ⟨place ["drivers", "ixgbe"], .directory .newDirectory, by decide +kernel, ?_⟩
      rcases listed with rfl | rfl <;> decide +kernel
    · refine ⟨place ["drivers", "vfio-pci"], .directory .newDirectory, by decide +kernel, ?_⟩
      rcases listed with rfl | rfl <;> decide +kernel
    · exact absurd nameable.named (by decide)

end RepresentsDrivers.Sample

open RepresentsDrivers.Sample
open Device.Sample (layout address)

/-- Both sides rebind the device of the sample to a driver of the host. -/
theorem rebindsAgree_iff_nameable_sample :
    ∃ after, (Handle.rebind ⟨address, layout⟩ kernel "vfio-pci").run (.start files) = (.ok (), after) ∧
      RebindsAgree ⟨address, layout⟩ "vfio-pci" files after.files (settled after.files) (.ok ())
        (devices.rebind address "vfio-pci") := by
  have held : devices.record? address = some { Inventory.Record.bare with driver := some "ixgbe" } := by
    decide +kernel
  have wanted : known "vfio-pci" := by simp [known]
  have succeeds : ((Handle.rebind ⟨address, layout⟩ kernel "vfio-pci").run (.start files)).1 =
      .ok () := by
    decide +kernel
  have made : ⟨Handle.bindFile ⟨address, layout⟩ "vfio-pci", Text.toBytes address, none⟩ ∈
      ((Handle.rebind ⟨address, layout⟩ kernel "vfio-pci").run (.start files)).2.attempts := by
    decide +kernel
  have nameable : Nameable layout "vfio-pci" bindEntry :=
    ⟨by decide, by decide +kernel, by decide +kernel⟩
  have nameableFormer : Nameable layout "ixgbe" unbindEntry :=
    ⟨by decide, by decide +kernel, by decide +kernel⟩
  cases ran : (Handle.rebind ⟨address, layout⟩ kernel "vfio-pci").run (.start files) with
  | mk result after =>
    rw [ran] at succeeds made
    obtain rfl : result = .ok () := succeeds
    have settles : SettledBy ⟨address, layout⟩ (home address) "vfio-pci" after
        (settled after.files) := by
      rw [SettledBy, if_pos made]
      exact linkMade after.files
    have agree := represents.rebindsAgree_iff_nameable held wanted withdraws ran settles
    refine ⟨after, rfl, agree.2 ⟨by decide, .inr ⟨nameable, ?_⟩⟩⟩
    rintro former ⟨⟩
    exact nameableFormer

/-- The host refuses a name that is none, and the inventory takes it. -/
theorem misnamed_rebinds_disagree :
    RepresentsDrivers layout files home known devices ∧
      Withdraws kernel (driverName :: home address) ∧ known "a/b" ∧
      ∃ error after next,
        (Handle.rebind ⟨address, layout⟩ kernel "a/b").run (.start files) = (.error error, after) ∧
        SettledBy ⟨address, layout⟩ (home address) "a/b" after after.files ∧
        devices.rebind address "a/b" = .ok next ∧
        ¬ RebindsAgree ⟨address, layout⟩ "a/b" files after.files after.files (.error error) (.ok next) := by
  have ran : (Handle.rebind ⟨address, layout⟩ kernel "a/b").run (.start files) =
      (.error (.bindFailure address "a/b" .bind none .invalidDriverName), .start files) := rfl
  have settles : SettledBy ⟨address, layout⟩ (home address) "a/b" (.start files) files := by
    rw [SettledBy, if_neg (by simp [Machine.start])]
    rfl
  refine ⟨represents, withdraws, by simp [known], _, _, _, ran, settles, rfl, ?_⟩
  intro agree
  cases agree

end SingleRoot
