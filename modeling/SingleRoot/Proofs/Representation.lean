/-
# A tree that represents an inventory

A tree represents an inventory when the directory of all functions holds one directory for each device
that is registered, and nothing else, and each of these lays out the record of its device. Then a handle
can be opened in the tree exactly when the device is registered. Provisioning changes one file in the
tree and one number in the inventory, and the tree represents the inventory again.
-/
import SingleRoot.Proofs.Device.Enumeration
import SingleRoot.Proofs.Host.Overwriting
import SingleRoot.Proofs.Inventory

namespace SingleRoot

open Device Host

/-- A tree represents an inventory, the directory of all functions being at a place. -/
structure Represents (layout : Layout) (files : FileSystem) (root : Location)
    (inventory : Inventory) : Prop where
  rooted : Handle.Rooted layout files root
  valid : ∀ address record, inventory.record? address = some record →
    Pci.isAddressText address = true ∧
      ∀ listed ∈ record.virtualFunctions, Pci.isAddressText listed = true
  /-- Every entry below the directory is that of a device. -/
  registered : ∀ name, (files.tree.node? (name :: root)).isSome →
    ∃ address, name = Text.toBytes address ∧ (inventory.record? address).isSome
  stands : ∀ address record, inventory.record? address = some record →
    Handle.Stands files root ⟨address, layout⟩ record

namespace Represents

variable {layout : Layout} {files : FileSystem} {root : Location} {inventory : Inventory}
  {address : String} {record : Inventory.Record}

/-- The directory of a function is there when its device is registered. -/
theorem present_eq (represents : Represents layout files root inventory) (address : String) :
    Handle.present files root address = (inventory.record? address).isSome := by
  rw [Handle.present, Bool.eq_iff_iff]
  constructor
  · intro there
    obtain ⟨other, same, held⟩ := represents.registered _ there
    rwa [Text.toBytes_inj.1 same]
  · intro held
    obtain ⟨record, held⟩ := Option.isSome_iff_exists.1 held
    obtain ⟨_, there, _⟩ := (represents.stands address record held).directory
    exact Option.isSome_iff_exists.2 ⟨_, there⟩

/-- A look at the directory of a function finds it when its device is registered. -/
theorem holds_eq (represents : Represents layout files root inventory)
    (valid : Pci.isAddressText address = true) :
    files.holds (Handle.directory ⟨address, layout⟩) = (inventory.record? address).isSome := by
  rw [FileSystem.holds]
  cases held : inventory.record? address with
  | some record =>
    obtain ⟨_, found, _⟩ := (represents.stands address record held).found represents.rooted valid
    rw [found]
    rfl
  | none =>
    have spelled := Pci.isNameText_of_isAddressText valid
    have vacant : files.tree.node? (Text.toBytes address :: root) = none := by
      have absent := represents.present_eq address
      rw [held] at absent
      simpa [Handle.present] using absent
    obtain ⟨permissions, found, searchable⟩ := represents.rooted
    obtain ⟨_, _, inside⟩ := FileSystem.find_eq_ok_iff.1 found
    have fails : files.entryIn root (Text.toBytes address) = .error .noSuchEntry := by
      simp [FileSystem.entryIn, inside, searchable, Nat.not_lt_of_le spelled.length_le, vacant]
    show (files.find (layout.devicesRoot.join ⟨Text.toBytes address⟩)).isOk = false
    cases refused : (layout.devicesRoot.join ⟨Text.toBytes address⟩).refusal? with
    | some fault =>
      rw [FileSystem.find_eq, refused]
      rfl
    | none =>
      rw [FileSystem.find_entry_error found spelled.plainName refused fails]
      rfl

/-- A handle can be opened when the device is registered, and fails to open alike otherwise. -/
theorem ofAddress_eq (represents : Represents layout files root inventory) (address : String) :
    Handle.ofAddress files layout address =
      (inventory.locate address).map fun address => ⟨address, layout⟩ := by
  rw [Handle.ofAddress, Inventory.locate, checkAddress]
  by_cases valid : Pci.isAddressText address = true
  · have holds := represents.holds_eq valid
    rw [if_pos valid]
    cases held : inventory.record? address with
    | some record =>
      rw [held] at holds
      simp [holds, bind, Except.bind, pure, Except.pure, Except.map]
    | none =>
      rw [held] at holds
      simp [holds, bind, Except.bind, Except.map, throw, throwThe, MonadExceptOf.throw,
        deviceResource]
  · rw [if_neg valid]
    rfl

/-! ## Provisioning -/

/-- The file of a device has been given a number, and the device is registered with that number. -/
theorem provisioned {after : FileSystem} {count : UInt32}
    (represents : Represents layout files root inventory)
    (held : inventory.record? address = some record)
    (change : files.Overwritten (Handle.place ⟨address, layout⟩ root configuredEntry)
      (Text.toBytes (Text.decimal count.toNat)) after) :
    Represents layout after root (inventory.register address { record with configured := count }) := by
  constructor
  · obtain ⟨permissions, found, searchable⟩ := represents.rooted
    exact ⟨permissions, change.written.find_directory_iff.2 found, by rwa [change.written.caller]⟩
  · intro other kept heldNow
    rw [Inventory.record?_register] at heldNow
    by_cases same : other = address
    · rw [if_pos same] at heldNow
      cases heldNow
      rw [same]
      exact represents.valid address record held
    · rw [if_neg same] at heldNow
      exact represents.valid other kept heldNow
  · intro name there
    rw [change.isSome_node?] at there
    obtain ⟨other, spelled, heldOther⟩ := represents.registered name there
    exact ⟨other, spelled, Inventory.isSome_record?_register heldOther⟩
  · intro other kept heldNow
    rw [Inventory.record?_register] at heldNow
    by_cases same : other = address
    · rw [if_pos same] at heldNow
      cases heldNow
      rw [same]
      exact (represents.stands address record held).renumbered change
    · rw [if_neg same] at heldNow
      exact (represents.stands other kept heldNow).of_renumbered same change

/-- An inventory is represented by what each address is registered with. -/
theorem of_record? {other : Inventory} (represents : Represents layout files root inventory)
    (same : ∀ address, other.record? address = inventory.record? address) :
    Represents layout files root other := by
  have stands := represents.stands
  have valid := represents.valid
  have registered := represents.registered
  simp only [← same] at stands valid registered
  exact ⟨represents.rooted, valid, registered, stands⟩

/-- A provisioning ends alike in the tree and in the inventory, and afterwards the tree represents the
inventory again. -/
theorem provision_alike {machine : Machine} (represents : Represents layout machine.files root inventory)
    (held : inventory.record? address = some record) (count : UInt32) :
    (∃ after, (Handle.provision ⟨address, layout⟩ count).run machine = (.ok (), after) ∧
      inventory.provision address count =
        .ok (inventory.register address { record with configured := count }) ∧
      Represents layout after.files root
        (inventory.register address { record with configured := count })) ∨
    ∃ error, (Handle.provision ⟨address, layout⟩ count).run machine = (.error error, machine) ∧
      inventory.provision address count = .error error := by
  have stands := represents.stands address record held
  have valid := (represents.valid address record held).1
  have reads := stands.configured_eq represents.rooted valid
  obtain ⟨permissions, ⟨old, there, _⟩, _, writable⟩ := stands.configured
  have found := stands.find_of_stands represents.rooted valid
    (by simp [Handle.recordEntries]) there (by simp)
  have writes := FileSystem.write_of_find found writable (Text.toBytes (Text.decimal count.toNat))
  cases ran : (Handle.provision ⟨address, layout⟩ count).run machine with
  | mk result after =>
    cases Handle.provisioning_of_run ran with
    | unknown unknown => cases reads.symm.trans unknown
    | unneeded same untouched =>
      cases reads.symm.trans same
      refine .inl ⟨after, rfl, ?_, ?_⟩
      · rw [Inventory.provision_eq held, if_neg]
        intro other
        exact other.1 rfl
      · rw [untouched.files]
        apply represents.of_record?
        intro other
        rw [Inventory.record?_register]
        by_cases here : other = address
        · rw [if_pos here, here, held]
        · rw [if_neg here]
    | refused same other filled wanted =>
      cases reads.symm.trans same
      refine .inr ⟨_, rfl, ?_⟩
      rw [Inventory.provision_eq held, if_pos ⟨other, filled, wanted⟩]
    | failed same other throughZero tried =>
      cases writes.symm.trans (tried.failed _ rfl).1
    | done same other throughZero tried =>
      cases reads.symm.trans same
      refine .inl ⟨after, rfl, Inventory.provision_through_zero held throughZero, ?_⟩
      apply represents.provisioned held
      have made := writes.symm.trans (tried.made rfl)
      rw [← Except.ok.inj made]
      exact FileSystem.overwritten_put there

end Represents

/-! ## A tree and an inventory -/

namespace Represents.Sample

/-- A location, spelled from the root. -/
def place (names : List String) : Location :=
  (names.map Text.toBytes).reverse

def layout : Layout := .below (.ofText "/pci")

/-- The address of a physical function. -/
def parent : String := "0000:01:00.0"

/-- The address of its first virtual function. -/
def child : String := "0000:01:10.0"

/-- The address of its second virtual function, which is not there. -/
def missing : String := "0000:01:10.2"

def devices : Inventory :=
  ⟨[(parent, ⟨some "ens1f0", some 12, some "ixgbe", 8, 0, [child, missing]⟩), (child, .bare)]⟩

/-- The links to the virtual functions are listed in the wrong order. -/
def files : FileSystem :=
  ⟨{ rows := [(place ["pci"], .directory .newDirectory),
      (place ["pci", "devices"], .directory .newDirectory),
      (place ["pci", "devices", parent], .directory .newDirectory),
      (place ["pci", "devices", parent, "sriov_totalvfs"], .file .newFile (Text.toBytes "8\n")),
      (place ["pci", "devices", parent, "sriov_numvfs"], .file .newFile (Text.toBytes "0\n")),
      (place ["pci", "devices", parent, "net"], .directory .newDirectory),
      (place ["pci", "devices", parent, "net", "ens1f0"], .directory .newDirectory),
      (place ["pci", "devices", parent, "iommu_group"], .link (.ofText "../../../groups/12")),
      (place ["pci", "devices", parent, "driver"], .link (.ofText "../../drivers/ixgbe")),
      (place ["pci", "devices", parent, "virtfn1"], .link (.ofText "../0000:01:10.2")),
      (place ["pci", "devices", parent, "virtfn0"], .link (.ofText "../0000:01:10.0")),
      (place ["pci", "devices", child], .directory .newDirectory),
      (place ["pci", "devices", child, "sriov_totalvfs"], .file .newFile (Text.toBytes "0\n")),
      (place ["pci", "devices", child, "sriov_numvfs"], .file .newFile (Text.toBytes "0\n"))] },
    [], .owner⟩

/-- The directory of all functions. -/
def root : Location := place ["pci", "devices"]

theorem stands_parent : Handle.Stands files root ⟨parent, layout⟩
    ⟨some "ens1f0", some 12, some "ixgbe", 8, 0, [child, missing]⟩ := by
  constructor
  · exact ⟨.newDirectory, by decide +kernel⟩
  · exact ⟨.newFile, ⟨Text.toBytes "8\n", by decide +kernel⟩, by decide⟩
  · exact ⟨.newFile, ⟨Text.toBytes "0\n", by decide +kernel⟩, by decide⟩
  · exact ⟨.newDirectory, by decide +kernel⟩
  · exact ⟨.ofText "../../../groups/12", "12", by decide +kernel⟩
  · exact ⟨.ofText "../../drivers/ixgbe", "ixgbe", by decide +kernel⟩
  · intro index address listed
    rcases index with _ | _ | index
    · cases listed
      exact ⟨⟨.ofText "../0000:01:10.0", by decide +kernel⟩,
        .present (Text.toBytes child :: root) (.directory .newDirectory), by decide +kernel⟩
    · cases listed
      exact ⟨⟨.ofText "../0000:01:10.2", by decide +kernel⟩,
        .vacant root (Text.toBytes missing), by decide +kernel⟩
    · cases listed
  · have links : ∀ name ∈ files.tree.children (Handle.home ⟨parent, layout⟩ root),
        (entryIndex? name).isSome → ∃ index < 2, name = virtualFunctionName index := by
      decide +kernel
    intro name there
    exact links name (Tree.mem_children.2 there)
  · decide
  · exact fun _ => rfl
  · decide +kernel

theorem stands_child : Handle.Stands files root ⟨child, layout⟩ .bare := by
  constructor
  · exact ⟨.newDirectory, by decide +kernel⟩
  · exact ⟨.newFile, ⟨Text.toBytes "0\n", by decide +kernel⟩, by decide⟩
  · exact ⟨.newFile, ⟨Text.toBytes "0\n", by decide +kernel⟩, by decide⟩
  · show files.tree.node? _ = none
    decide +kernel
  · show files.tree.node? _ = none
    decide +kernel
  · show files.tree.node? _ = none
    decide +kernel
  · intro index address listed
    cases listed
  · have noLinks : ∀ name ∈ files.tree.children (Handle.home ⟨child, layout⟩ root),
        (entryIndex? name).isSome = false := by
      decide +kernel
    intro name there indexed
    rw [noLinks name (Tree.mem_children.2 there)] at indexed
    cases indexed
  · decide
  · exact fun _ => rfl
  · decide +kernel

/-- What is registered is one of the two devices. -/
theorem record?_cases {address : String} {record : Inventory.Record}
    (held : devices.record? address = some record) :
    (address = parent ∧ record = ⟨some "ens1f0", some 12, some "ixgbe", 8, 0, [child, missing]⟩) ∨
      (address = child ∧ record = .bare) := by
  obtain ⟨front, back, split, _⟩ := List.lookup_eq_some_iff.1 held
  have among : (address, record) ∈ devices.records := by simp [split]
  simpa [devices] using among

theorem represents : Represents layout files root devices := by
  constructor
  · exact ⟨.newDirectory, by decide +kernel⟩
  · intro address record held
    rcases record?_cases held with ⟨rfl, rfl⟩ | ⟨rfl, rfl⟩
    · decide +kernel
    · decide +kernel
  · have entries : ∀ name ∈ files.tree.children root,
        name = Text.toBytes parent ∨ name = Text.toBytes child := by
      decide +kernel
    intro name there
    rcases entries name (Tree.mem_children.2 there) with rfl | rfl
    · exact ⟨parent, rfl, by decide +kernel⟩
    · exact ⟨child, rfl, by decide +kernel⟩
  · intro address record held
    rcases record?_cases held with ⟨rfl, rfl⟩ | ⟨rfl, rfl⟩
    · exact stands_parent
    · exact stands_child

end Represents.Sample

end SingleRoot
