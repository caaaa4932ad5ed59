/-
# What a device directory says

The record that an inventory keeps of a device can be laid out as a directory of a host: its counts as
files, its group and its driver as links that name them, its interface as the only entry of a directory,
and its virtual functions as numbered links. `Stands` says that the directory of a function is laid out
so. This module reads the record back from it, one query after another; the virtual functions have a
module of their own, `SingleRoot.Proofs.Device.Enumeration`.
-/
import SingleRoot.Inventory
import SingleRoot.Proofs.Device.Driver
import SingleRoot.Proofs.Device.Interface
import SingleRoot.Proofs.Device.Provisioning
import SingleRoot.Proofs.Host.Names
import SingleRoot.Proofs.Host.Overwriting

namespace SingleRoot.Device.Handle

open Host

/-- The entries that tell of a record, apart from the links to virtual functions. -/
def recordEntries : List String :=
  [capacityEntry, configuredEntry, netEntry, iommuGroupEntry, driverEntry]

/-- The place of the function's directory, below the directory of all functions. -/
def home (handle : Handle) (root : Location) : Location :=
  Text.toBytes handle.address :: root

/-- The place of an entry of the function's directory. -/
def place (handle : Handle) (root : Location) (entry : String) : Location :=
  Text.toBytes entry :: handle.home root

/-- The place of an entry tells the entry and the function. -/
theorem place_inj {handle other : Handle} {root : Location} {entry otherEntry : String} :
    handle.place root entry = other.place root otherEntry ↔
      entry = otherEntry ∧ handle.address = other.address := by
  simp [place, home, Text.toBytes_inj]

/-- A file with the given permissions stands at a place and reads as a count. -/
def CountTells (files : FileSystem) (location : Location) (permissions : Permissions)
    (count : UInt32) : Prop :=
  ∃ content, files.tree.node? location = some (.file permissions content) ∧
    Text.count? content = some count

/-- A link stands at a place and its target ends in a name that is read as a value; without a value
there is nothing. -/
def LinkTells {α : Type} (files : FileSystem) (location : Location) (read : String → Option α) :
    Option α → Prop
  | none => files.tree.node? location = none
  | some value => ∃ target name, files.tree.node? location = some (.link target) ∧
      target.fileName?.bind Text.ofBytes? = some name ∧ read name = some value

/-- The directory of a function lays out a record. An index of a virtual function is a count, and so
there cannot be more of them than there are counts. -/
structure Stands (files : FileSystem) (root : Location) (handle : Handle)
    (record : Inventory.Record) : Prop where
  directory : ∃ permissions,
    files.tree.node? (handle.home root) = some (.directory permissions) ∧
      files.caller.may permissions.read = true ∧ files.caller.may permissions.search = true
  capacity : ∃ permissions,
    CountTells files (handle.place root capacityEntry) permissions record.capacity ∧
      files.caller.may permissions.read = true
  configured : ∃ permissions,
    CountTells files (handle.place root configuredEntry) permissions record.configured ∧
      files.caller.may permissions.read = true ∧ files.caller.may permissions.write = true
  net : match record.netInterface with
    | none => files.tree.node? (handle.place root netEntry) = none
    | some interface => ∃ permissions,
        files.tree.node? (handle.place root netEntry) = some (.directory permissions) ∧
          files.caller.may permissions.read = true ∧
          files.tree.entries (handle.place root netEntry) = [.ok (Text.toBytes interface)]
  iommuGroup : LinkTells files (handle.place root iommuGroupEntry) (fun name => Text.word? name.toList)
    record.iommuGroup
  driver : LinkTells files (handle.place root driverEntry) some record.driver
  /-- The link of an index leads to the place of the function that is listed there, which need not
  exist. -/
  linked : ∀ index address, record.virtualFunctions[index]? = some address →
    (∃ target, files.tree.node? (virtualFunctionName index :: handle.home root) =
      some (.link target)) ∧
    ∃ landing, files.resolve .look (handle.directory.join ⟨virtualFunctionName index⟩) = .ok landing ∧
      landing.location = Text.toBytes address :: root
  numbered : ∀ name, (files.tree.node? (name :: handle.home root)).isSome →
    (entryIndex? name).isSome →
      ∃ index < record.virtualFunctions.length, name = virtualFunctionName index
  counted : record.virtualFunctions.length ≤ UInt32.size
  /-- All entries can be read. -/
  sound : ∀ name, files.tree.damage? (handle.home root) name = none
  short : ∀ entry ∈ recordEntries, (handle.entry entry).bytes.length ≤ longestPath

/-- The directory of all functions is at a place and may be searched. -/
def Rooted (layout : Layout) (files : FileSystem) (root : Location) : Prop :=
  ∃ permissions, files.find layout.devicesRoot = .ok (root, .directory permissions) ∧
    files.caller.may permissions.search = true

theorem isNameText_of_mem : ∀ entry ∈ recordEntries, IsNameText entry := by
  decide +kernel

variable {files : FileSystem} {root : Location} {handle : Handle} {record : Inventory.Record}

theorem Rooted.clean {layout : Layout} (rooted : Rooted layout files root) :
    0 ∉ layout.devicesRoot.bytes := by
  obtain ⟨_, found, _⟩ := rooted
  obtain ⟨accepted, _⟩ := FileSystem.find_eq_ok_iff.1 found
  intro among
  simp [HostPath.refusal?, among] at accepted

/-- What follows for the paths of a function whose address names an entry. -/
theorem clean_directory (clean : 0 ∉ handle.layout.devicesRoot.bytes)
    (valid : Pci.isAddressText handle.address = true) : 0 ∉ handle.directory.bytes := by
  have spelled := Pci.isNameText_of_isAddressText valid
  intro among
  obtain before | within := (HostPath.zero_mem_join handle.layout.devicesRoot spelled.plainName).1 among
  · exact clean before
  · exact spelled.zero_notMem within

/-! ## Overwriting a file -/

section Overwriting

variable {after : FileSystem} {written location : Location} {content : Bytes}

theorem vacant_of_overwritten (change : files.Overwritten written content after)
    (vacant : files.tree.node? location = none) : after.tree.node? location = none := by
  rw [change.node?_eq, vacant]
  rfl

theorem link_of_overwritten (change : files.Overwritten written content after) {target : HostPath}
    (there : files.tree.node? location = some (.link target)) :
    after.tree.node? location = some (.link target) := by
  rw [change.node?_eq, there]
  rfl

theorem LinkTells.overwritten {α : Type} {read : String → Option α} {told : Option α}
    (tells : LinkTells files location read told)
    (change : files.Overwritten written content after) : LinkTells after location read told := by
  cases told with
  | none => exact vacant_of_overwritten change tells
  | some value =>
    obtain ⟨target, name, there, named⟩ := tells
    exact ⟨target, name, link_of_overwritten change there, named⟩

end Overwriting

namespace Stands

section Paths

variable (rooted : Rooted handle.layout files root) (valid : Pci.isAddressText handle.address = true)
  (stands : Stands files root handle record)

include rooted valid stands

theorem accepted {entry : String} (listed : entry ∈ recordEntries) :
    (handle.entry entry).refusal? = none :=
  (isNameText_of_mem entry listed).refusal?_join (clean_directory rooted.clean valid)
    (stands.short entry listed)

/-- The directory is found at its place. -/
theorem found : ∃ permissions, files.find handle.directory =
    .ok (handle.home root, .directory permissions) ∧
      files.caller.may permissions.read = true ∧ files.caller.may permissions.search = true := by
  have spelled := Pci.isNameText_of_isAddressText valid
  have clean := rooted.clean
  obtain ⟨_, foundRoot, searchable⟩ := rooted
  obtain ⟨_, _, inside⟩ := FileSystem.find_eq_ok_iff.1 foundRoot
  obtain ⟨permissions, there, granted⟩ := stands.directory
  have listed : driverEntry ∈ recordEntries := by simp [recordEntries]
  have shorter : handle.directory.bytes.length ≤ longestPath :=
    Nat.le_trans (Nat.le_of_lt (HostPath.length_lt_join handle.directory
      (isNameText_of_mem driverEntry listed).plainName)) (stands.short driverEntry listed)
  have entry : files.entryIn root (Text.toBytes handle.address) = .ok (.directory permissions) :=
    FileSystem.entryIn_eq_ok_iff.2 ⟨_, inside, searchable, spelled.length_le, there⟩
  exact ⟨permissions, FileSystem.find_entry foundRoot spelled.plainName
    (spelled.refusal?_join clean shorter) entry (by simp), granted⟩

variable {entry : String} (listed : entry ∈ recordEntries)

include listed

/-- Looking at an entry finds what stands there. -/
theorem entryIn_eq : files.entryIn (handle.home root) (Text.toBytes entry) =
    match files.tree.node? (handle.place root entry) with
    | some node => .ok node
    | none => .error .noSuchEntry := by
  obtain ⟨_, found, _, searchable⟩ := stands.found rooted valid
  obtain ⟨_, _, inside⟩ := FileSystem.find_eq_ok_iff.1 found
  have short := Nat.not_lt_of_le (isNameText_of_mem entry listed).length_le
  rw [FileSystem.entryIn, inside]
  simp only [searchable, short, Bool.not_true, Bool.false_eq_true, if_false]
  rfl

theorem findLink_of_stands {node : Node}
    (there : files.tree.node? (handle.place root entry) = some node) :
    files.findLink (handle.entry entry) = .ok node := by
  obtain ⟨_, found, _⟩ := stands.found rooted valid
  have seen := FileSystem.findLink_entry found (isNameText_of_mem entry listed).plainName
    (stands.accepted rooted valid listed)
  rw [stands.entryIn_eq rooted valid listed, there] at seen
  exact seen

theorem findLink_of_vacant (vacant : files.tree.node? (handle.place root entry) = none) :
    files.findLink (handle.entry entry) = .error (.system .noSuchEntry) := by
  obtain ⟨_, found, _⟩ := stands.found rooted valid
  have seen := FileSystem.findLink_entry found (isNameText_of_mem entry listed).plainName
    (stands.accepted rooted valid listed)
  rw [stands.entryIn_eq rooted valid listed, vacant] at seen
  exact seen

theorem find_of_stands {node : Node}
    (there : files.tree.node? (handle.place root entry) = some node)
    (noLink : ∀ target, node ≠ .link target) :
    files.find (handle.entry entry) = .ok (handle.place root entry, node) := by
  obtain ⟨_, found, _⟩ := stands.found rooted valid
  refine FileSystem.find_entry found (isNameText_of_mem entry listed).plainName
    (stands.accepted rooted valid listed) ?_ noLink
  rw [stands.entryIn_eq rooted valid listed, there]

theorem find_of_vacant (vacant : files.tree.node? (handle.place root entry) = none) :
    files.find (handle.entry entry) = .error (.system .noSuchEntry) := by
  obtain ⟨_, found, _⟩ := stands.found rooted valid
  refine FileSystem.find_entry_error found (isNameText_of_mem entry listed).plainName
    (stands.accepted rooted valid listed) ?_
  rw [stands.entryIn_eq rooted valid listed, vacant]

end Paths

/-! ## The queries -/

section Queries

variable (rooted : Rooted handle.layout files root) (valid : Pci.isAddressText handle.address = true)
  (stands : Stands files root handle record)

include rooted valid stands

theorem readCount_eq {entry : String} (listed : entry ∈ recordEntries) {permissions : Permissions}
    {count : UInt32} (tells : CountTells files (handle.place root entry) permissions count)
    (readable : files.caller.may permissions.read = true) :
    handle.readCount entry files = .ok count := by
  obtain ⟨content, there, counts⟩ := tells
  have found := stands.find_of_stands rooted valid listed there (by simp)
  exact readCount_eq_ok_iff.2 ⟨_, permissions, content, found, readable, counts⟩

theorem capacity_eq : handle.capacity files = .ok record.capacity := by
  obtain ⟨_, tells, readable⟩ := stands.capacity
  exact stands.readCount_eq rooted valid (by simp [recordEntries]) tells readable

theorem configured_eq : handle.configured files = .ok record.configured := by
  obtain ⟨_, tells, readable, _⟩ := stands.configured
  exact stands.readCount_eq rooted valid (by simp [recordEntries]) tells readable

theorem boundDriver_eq : handle.boundDriver files = .ok record.driver := by
  have listed : driverEntry ∈ recordEntries := by simp [recordEntries]
  have tells := stands.driver
  cases held : record.driver with
  | none =>
    rw [held] at tells
    rw [Handle.boundDriver_eq, stands.findLink_of_vacant rooted valid listed tells]
    rfl
  | some driver =>
    rw [held] at tells
    obtain ⟨target, name, there, named, same⟩ := tells
    cases same
    exact boundDriver_eq_some_iff.2
      ⟨target, stands.findLink_of_stands rooted valid listed there, named⟩

/-- A function in a group answers its number, and one without a group says that the link cannot be
resolved. -/
theorem iommuGroup_eq :
    match record.iommuGroup with
    | some group => handle.iommuGroup files = .ok group
    | none => ∃ path reason, handle.iommuGroup files = .error (.resolution handle.address path reason) := by
  have listed : iommuGroupEntry ∈ recordEntries := by simp [recordEntries]
  have tells := stands.iommuGroup
  cases held : record.iommuGroup with
  | none =>
    rw [held] at tells
    have seen := stands.findLink_of_vacant rooted valid listed tells
    exact ⟨_, _, iommuGroup_of_defect (linkName_of_unseen seen)⟩
  | some group =>
    rw [held] at tells
    obtain ⟨target, name, there, named, reads⟩ := tells
    have seen := stands.findLink_of_stands rooted valid listed there
    have links : linkName (handle.entry iommuGroupEntry) files = .ok name :=
      linkName_eq_ok_iff.2 ⟨target, seen, named⟩
    have answers := iommuGroup_of_named links
    dsimp only at reads
    rw [reads] at answers
    exact answers

theorem netInterface_eq :
    handle.netInterface files =
      match record.netInterface with
      | some interface => .ok interface
      | none => .error (.notFound handle.address interfaceResource) := by
  have listed : netEntry ∈ recordEntries := by simp [recordEntries]
  have tells := stands.net
  cases held : record.netInterface with
  | none =>
    rw [held] at tells
    have seen := stands.find_of_vacant rooted valid listed tells
    have unlisted : files.list (handle.entry netEntry) = .error (.system .noSuchEntry) := by
      rw [FileSystem.list, seen]
      rfl
    rw [netInterface_of_fails (.closed unlisted), if_pos rfl]
  | some interface =>
    rw [held] at tells
    obtain ⟨permissions, there, readable, only⟩ := tells
    have seen := stands.find_of_stands rooted valid listed there (by simp)
    have lists : files.list (handle.entry netEntry) = .ok ([Text.toBytes interface].map .ok) :=
      FileSystem.list_eq_ok_iff.2 ⟨_, permissions, seen, readable, only.symm⟩
    rw [netInterface_of_list lists]
    simp [leastName?]

end Queries

/-! ## A number that has been written -/

section Writing

variable {after : FileSystem} {written : Location} {content : Bytes}

/-- A directory lays out its record still when a file has been overwritten that is not the one with the
capacity, if the file with the number of virtual functions now tells of another number. -/
theorem overwritten (stands : Stands files root handle record)
    (change : files.Overwritten written content after)
    (elsewhere : handle.place root capacityEntry ≠ written) {count : UInt32}
    (configured : ∃ permissions,
      CountTells after (handle.place root configuredEntry) permissions count ∧
        after.caller.may permissions.read = true ∧ after.caller.may permissions.write = true) :
    Stands after root handle { record with configured := count } := by
  have caller := change.written.caller
  refine
    { directory := ?_, capacity := ?_, configured := configured, net := ?_, iommuGroup := ?_,
      driver := ?_, linked := ?_, numbered := ?_, counted := stands.counted, sound := ?_,
      short := stands.short }
  · obtain ⟨permissions, there, granted⟩ := stands.directory
    exact ⟨permissions, change.written.directory_iff.2 there, by rwa [caller]⟩
  · obtain ⟨permissions, ⟨old, there, counts⟩, readable⟩ := stands.capacity
    refine ⟨permissions, ⟨old, ?_, counts⟩, by rwa [caller]⟩
    rw [change.written.elsewhere _ elsewhere, there]
  · have net := stands.net
    cases held : record.netInterface with
    | none =>
      rw [held] at net
      exact vacant_of_overwritten change net
    | some interface =>
      rw [held] at net
      obtain ⟨permissions, there, readable, only⟩ := net
      refine ⟨permissions, change.written.directory_iff.2 there, by rwa [caller], ?_⟩
      rw [change.entries_eq, only]
  · exact stands.iommuGroup.overwritten change
  · exact stands.driver.overwritten change
  · intro index address listed
    obtain ⟨⟨target, there⟩, landing, ends, leads⟩ := stands.linked index address listed
    refine ⟨⟨target, link_of_overwritten change there⟩, landing.rewritten written content, ?_, ?_⟩
    · rw [change.resolve_eq, ends]
      rfl
    · rw [Landing.location_rewritten, leads]
  · intro name there indexed
    rw [change.isSome_node?] at there
    exact stands.numbered name there indexed
  · intro name
    rw [change.damage, stands.sound]

/-- The function whose number has been written lays out its record with that number. -/
theorem renumbered (stands : Stands files root handle record) {count : UInt32}
    (change : files.Overwritten (handle.place root configuredEntry)
      (Text.toBytes (Text.decimal count.toNat)) after) :
    Stands after root handle { record with configured := count } := by
  have entries : capacityEntry ≠ configuredEntry := by decide
  obtain ⟨permissions, ⟨old, there, _⟩, granted⟩ := stands.configured
  apply stands.overwritten change
  · intro same
    exact entries (place_inj.1 same).1
  · refine ⟨permissions, ⟨_, ?_, Text.count?_decimal count⟩, by rwa [change.written.caller]⟩
    rw [change.node?_eq, there]
    simp [Node.rewritten]

/-- When the number of another function has been written, a function lays out what it did before. -/
theorem of_renumbered (stands : Stands files root handle record) {other : Handle}
    (different : handle.address ≠ other.address)
    (change : files.Overwritten (other.place root configuredEntry) content after) :
    Stands after root handle record := by
  have apart {entry : String} : handle.place root entry ≠ other.place root configuredEntry := by
    intro same
    exact different (place_inj.1 same).2
  obtain ⟨permissions, ⟨old, there, counts⟩, granted⟩ := stands.configured
  apply stands.overwritten change apart
  exact ⟨permissions, ⟨old, (change.written.elsewhere _ apart).trans there, counts⟩,
    by rwa [change.written.caller]⟩

end Writing

end Stands

end SingleRoot.Device.Handle
