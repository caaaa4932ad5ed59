/-
# Names that stay in their place

Four kinds of names find their way into the paths that are written: the address of a handle, which has
been checked or is where a link has led, and the name of a driver, which has been checked or is what a
link says. `PlainName` is what all of them have in common. A plain name is one more component and no way
out of the directory, so that the components of a path tell where it leads below the two roots. What a
provisioning and a rebind may write is said in these components.
-/
import SingleRoot.Proofs.Device.Provisioning
import SingleRoot.Proofs.Device.Survey
import SingleRoot.Proofs.Host.Names

namespace SingleRoot

open Host

/-- No link leads anywhere by way of a NUL byte; a host cannot store such a link. -/
def Host.Tree.Storable (tree : Tree) : Prop :=
  ∀ location target, tree.node? location = some (.link target) → 0 ∉ target.bytes

namespace Device

/-! ## Names of drivers -/

/-- The name of a driver is plain and has no NUL byte, and nothing else is asked of it. -/
theorem isDriverName_iff {driver : String} :
    isDriverName driver = true ↔ PlainName (Text.toBytes driver) ∧ 0 ∉ Text.toBytes driver := by
  have empty : Text.toBytes driver = [] ↔ driver = "" := by
    rw [← Text.toBytes_inj]
    rfl
  have single : Text.toBytes driver = dot ↔ driver = "." := by
    rw [← Text.toBytes_inj]
    rfl
  have double : Text.toBytes driver = doubleDot ↔ driver = ".." := by
    rw [← Text.toBytes_inj]
    rfl
  have separator : slash ∈ Text.toBytes driver ↔ '/' ∈ driver.toList :=
    Text.mem_toBytes_iff (by decide)
  have nul : 0 ∈ Text.toBytes driver ↔ '\x00' ∈ driver.toList := Text.mem_toBytes_iff (by decide)
  rw [PlainName, Ne, Ne, Ne, empty, single, double, separator, nul, isDriverName]
  have filled : driver.isEmpty = false ↔ ¬ driver = "" := by
    rw [← Bool.not_eq_true, String.isEmpty_iff]
  simp only [Bool.and_eq_true, Bool.not_eq_true', bne_iff_ne, List.all_eq_true, filled]
  grind

namespace Handle

variable {handle : Handle} {files : FileSystem} {driver name : String}

/-- A driver that a link names has a plain name. -/
theorem plainName_of_boundDriver (bound : handle.boundDriver files = .ok (some name)) :
    PlainName (Text.toBytes name) := by
  obtain ⟨target, _, named⟩ := boundDriver_eq_some_iff.1 bound
  obtain ⟨last, ends, reads⟩ := Option.bind_eq_some_iff.1 named
  rw [Text.ofBytes?_eq_some_iff] at reads
  rw [← reads]
  exact (HostPath.plainName_of_fileName? ends).1

/-- A name that a link can hold is one that a rebind accepts. -/
theorem isDriverName_of_boundDriver (storable : files.tree.Storable)
    (bound : handle.boundDriver files = .ok (some name)) : isDriverName name = true := by
  obtain ⟨target, linked, named⟩ := boundDriver_eq_some_iff.1 bound
  obtain ⟨last, ends, reads⟩ := Option.bind_eq_some_iff.1 named
  rw [Text.ofBytes?_eq_some_iff] at reads
  obtain ⟨location, stands⟩ := FileSystem.stands_of_findLink linked
  refine isDriverName_iff.2 ⟨plainName_of_boundDriver bound, ?_⟩
  rw [← reads]
  intro among
  exact storable location target stands ((HostPath.plainName_of_fileName? ends).2 0 among)

/-! ## Where the paths lead -/

/-- A handle whose address is one component, with which its directory continues the devices root. -/
structure Grounded (handle : Handle) : Prop where
  plain : PlainName (Text.toBytes handle.address)
  components : handle.directory.components =
    handle.layout.devicesRoot.components ++ [.name (Text.toBytes handle.address)]

/-- A driver whose name is one component, with which its directory continues the drivers root. -/
structure GroundedDriver (layout : Layout) (driver : String) : Prop where
  plain : PlainName (Text.toBytes driver)
  components : (layout.driverDirectory driver).components =
    layout.driversRoot.components ++ [.name (Text.toBytes driver)]

theorem grounded_of_plain (plain : PlainName (Text.toBytes handle.address)) : handle.Grounded :=
  ⟨plain, HostPath.components_join _ plain⟩

theorem groundedDriver_of_plain (layout : Layout) (plain : PlainName (Text.toBytes driver)) :
    GroundedDriver layout driver :=
  ⟨plain, HostPath.components_join _ plain⟩

/-- Opening checks the address. -/
theorem grounded_of_ofAddress {layout : Layout} {address : String}
    (opens : Handle.ofAddress files layout address = .ok handle) :
    handle = ⟨address, layout⟩ ∧ handle.Grounded := by
  rw [ofAddress, checkAddress] at opens
  cases valid : Pci.isAddressText address with
  | false => simp [valid, bind, Except.bind] at opens
  | true =>
    simp only [valid, if_true, bind, Except.bind] at opens
    split at opens
    · cases opens
      exact ⟨rfl, grounded_of_plain (Pci.isNameText_of_isAddressText valid).plainName⟩
    · cases opens

/-- Every function that an enumeration has found is one that an entry leads to. -/
theorem leads_of_mem {entries : List Entry} {function : Handle}
    (among : function ∈ (handle.survey files entries).handles) :
    ∃ name, handle.Leads files name function := by
  rw [Enumeration.handles, functions_eq, List.map_map] at among
  obtain ⟨row, there, rfl⟩ := List.mem_map.1 among
  exact ⟨row.1, (mem_leading ((perm_byIndex _).mem_iff.1 there)).2.2⟩

/-- Where a link leads there is a name, and it is plain. -/
theorem grounded_of_leads {function : Handle} {name : Name}
    (leads : handle.Leads files name function) :
    function.layout = handle.layout ∧ function.Grounded := by
  obtain ⟨_, resolved, _, ends, layout⟩ := leads
  exact ⟨layout, grounded_of_plain (HostPath.plainName_of_fileName? ends).1⟩

/-! ## What is written -/

section Definitions

variable (handle : Handle)

/-- The components of a path to an entry of the function's directory. -/
def functionFile (entry : String) : List HostPath.Component :=
  handle.layout.devicesRoot.components ++
    [.name (Text.toBytes handle.address), .name (Text.toBytes entry)]

/-- The components of a path to an entry of a driver's directory. -/
def driverFile (driver entry : String) : List HostPath.Component :=
  handle.layout.driversRoot.components ++
    [.name (Text.toBytes driver), .name (Text.toBytes entry)]

/-- What a change of the number of virtual functions may write: the number, to its file. -/
def MayProvision (count : UInt32) (attempt : Attempt) : Prop :=
  attempt.path.components = handle.functionFile configuredEntry ∧
    attempt.content = Text.toBytes (Text.decimal count.toNat)

/-- What a rebind may write: to the override the name of the new driver or an empty line, and the
address to the bind file of the new driver or to the unbind file of another. The drivers have plain
names. -/
def MayRebind (driver : String) (attempt : Attempt) : Prop :=
  (attempt.path.components = handle.functionFile overrideEntry ∧
    (attempt.content = Text.toBytes driver ∨ attempt.content = Text.toBytes "\n")) ∨
  (PlainName (Text.toBytes driver) ∧
    attempt.path.components = handle.driverFile driver bindEntry ∧
    attempt.content = Text.toBytes handle.address) ∨
  ∃ former, PlainName (Text.toBytes former) ∧
    attempt.path.components = handle.driverFile former unbindEntry ∧
    attempt.content = Text.toBytes handle.address

end Definitions

theorem Grounded.components_entry (grounded : handle.Grounded) {entry : String}
    (plain : PlainName (Text.toBytes entry)) :
    (handle.entry entry).components = handle.functionFile entry := by
  have continued : (handle.entry entry).components = handle.directory.components ++ _ :=
    HostPath.components_join _ plain
  rw [continued, grounded.components, List.append_assoc]
  rfl

theorem GroundedDriver.components_entry (grounded : GroundedDriver handle.layout driver)
    {entry : String} (plain : PlainName (Text.toBytes entry)) :
    (handle.layout.driverDirectory driver / entry).components = handle.driverFile driver entry := by
  have continued : (handle.layout.driverDirectory driver / entry).components =
      (handle.layout.driverDirectory driver).components ++ _ :=
    HostPath.components_join _ plain
  rw [continued, grounded.components, List.append_assoc]
  rfl

variable {before after : Machine} {result : Except DeviceError Unit}

/-- The attempts of a provisioning: if it succeeds, one without a fault, unless the number was there. -/
theorem Provisioning.attempts {count : UInt32}
    (provisioning : Provisioning handle count before result after) :
    ∃ made, after.attempts = before.attempts ++ made ∧
      (∀ attempt ∈ made, attempt.writing =
        (handle.entry configuredEntry, Text.toBytes (Text.decimal count.toNat))) ∧
      (result = .ok () → made = if handle.configured before.files = .ok count then [] else
        [⟨handle.entry configuredEntry, Text.toBytes (Text.decimal count.toNat), none⟩]) := by
  cases provisioning with
  | unknown unknown => exact ⟨[], by simp, by simp, by simp⟩
  | unneeded held untouched => exact ⟨[], by simp [untouched.attempts], by simp, by simp [held]⟩
  | refused held other filled wanted => exact ⟨[], by simp, by simp, by simp⟩
  | failed held other throughZero tried =>
    exact ⟨_, tried.attempts, by simp [Attempt.writing], by simp⟩
  | done held other throughZero tried =>
    exact ⟨_, tried.attempts, by simp [Attempt.writing], by simp [held, other]⟩

/-- The attempts of a rebind are planned ones, and there are none for a name that is not accepted. -/
theorem Course.attempts {kernel : Interference}
    (course : Course handle kernel driver before result after) :
    ∃ made, after.attempts = before.attempts ++ made ∧
      (made = [] ∨ isDriverName driver = true ∧ ∃ current,
        handle.boundDriver before.files = .ok current ∧
          ∀ attempt ∈ made, attempt.writing ∈ handle.plannedWrites driver current) := by
  cases course with
  | misnamed misnamed => exact ⟨[], by simp, .inl rfl⟩
  | unknown named unknown => exact ⟨[], by simp, .inl rfl⟩
  | unneeded named bound untouched => exact ⟨[], by simp [untouched.attempts], .inl rfl⟩
  | unreleased named bound other release =>
    obtain ⟨former, fault, rfl, _, attempts⟩ := release.refusal
    refine ⟨_, attempts, .inr ⟨named, _, bound, ?_⟩⟩
    simp [plannedWrites_eq, Attempt.writing]
  | @unrestricted current _ _ _ _ _ named bound other release restriction =>
    obtain ⟨fault, _, attempts⟩ := restriction.refusal
    refine ⟨handle.releasing current ++ [⟨handle.overrideFile, Text.toBytes driver, some fault⟩], ?_,
      .inr ⟨named, _, bound, ?_⟩⟩
    · rw [attempts, release.attempts, List.append_assoc]
    · cases current <;> simp [plannedWrites_eq, releasing, Attempt.writing]
  | @granted current restricted _ _ _ _ _ named bound other release restriction grant =>
    obtain ⟨fault?, cleared, clearing, attempts, _⟩ := grant.outcome
    refine ⟨handle.granting driver current restricted fault? cleared, ?_,
      .inr ⟨named, _, bound, fun attempt among => ?_⟩⟩
    · rw [attempts, restriction.attempts, release.attempts, List.append_assoc, List.append_assoc]
      rfl
    · exact (planned_granting clearing).subset (List.mem_map_of_mem among)

/-- The driver that an error names is the one that the function was bound to. -/
theorem Course.previous {kernel : Interference} {address named : String} {stage : Stage}
    {fault : Fault} (course : Course handle kernel driver before result after)
    (failed : result = .error (.bindFailure address named stage (some name) fault)) :
    handle.boundDriver before.files = .ok (some name) := by
  cases course with
  | misnamed misnamed => cases failed
  | unknown _ unknown =>
    cases failed
    exact absurd unknown boundDriver_ne_bindFailure
  | unneeded _ bound untouched => cases failed
  | unreleased _ bound other release =>
    obtain ⟨former, refusedFor, _, same, _⟩ := release.refusal
    cases failed
    cases same
  | unrestricted _ bound other release restriction =>
    obtain ⟨refusedFor, same, _⟩ := restriction.refusal
    cases failed
    cases same
    exact bound
  | granted _ bound other release restriction grant =>
    obtain ⟨_, _, _, _, ⟨succeeded, _⟩ | ⟨_, _, refused, _⟩⟩ := grant.outcome
    · cases succeeded.symm.trans failed
    · cases refused.symm.trans failed
      exact bound

/-- What a provisioning attempts is what it may write. -/
theorem Grounded.mayProvision (grounded : handle.Grounded) {count : UInt32} {attempt : Attempt}
    (writes : attempt.writing =
      (handle.entry configuredEntry, Text.toBytes (Text.decimal count.toNat))) :
    handle.MayProvision count attempt := by
  obtain ⟨path, content⟩ := Prod.mk.inj writes
  exact ⟨path ▸ grounded.components_entry (by decide), content⟩

/-- What a rebind attempts is what it may write. -/
theorem Grounded.mayRebind (grounded : handle.Grounded) (named : isDriverName driver = true)
    {current : Option String} (bound : handle.boundDriver files = .ok current) {attempt : Attempt}
    (planned : attempt.writing ∈ handle.plannedWrites driver current) :
    handle.MayRebind driver attempt := by
  have override : handle.overrideFile.components = handle.functionFile overrideEntry :=
    grounded.components_entry (by decide)
  rw [plannedWrites_eq, List.mem_append, List.mem_append, List.mem_append, List.mem_map,
    List.mem_singleton, List.mem_singleton, List.mem_singleton] at planned
  rcases planned with ⟨former, held, writes⟩ | writes | writes | writes
  · obtain ⟨path, content⟩ := Prod.mk.inj writes
    rw [Option.mem_toList] at held
    cases held
    have plain := plainName_of_boundDriver bound
    refine .inr (.inr ⟨former, plain, ?_, content.symm⟩)
    rw [← path]
    exact (groundedDriver_of_plain handle.layout plain).components_entry (by decide)
  · obtain ⟨path, content⟩ := Prod.mk.inj writes
    exact .inl ⟨path ▸ override, .inl content⟩
  · obtain ⟨path, content⟩ := Prod.mk.inj writes
    have plain := (isDriverName_iff.1 named).1
    refine .inr (.inl ⟨plain, ?_, content⟩)
    rw [path]
    exact (groundedDriver_of_plain handle.layout plain).components_entry (by decide)
  · obtain ⟨path, content⟩ := Prod.mk.inj writes
    exact .inl ⟨path ▸ override, .inr content⟩

end Handle
end Device
end SingleRoot
