/-
# What makes a descriptor sound

A descriptor that can be read is checked before it is used. This module says what the rules are, without
the checks: a descriptor is sound if it keeps all of them, and `Violates` says which rule is the first that
it violates, entry by entry in the order of the document. The checks of pools and of endpoints look at the
rules in different orders, so each has its own relation; `Checks` ties a check to the two of its kind, and
it is inherited from an entry to the list of all of them.
-/
import SingleRoot.Descriptor.Endpoint
import SingleRoot.Proofs.Pci.Address
import SingleRoot.Proofs.Text.Trimming

namespace SingleRoot

namespace Descriptor

/-! ## Checks -/

/-- A check finds nothing in what is sound, and otherwise the first violation. -/
structure Checks {α : Type} (check : α → Option Violation) (Sound : α → Prop)
    (Violates : α → Violation → Prop) : Prop where
  sound : ∀ subject, check subject = none ↔ Sound subject
  violates : ∀ subject violation, check subject = some violation ↔ Violates subject violation

/-- Of several entries one violates a rule, and those before it are sound. -/
def FirstViolates {α : Type} (Sound : α → Prop) (Violates : α → Violation → Prop) (entries : List α)
    (violation : Violation) : Prop :=
  ∃ before entry after, entries = before ++ entry :: after ∧ Violates entry violation ∧
    ∀ former ∈ before, Sound former

section Checks

variable {α : Type} {check : α → Option Violation} {Sound : α → Prop}
  {Violates : α → Violation → Prop}

/-- It is enough to follow a check where a rule is violated and where none is, if these are all cases. -/
theorem checks_of_cases (passes : ∀ {subject}, Sound subject → check subject = none)
    (finds : ∀ {subject violation}, Violates subject violation → check subject = some violation)
    (cases_ : ∀ subject, Sound subject ∨ ∃ violation, Violates subject violation) :
    Checks check Sound Violates := by
  constructor
  · intro subject
    constructor
    · intro passed
      rcases cases_ subject with sound | ⟨violation, violates⟩
      · exact sound
      · cases passed.symm.trans (finds violates)
    · exact passes
  · intro subject violation
    constructor
    · intro found
      rcases cases_ subject with sound | ⟨other, violates⟩
      · cases found.symm.trans (passes sound)
      · cases found.symm.trans (finds violates)
        exact violates
    · exact finds

/-- Checking entries one after another finds the first violation of the first entry that has one. -/
theorem Checks.entries (checks : Checks check Sound Violates) :
    Checks (fun entries : List α => entries.findSome? check)
      (fun entries => ∀ entry ∈ entries, Sound entry) (FirstViolates Sound Violates) where
  sound entries := by
    simp only [List.findSome?_eq_none_iff, checks.sound]
  violates entries violation := by
    simp only [List.findSome?_eq_some_iff, checks.sound, checks.violates, FirstViolates]

theorem Checks.sound_or_violates (checks : Checks check Sound Violates) (subject : α) :
    Sound subject ∨ ∃ violation, Violates subject violation := by
  cases found : check subject with
  | none => exact .inl ((checks.sound subject).1 found)
  | some violation => exact .inr ⟨violation, (checks.violates subject violation).1 found⟩

end Checks

/-! ## Pools -/

/-- A function of a pool that keeps the rules. -/
structure PooledFunction.Sound (function : PooledFunction) : Prop where
  domain : ¬ Text.Blank function.domain
  capability : ¬ Text.Blank function.capability
  address : Pci.IsAddress function.address

/-- The first rule that a function of a pool violates. -/
inductive PooledFunction.Violates (function : PooledFunction) : Violation → Prop
  | domain (blank : Text.Blank function.domain) :
      Violates function (.blankDomain function.address)
  | capability (domain : ¬ Text.Blank function.domain) (blank : Text.Blank function.capability) :
      Violates function (.blankCapability function.address)
  | address (domain : ¬ Text.Blank function.domain) (capability : ¬ Text.Blank function.capability)
      (malformed : ¬ Pci.IsAddress function.address) :
      Violates function (.badAddress function.address)

theorem PooledFunction.checks :
    Checks PooledFunction.violation? PooledFunction.Sound PooledFunction.Violates := by
  apply checks_of_cases
  case passes =>
    rintro function ⟨domain, capability, address⟩
    simp [violation?, Text.isBlankText_iff, Pci.isAddressText_iff, domain, capability, address]
  case finds =>
    intro function violation violates
    cases violates with
    | domain blank => simp [violation?, Text.isBlankText_iff, blank]
    | capability domain blank => simp [violation?, Text.isBlankText_iff, domain, blank]
    | address domain capability malformed =>
      simp [violation?, Text.isBlankText_iff, Pci.isAddressText_eq_false_iff, domain,
        capability, malformed]
  case cases_ =>
    intro function
    by_cases domain : Text.Blank function.domain
    · exact .inr ⟨_, .domain domain⟩
    by_cases capability : Text.Blank function.capability
    · exact .inr ⟨_, .capability domain capability⟩
    by_cases address : Pci.IsAddress function.address
    · exact .inl ⟨domain, capability, address⟩
    · exact .inr ⟨_, .address domain capability address⟩

/-- A pool is sound if all its functions are. -/
def ResourcePool.Sound (pool : ResourcePool) : Prop :=
  ∀ function ∈ pool.functions, function.Sound

/-- The first rule that a pool violates, in the order of its functions. -/
def ResourcePool.Violates (pool : ResourcePool) (violation : Violation) : Prop :=
  FirstViolates PooledFunction.Sound PooledFunction.Violates pool.functions violation

theorem ResourcePool.checks :
    Checks ResourcePool.violation? ResourcePool.Sound ResourcePool.Violates where
  sound pool := PooledFunction.checks.entries.sound pool.functions
  violates pool := PooledFunction.checks.entries.violates pool.functions

/-! ## Endpoints -/

/-- A device of an endpoint that keeps the rules. -/
structure ExposedDevice.Sound (device : ExposedDevice) : Prop where
  address : Pci.IsAddress device.address
  capability : ¬ Text.Blank device.capability

/-- The first rule that a device of an endpoint violates. -/
inductive ExposedDevice.Violates (device : ExposedDevice) : Violation → Prop
  | address (malformed : ¬ Pci.IsAddress device.address) :
      Violates device (.badAddress device.address)
  | capability (address : Pci.IsAddress device.address) (blank : Text.Blank device.capability) :
      Violates device (.blankCapability device.address)

theorem ExposedDevice.checks :
    Checks ExposedDevice.violation? ExposedDevice.Sound ExposedDevice.Violates := by
  apply checks_of_cases
  case passes =>
    rintro device ⟨address, capability⟩
    simp [violation?, Text.isBlankText_iff, Pci.isAddressText_iff, address, capability]
  case finds =>
    intro device violation violates
    cases violates with
    | address malformed => simp [violation?, Pci.isAddressText_eq_false_iff, malformed]
    | capability address blank =>
      simp [violation?, Text.isBlankText_iff, Pci.isAddressText_iff, address, blank]
  case cases_ =>
    intro device
    by_cases address : Pci.IsAddress device.address
    · by_cases capability : Text.Blank device.capability
      · exact .inr ⟨_, .capability address capability⟩
      · exact .inl ⟨address, capability⟩
    · exact .inr ⟨_, .address address⟩

/-- An endpoint is sound if its host has a name and all its devices are sound. -/
structure Endpoint.Sound (endpoint : Endpoint) : Prop where
  hostName : ¬ Text.Blank endpoint.hostName
  devices : ∀ device ∈ endpoint.devices, device.Sound

/-- The first rule that an endpoint violates: the name of the host comes before all devices. -/
inductive Endpoint.Violates (endpoint : Endpoint) : Violation → Prop
  | hostName (blank : Text.Blank endpoint.hostName) : Violates endpoint .blankHostName
  | device {violation : Violation} (hostName : ¬ Text.Blank endpoint.hostName)
      (first : FirstViolates ExposedDevice.Sound ExposedDevice.Violates endpoint.devices violation) :
      Violates endpoint violation

theorem Endpoint.checks : Checks Endpoint.violation? Endpoint.Sound Endpoint.Violates := by
  have devices := ExposedDevice.checks.entries
  apply checks_of_cases
  case passes =>
    rintro endpoint ⟨hostName, sound⟩
    simp [violation?, Text.isBlankText_iff, hostName, (devices.sound _).2 sound]
  case finds =>
    intro endpoint violation violates
    cases violates with
    | hostName blank => simp [violation?, Text.isBlankText_iff, blank]
    | device hostName first =>
      simp only [violation?, Text.isBlankText_iff, hostName, if_false]
      exact (devices.violates _ _).2 first
  case cases_ =>
    intro endpoint
    by_cases hostName : Text.Blank endpoint.hostName
    · exact .inr ⟨_, .hostName hostName⟩
    rcases devices.sound_or_violates endpoint.devices with sound | ⟨violation, first⟩
    · exact .inl ⟨hostName, sound⟩
    · exact .inr ⟨violation, .device hostName first⟩

/-! ## Reasons -/

/-- What a violation is about: the device of an address, or the name of the host. -/
def Violation.subject : Violation → String
  | blankHostName => "hostName"
  | blankDomain address | blankCapability address | badAddress address => address

theorem PooledFunction.Violates.subject_eq {function : PooledFunction} {violation : Violation}
    (violates : function.Violates violation) : violation.subject = function.address := by
  cases violates <;> rfl

theorem ExposedDevice.Violates.subject_eq {device : ExposedDevice} {violation : Violation}
    (violates : device.Violates violation) : violation.subject = device.address := by
  cases violates <;> rfl

theorem FirstViolates.exists_mem {α : Type} {Sound : α → Prop} {Violates : α → Violation → Prop}
    {entries : List α} {violation : Violation} (first : FirstViolates Sound Violates entries violation) :
    ∃ entry ∈ entries, Violates entry violation := by
  obtain ⟨before, entry, after, rfl, violates, _⟩ := first
  exact ⟨entry, by simp, violates⟩

/-- What a pool violates is about one of its functions. -/
theorem ResourcePool.Violates.subject_mem {pool : ResourcePool} {violation : Violation}
    (violates : pool.Violates violation) : violation.subject ∈ pool.functions.map (·.address) := by
  obtain ⟨function, offered, broken⟩ := FirstViolates.exists_mem violates
  rw [broken.subject_eq]
  exact List.mem_map_of_mem offered

/-- What an endpoint violates is about its host or about one of its devices. -/
theorem Endpoint.Violates.subject_mem {endpoint : Endpoint} {violation : Violation}
    (violates : endpoint.Violates violation) :
    violation.subject = "hostName" ∨ violation.subject ∈ endpoint.devices.map (·.address) := by
  cases violates with
  | hostName blank => exact .inl rfl
  | device hostName first =>
    obtain ⟨device, exposed, broken⟩ := first.exists_mem
    rw [broken.subject_eq]
    exact .inr (List.mem_map_of_mem exposed)

theorem infix_append_append (front subject back : String) :
    subject.toList <:+: (front ++ subject ++ back).toList := by
  rw [String.toList_append, String.toList_append]
  exact List.infix_append _ _ _

theorem infix_append_right (front subject : String) :
    subject.toList <:+: (front ++ subject).toList := by
  rw [String.toList_append]
  exact (List.suffix_append _ _).isInfix

/-- The text of a violation names what it is about. -/
theorem Violation.subject_infix_text (violation : Violation) :
    violation.subject.toList <:+: violation.text.toList := by
  cases violation with
  | blankHostName => exact infix_append_append "endpoint " "hostName" " must not be empty"
  | blankDomain address => exact infix_append_right _ address
  | blankCapability address => exact infix_append_right _ address
  | badAddress address => exact infix_append_append _ address _

end Descriptor
end SingleRoot
