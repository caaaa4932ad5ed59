/-
# What is loaded can be opened

A descriptor is loaded from a text exactly when what the text holds is sound; otherwise the error is that
of the first rule it violates. `Kind.AdmitsBy` says this of a kind of descriptor, and draws the
consequence for what comes after: the addresses in a descriptor that has been loaded are addresses, so no
opening on a host or in an inventory turns one of them down as malformed. All of it follows from the check
of the kind, `Checks`, in the same way for pools and for endpoints.
-/
import SingleRoot.Descriptor.Load
import SingleRoot.Proofs.Descriptor.Validation
import SingleRoot.Proofs.Session.Causes

namespace SingleRoot.Descriptor

open Device Host Session

namespace Kind

variable {Descriptor : Type} {kind : Kind Descriptor} {descriptor : Descriptor} {machine : Machine}
  {text : String}

/-- Somebody has loaded a descriptor, from a text or from a file. -/
def HasLoaded (kind : Kind Descriptor) (descriptor : Descriptor) : Prop :=
  ∃ machine : Machine,
    (∃ text, ((kind.loadText text).run machine).1 = .ok descriptor) ∨
      ∃ path, ((kind.loadFile path).run machine).1 = .ok descriptor

/-- A kind of descriptor is admitted by its rules. -/
structure AdmitsBy (kind : Kind Descriptor) (Sound : Descriptor → Prop)
    (Violates : Descriptor → Violation → Prop) (addresses : Descriptor → List String) : Prop where
  /-- What can be read from a text is loaded, as it is, exactly if it is sound. -/
  accepted : ∀ text descriptor machine, kind.decode (.ofText text) = .ok descriptor →
    (((kind.loadText text).run machine).1 = .ok descriptor ↔ Sound descriptor)
  /-- Nothing else is loaded from the text. -/
  unchanged : ∀ text loaded machine, ((kind.loadText text).run machine).1 = .ok loaded →
    kind.decode (.ofText text) = .ok loaded
  /-- It is refused exactly with the first violation of the rules. -/
  refused : ∀ text descriptor machine, kind.decode (.ofText text) = .ok descriptor →
    ∀ error, ((kind.loadText text).run machine).1 = .error error ↔
      ∃ violation, Violates descriptor violation ∧ error = .invalidConfig violation.text
  /-- The reason names the device, or the name of the host. -/
  named : ∀ descriptor violation, Violates descriptor violation →
    violation.subject.toList <:+: violation.text.toList ∧
      (violation.subject = "hostName" ∨ violation.subject ∈ addresses descriptor)
  /-- No address of what has been loaded is malformed for those who open it. -/
  openable : ∀ descriptor, kind.HasLoaded descriptor → ∀ address ∈ addresses descriptor,
    (∀ layout role machine malformed, ((HostSession.openAs layout role address).run machine).1 ≠
        .error (.invalidAddress malformed)) ∧
      ∀ (inventory : Inventory) malformed,
        inventory.locate address ≠ .error (.invalidAddress malformed)

theorem result_report (loaded : Except LoadError Descriptor) :
    ((kind.report loaded).run machine).1 = loaded.mapError LoadError.toDeviceError := by
  cases loaded <;> rfl

theorem ofText_of_decode (decoded : kind.decode (.ofText text) = .ok descriptor) :
    kind.ofText text = kind.validate descriptor := by
  rw [ofText, ofDocument, decoded]
  rfl

theorem ofText_eq_ok_iff :
    kind.ofText text = .ok descriptor ↔
      kind.decode (.ofText text) = .ok descriptor ∧ kind.violation? descriptor = none := by
  constructor
  · intro held
    cases decoded : kind.decode (.ofText text) with
    | error error =>
      rw [ofText, ofDocument, decoded] at held
      cases held
    | ok other =>
      rw [ofText_of_decode decoded, validate] at held
      split at held
      · rename_i valid
        cases held
        exact ⟨rfl, valid⟩
      · cases held
  · rintro ⟨decoded, valid⟩
    rw [ofText_of_decode decoded, validate, valid]

theorem loadText_eq_ok_iff :
    ((kind.loadText text).run machine).1 = .ok descriptor ↔
      kind.decode (.ofText text) = .ok descriptor ∧ kind.violation? descriptor = none := by
  rw [loadText, result_report, mapError_eq_ok, ofText_eq_ok_iff]

/-- What can be read is refused for its first violation. -/
theorem loadText_eq_error_iff (decoded : kind.decode (.ofText text) = .ok descriptor)
    {error : DeviceError} :
    ((kind.loadText text).run machine).1 = .error error ↔
      ∃ violation, kind.violation? descriptor = some violation ∧
        error = .invalidConfig violation.text := by
  rw [loadText, result_report, ofText_of_decode decoded, validate]
  cases kind.violation? descriptor with
  | none => simp
  | some violation =>
    show Except.error (.invalidConfig violation.text) = Except.error error ↔ _
    simp only [Except.error.injEq, Option.some.injEq, exists_eq_left', eq_comm]

/-- A descriptor that has been loaded violates nothing. -/
theorem violation?_of_hasLoaded (loaded : kind.HasLoaded descriptor) :
    kind.violation? descriptor = none := by
  obtain ⟨machine, ⟨text, loads⟩ | ⟨path, loads⟩⟩ := loaded
  · exact (loadText_eq_ok_iff.1 loads).2
  · rw [loadFile, Action.run_bind, Action.run_get] at loads
    dsimp only at loads
    rw [result_report, mapError_eq_ok, ofFile] at loads
    cases read : machine.files.readText path with
    | error fault =>
      rw [read] at loads
      cases loads
    | ok text =>
      rw [read] at loads
      exact (ofText_eq_ok_iff.1 loads).2

/-- A kind is admitted by the rules that its check follows, if they ask for addresses. -/
theorem admitsBy_of_checks {Sound : Descriptor → Prop} {Violates : Descriptor → Violation → Prop}
    {addresses : Descriptor → List String} (checks : Checks kind.violation? Sound Violates)
    (subjects : ∀ descriptor violation, Violates descriptor violation →
      violation.subject = "hostName" ∨ violation.subject ∈ addresses descriptor)
    (addressed : ∀ descriptor, Sound descriptor → ∀ address ∈ addresses descriptor,
      Pci.IsAddress address) : kind.AdmitsBy Sound Violates addresses where
  accepted text descriptor machine decoded := by
    rw [loadText_eq_ok_iff, checks.sound]
    exact and_iff_right decoded
  unchanged text loaded machine loads := (loadText_eq_ok_iff.1 loads).1
  refused text descriptor machine decoded error := by
    simp only [loadText_eq_error_iff decoded, checks.violates]
  named descriptor violation violates :=
    ⟨violation.subject_infix_text, subjects descriptor violation violates⟩
  openable descriptor loaded address among := by
    have sound := (checks.sound descriptor).1 (violation?_of_hasLoaded loaded)
    have wellFormed := Pci.isAddressText_iff.2 (addressed descriptor sound address among)
    constructor
    · intro layout role machine malformed refused
      rw [result_openAs] at refused
      have opening := opening_ofAddress machine.files layout address
      cases wellFormed.symm.trans (opening.malformed.1 ⟨_, refused, rfl⟩)
    · intro inventory malformed refused
      have opening := opening_locate inventory address
      cases wellFormed.symm.trans (opening.malformed.1 ⟨_, refused, rfl⟩)

end Kind

/-- Pools and endpoints are admitted by their rules. -/
theorem admitted_by_rules :
    ResourcePool.kind.AdmitsBy ResourcePool.Sound ResourcePool.Violates
        (fun pool => pool.functions.map (·.address)) ∧
      Endpoint.kind.AdmitsBy Endpoint.Sound Endpoint.Violates
        (fun endpoint => endpoint.devices.map (·.address)) := by
  constructor
  · apply Kind.admitsBy_of_checks ResourcePool.checks
    · intro pool violation violates
      exact .inr violates.subject_mem
    · intro pool sound address among
      obtain ⟨function, offered, rfl⟩ := List.mem_map.1 among
      exact (sound function offered).address
  · apply Kind.admitsBy_of_checks Endpoint.checks
    · intro endpoint violation violates
      exact violates.subject_mem
    · intro endpoint sound address among
      obtain ⟨device, exposed, rfl⟩ := List.mem_map.1 among
      exact (sound.devices device exposed).address

/-- A function with two faults is refused for the one that comes first in the rules, not in the text. -/
example :
    ResourcePool.kind.ofText ("physicalFunctions:\n- devicePciAddress: eth0\n  capability: ' '\n" ++
      "  registryDomainName: pool\n") = .error (.violated (.blankCapability "eth0")) := by
  decide +kernel

end SingleRoot.Descriptor
