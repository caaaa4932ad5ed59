/-
# What an error is about

Every error names the device it is about, and callers tell errors apart by their cause. A handle answers
for its own address alone, also where an enumeration has handed it out, and each request has few causes to
fail for, whatever the host comes up with. `Request.causes` lists them, and `Blames` says of an error that
it keeps to an address and to a list of causes.

The causes of a request are collected from below: first those of the queries, then those of a provisioning
and of a rebind, which go through the ways that `Provisioning` and `Course` list, and then the requests of
a session are these calls one by one.
-/
import SingleRoot.Proofs.Device.Course
import SingleRoot.Proofs.Device.Interface
import SingleRoot.Proofs.Device.Opening
import SingleRoot.Proofs.Device.Provisioning
import SingleRoot.Proofs.Session.Locality
import SingleRoot.Proofs.Session.Turns

namespace SingleRoot.Device

open Host

/-- The cause of an error, its facts apart. -/
inductive Cause where
  | notFound
  | invalidAddress
  | io
  | parse
  | resolution
  | bindFailure
  | alreadyProvisioned
  | invalidConfig
  deriving DecidableEq

namespace DeviceError

def cause : DeviceError → Cause
  | notFound _ _ => .notFound
  | invalidAddress _ => .invalidAddress
  | io _ _ _ => .io
  | parse _ _ _ => .parse
  | resolution _ _ _ => .resolution
  | bindFailure _ _ _ _ _ => .bindFailure
  | alreadyProvisioned _ _ _ => .alreadyProvisioned
  | invalidConfig _ => .invalidConfig

/-- An error is about a device and has one of some causes. -/
def Blames (error : DeviceError) (address : String) (causes : List Cause) : Prop :=
  error.address? = some address ∧ error.cause ∈ causes

end DeviceError

namespace Handle

variable {handle : Handle} {files : FileSystem} {error : DeviceError}

/-! ## Queries -/

theorem blames_of_netInterface (failed : handle.netInterface files = .error error) :
    error.Blames handle.address [.notFound, .io] := by
  have told := interfaceTold_netInterface handle files
  rw [failed] at told
  cases told with
  | nameless => exact ⟨rfl, .head _⟩
  | absent => exact ⟨rfl, .head _⟩
  | unlisted => exact ⟨rfl, .tail _ (.head _)⟩

theorem blames_of_iommuGroup (failed : handle.iommuGroup files = .error error) :
    error.Blames handle.address [.resolution] := by
  rw [iommuGroup_eq] at failed
  split at failed
  · cases failed
    exact ⟨rfl, .head _⟩
  · split at failed
    · cases failed
    · cases failed
      exact ⟨rfl, .head _⟩

theorem blames_of_boundDriver (failed : handle.boundDriver files = .error error) :
    error.Blames handle.address [.io, .resolution] := by
  rw [boundDriver_eq] at failed
  split at failed
  · split at failed
    · cases failed
    · cases failed
      exact ⟨rfl, .head _⟩
  · cases named : linkName (handle.entry driverEntry) files with
    | error defect =>
      rw [named] at failed
      cases failed
      exact ⟨rfl, .tail _ (.head _)⟩
    | ok name =>
      rw [named] at failed
      cases failed

/-- A count is refused because its file cannot be read as text, or because of what the text is. -/
theorem readCount_cases (handle : Handle) (name : String) (files : FileSystem) :
    (∃ fault, files.readText (handle.entry name) = .error fault ∧
      handle.readCount name files = .error (.io handle.address (handle.entry name) fault)) ∨
    ∃ text, files.readText (handle.entry name) = .ok text ∧
      ((∃ count, handle.readCount name files = .ok count) ∨
        ∃ content, handle.readCount name files =
          .error (.parse handle.address (handle.entry name) content)) := by
  simp only [readCount]
  cases files.readText (handle.entry name) with
  | error fault => exact .inl ⟨fault, rfl, rfl⟩
  | ok text =>
    right
    refine ⟨text, rfl, ?_⟩
    dsimp only
    cases Text.word? (Text.trim text.toList) with
    | none => exact .inr ⟨_, rfl⟩
    | some count => exact .inl ⟨count, rfl⟩

theorem blames_of_readCount {name : String} (failed : handle.readCount name files = .error error) :
    error.Blames handle.address [.io, .parse] := by
  obtain ⟨fault, _, reads⟩ | ⟨text, _, ⟨count, reads⟩ | ⟨content, reads⟩⟩ :=
    handle.readCount_cases name files
  · cases reads.symm.trans failed
    exact ⟨rfl, .head _⟩
  · cases reads.symm.trans failed
  · cases reads.symm.trans failed
    exact ⟨rfl, .tail _ (.head _)⟩

/-- A count fails for the host exactly when its file cannot be read as text. -/
theorem readCount_io_iff {name : String} :
    (∃ error, handle.readCount name files = .error error ∧ error.cause = .io) ↔
      ∃ fault, files.readText (handle.entry name) = .error fault := by
  obtain ⟨fault, unreadable, reads⟩ | ⟨text, readable, reads⟩ := handle.readCount_cases name files
  · exact ⟨fun _ => ⟨fault, unreadable⟩, fun _ => ⟨_, reads, rfl⟩⟩
  · constructor
    · rintro ⟨error, failed, blamed⟩
      obtain ⟨count, reads⟩ | ⟨content, reads⟩ := reads
      · cases reads.symm.trans failed
      · cases reads.symm.trans failed
        cases blamed
    · rintro ⟨fault, unreadable⟩
      cases readable.symm.trans unreadable

theorem blames_of_virtualFunctions (failed : handle.virtualFunctions files = .error error) :
    error.Blames handle.address [.io] := by
  rw [virtualFunctions] at failed
  split at failed
  · cases failed
    exact ⟨rfl, .head _⟩
  · cases failed

/-! ## Calls -/

variable {kernel : Interference} {driver : String} {count : UInt32} {before after : Machine}

theorem blames_of_provision (ran : (handle.provision count).run before = (.error error, after)) :
    error.Blames handle.address [.io, .parse, .alreadyProvisioned] := by
  cases provisioning_of_run ran with
  | unknown unknown =>
    obtain ⟨about, among⟩ := blames_of_readCount unknown
    exact ⟨about, List.mem_append_left [Cause.alreadyProvisioned] among⟩
  | refused => exact ⟨rfl, .tail _ (.tail _ (.head _))⟩
  | failed => exact ⟨rfl, .head _⟩

/-- A rebind fails with a write, or with its first look at the driver. -/
theorem blames_of_rebind (ran : (handle.rebind kernel driver).run before = (.error error, after)) :
    error.Blames handle.address [.bindFailure] ∨
      error.Blames handle.address [.io, .resolution] ∧
        handle.boundDriver before.files = .error error := by
  cases course_of_run ran with
  | misnamed => exact .inl ⟨rfl, .head _⟩
  | unknown _ unknown => exact .inr ⟨blames_of_boundDriver unknown, unknown⟩
  | unreleased _ _ _ release =>
    left
    cases release
    exact ⟨rfl, .head _⟩
  | unrestricted _ _ _ _ restriction =>
    left
    cases restriction
    exact ⟨rfl, .head _⟩
  | granted _ _ _ _ _ grant =>
    left
    cases grant
    exact ⟨rfl, .head _⟩

end Handle

/-! ## Openings -/

/-- An opening fails for a malformed address, whatever there is, and otherwise exactly when nothing is
present under it. -/
structure Opening {α : Type} (address : String) (present : Prop) (result : Except DeviceError α) :
    Prop where
  blames : ∀ error, result = .error error → error.Blames address [.invalidAddress, .notFound]
  malformed : (∃ error, result = .error error ∧ error.cause = .invalidAddress) ↔
    Pci.isAddressText address = false
  missing : (∃ error, result = .error error ∧ error.cause = .notFound) ↔
    Pci.isAddressText address = true ∧ ¬ present

section Openings

variable {α : Type} {address : String} {present : Prop}

theorem opening_of_malformed (malformed : Pci.isAddressText address = false) :
    Opening address present (.error (.invalidAddress address) : Except DeviceError α) := by
  constructor
  · rintro error ⟨⟩
    exact ⟨rfl, .head _⟩
  · exact ⟨fun _ => malformed, fun _ => ⟨_, rfl, rfl⟩⟩
  · constructor
    · rintro ⟨error, ⟨⟩, ⟨⟩⟩
    · rintro ⟨wellFormed, _⟩
      cases malformed.symm.trans wellFormed

theorem opening_of_missing (wellFormed : Pci.isAddressText address = true) (missing : ¬ present) :
    Opening address present
      (.error (.notFound address deviceResource) : Except DeviceError α) := by
  constructor
  · rintro error ⟨⟩
    exact ⟨rfl, .tail _ (.head _)⟩
  · constructor
    · rintro ⟨error, ⟨⟩, ⟨⟩⟩
    · intro malformed
      cases malformed.symm.trans wellFormed
  · exact ⟨fun _ => ⟨wellFormed, missing⟩, fun _ => ⟨_, rfl, rfl⟩⟩

theorem opening_of_present (wellFormed : Pci.isAddressText address = true) (there : present)
    (value : α) : Opening address present (.ok value : Except DeviceError α) := by
  constructor
  · rintro error ⟨⟩
  · constructor
    · rintro ⟨error, ⟨⟩, _⟩
    · intro malformed
      cases malformed.symm.trans wellFormed
  · constructor
    · rintro ⟨error, ⟨⟩, _⟩
    · rintro ⟨_, missing⟩
      exact absurd there missing

/-- A handle on a host is opened when its directory leads to anything. -/
theorem opening_ofAddress (files : FileSystem) (layout : Layout) (address : String) :
    Opening address (∃ found, files.find (layout.deviceDirectory address) = .ok found)
      (Handle.ofAddress files layout address) := by
  rw [Handle.ofAddress_cases]
  cases wellFormed : Pci.isAddressText address with
  | false => exact opening_of_malformed wellFormed
  | true =>
    rw [if_neg (by simp)]
    split
    · rename_i holds
      exact opening_of_present wellFormed (FileSystem.holds_iff.1 holds) _
    · rename_i lacks
      exact opening_of_missing wellFormed (lacks ∘ FileSystem.holds_iff.2)

/-- A handle on an inventory is opened when its device is registered. -/
theorem opening_locate (inventory : Inventory) (address : String) :
    Opening address (inventory.record? address).isSome (inventory.locate address) := by
  rw [Inventory.locate, checkAddress]
  cases wellFormed : Pci.isAddressText address with
  | false => exact opening_of_malformed wellFormed
  | true =>
    simp only [if_true]
    cases held : inventory.record? address with
    | none => exact opening_of_missing wellFormed (by simp)
    | some record => exact opening_of_present wellFormed rfl _

end Openings

end SingleRoot.Device

namespace SingleRoot.Session

open Descriptor Device Host

/-- The causes for which a request to a handle of a host can fail. -/
def Request.causes : Request → List Cause
  | .address | .directory => []
  | .netInterface => [.notFound, .io]
  | .iommuGroup => [.resolution]
  | .driver => [.io, .resolution]
  | .capacity | .configured => [.io, .parse]
  | .provision _ => [.io, .parse, .alreadyProvisioned]
  | .virtualFunctions => [.io]
  | .rebind _ => [.bindFailure, .io, .resolution]

section Requests

variable {kernel : Interference} {handle : Handle} {request : Request} {error : DeviceError}
  {machine after : Machine}

/-- A query fails as the call does that looks it up. -/
theorem error_of_query {α : Type} {f : α → Reply} {call : Action α}
    (ran : (f <$> call).run machine = (.error error, after)) :
    (call.run machine).1 = .error error := by
  rw [Action.run_map] at ran
  have failed := congrArg Prod.fst ran
  cases answer : (call.run machine).1 with
  | error other =>
    rw [answer] at failed
    cases failed
    rfl
  | ok value =>
    rw [answer] at failed
    cases failed

/-- A request to a handle of a host fails on the handle's own account and for one of its causes. -/
theorem blames_of_respond
    (ran : (HostSession.respond kernel handle request).run machine = (.error error, after)) :
    error.Blames handle.address request.causes := by
  cases request with
  | address | directory => cases ran
  | netInterface =>
    obtain ⟨_, _, reads⟩ := Handle.run_reportNetInterface handle machine
    have failed := error_of_query ran
    rw [reads] at failed
    exact Handle.blames_of_netInterface failed
  | iommuGroup => exact Handle.blames_of_iommuGroup (error_of_query ran)
  | driver => exact Handle.blames_of_boundDriver (error_of_query ran)
  | capacity => exact Handle.blames_of_readCount (error_of_query ran)
  | configured => exact Handle.blames_of_readCount (error_of_query ran)
  | rebind driver =>
    obtain ⟨outcome, rebound, fails⟩ := outcome_of_effect ran
    cases outcome with
    | ok _ => cases fails
    | error other =>
      cases fails
      obtain ⟨about, among⟩ | ⟨⟨about, among⟩, _⟩ := Handle.blames_of_rebind rebound
      · exact ⟨about, List.mem_append_left [Cause.io, Cause.resolution] among⟩
      · exact ⟨about, .tail _ among⟩
  | provision count =>
    obtain ⟨outcome, provisioned, fails⟩ := outcome_of_effect ran
    cases outcome with
    | ok _ => cases fails
    | error other =>
      cases fails
      exact Handle.blames_of_provision provisioned
  | virtualFunctions =>
    rw [HostSession.respond, Action.run_bind] at ran
    have answers := Handle.result_enumerate handle machine
    cases enumerated : handle.enumerate.run machine with
    | mk outcome ended =>
      rw [enumerated] at ran answers
      cases outcome with
      | ok enumeration => cases ran
      | error other =>
        cases ran
        exact Handle.blames_of_virtualFunctions answers.symm

/-- A request to a device of an inventory fails on the device's own account. -/
theorem address?_of_respond {inventory : Inventory} {address : String}
    (failed : InventorySession.respond inventory address request = .error error) :
    error.address? = some address := by
  cases refusal_of_respond failed <;> rfl

end Requests

section Loads

variable {Descriptor : Type} {kind : Kind Descriptor} {machine : Machine} {error : DeviceError}

/-- Whatever is wrong with a descriptor, it concerns no device. -/
theorem blames_of_report {loaded : Except LoadError Descriptor}
    (failed : ((kind.report loaded).run machine).1 = .error error) :
    error.cause = .invalidConfig ∧ error.address? = none := by
  cases loaded with
  | ok descriptor => cases failed
  | error reason =>
    cases failed
    exact ⟨rfl, rfl⟩

end Loads

/-! ## Errors of all calls -/

/-- Every error of a handle is about its own device and has one of the causes of the request; an opening
fails for its argument alone, and for the host or the inventory only if that has nothing there; and what is
wrong with a descriptor concerns no device. -/
theorem errors_keep_to_their_device :
    (∀ (kernel : Interference) (handle : Handle) (request : Request) (machine : Machine)
        (error : DeviceError),
      ((HostSession.respond kernel handle request).run machine).1 = .error error →
        error.Blames handle.address request.causes) ∧
    (∀ (handle : Handle) (files : FileSystem),
      ((∃ error, handle.capacity files = .error error ∧ error.cause = .io) ↔
          ∃ fault, files.readText (handle.entry capacityEntry) = .error fault) ∧
        ((∃ error, handle.configured files = .error error ∧ error.cause = .io) ↔
          ∃ fault, files.readText (handle.entry configuredEntry) = .error fault)) ∧
    (∀ (kernel : Interference) (handle : Handle) (driver : String) (machine : Machine)
        (error : DeviceError),
      ((handle.rebind kernel driver).run machine).1 = .error error → error.cause ≠ .bindFailure →
        handle.boundDriver machine.files = .error error) ∧
    (∀ (layout : Layout) (role : Role) (address : String) (machine : Machine),
      Opening address (∃ found, machine.files.find (layout.deviceDirectory address) = .ok found)
        ((HostSession.openAs layout role address).run machine).1) ∧
    (∀ (inventory : Inventory) (address : String),
      Opening address (inventory.record? address).isSome (inventory.locate address)) ∧
    (∀ (inventory : Inventory) (address : String) (request : Request) (error : DeviceError),
      InventorySession.respond inventory address request = .error error →
        error.address? = some address) ∧
    ∀ {Descriptor : Type} (kind : Kind Descriptor) (machine : Machine) (error : DeviceError),
      (∀ text, ((kind.loadText text).run machine).1 = .error error →
          error.cause = .invalidConfig ∧ error.address? = none) ∧
        ∀ path, ((kind.loadFile path).run machine).1 = .error error →
          error.cause = .invalidConfig ∧ error.address? = none := by
  refine ⟨?_, ?_, ?_, ?_, opening_locate, ?_, ?_⟩
  · intro kernel handle request machine error failed
    exact blames_of_respond (Prod.ext failed rfl)
  · intro handle files
    exact ⟨Handle.readCount_io_iff, Handle.readCount_io_iff⟩
  · intro kernel handle driver machine error failed other
    obtain ⟨_, among⟩ | ⟨_, looked⟩ := Handle.blames_of_rebind (Prod.ext failed rfl)
    · exact absurd (List.mem_singleton.1 among) other
    · exact looked
  · intro layout role address machine
    rw [result_openAs]
    exact opening_ofAddress machine.files layout address
  · intro inventory address request error failed
    exact address?_of_respond failed
  · intro Descriptor kind machine error
    refine ⟨fun text failed => blames_of_report failed, fun path failed => ?_⟩
    rw [Kind.loadFile, Action.run_bind, Action.run_get] at failed
    exact blames_of_report failed

namespace Sample

open Device.Sample

/-- An address below which nothing can be looked at, because it leads into a file. -/
def stray : String := "0000:01:00.0/driver_override"

end Sample

open Device.Sample Sample in
/-- The bind write of a rebind fails on the sample. A handle on a file cannot even be asked for its driver,
an unregistered device has none, and a directory holds no descriptor. -/
theorem errors_keep_to_their_device_sample :
    (DeviceError.bindFailure address "vfio-pci" .bind (some "ixgbe")
        (.system .accessDenied)).Blames address [.bindFailure, .io, .resolution] ∧
      Handle.boundDriver ⟨stray, layout⟩ files =
        .error (.io stray (Handle.entry ⟨stray, layout⟩ driverEntry) (.system .notDirectory)) ∧
      (DeviceError.notFound address deviceResource).address? = some address ∧
      (DeviceError.invalidConfig
        "Failed to read /drivers: Is a directory (os error 21)").address? = none := by
  obtain ⟨requests, _, rebinds, _, _, devices, loads⟩ := errors_keep_to_their_device
  refine ⟨?_, ?_, ?_, ?_⟩
  · exact requests .none ⟨address, layout⟩ (.rebind "vfio-pci") (.start files) _ (by decide +kernel)
  · exact rebinds .none ⟨stray, layout⟩ "vfio-pci" (.start files) _ (by decide +kernel) (by decide)
  · exact devices .empty address .driver _ (by decide +kernel)
  · exact ((loads Endpoint.kind (.start files) _).2 (.ofText "/drivers") (by decide +kernel)).2

end SingleRoot.Session
