/-
# Devices that are gone

A handle outlives its device: the directory of a function may disappear after the handle has been opened. No
entry of the directory can be accessed then, so that every query fails that needs one, and so do a
provisioning and an enumeration. The driver is different. That there is no link to it means, as long as the
directory is there, that the function is bound to no driver; and a host that reports the directory as absent
reports the link as absent in the same words. The query then answers as for a function without a driver, and
a rebind goes on to the bind write.
-/
import SingleRoot.Proofs.Device.Confinement
import SingleRoot.Proofs.Device.Interface
import SingleRoot.Proofs.Host.Parents

namespace SingleRoot.Device.Handle

open Host

/-- The function's directory leads to nothing. -/
def Lost (handle : Handle) (files : FileSystem) : Prop :=
  files.holds handle.directory = false

/-- The host says that there is no such directory, and the link to the driver is a path that it would say so
of. -/
structure Vanished (handle : Handle) (files : FileSystem) : Prop where
  accepted : (handle.entry driverEntry).refusal? = none
  absent : ∃ fault, files.find handle.directory = .error fault ∧ fault.isAbsence = true

variable {handle : Handle} {files : FileSystem} {entry driver : String}

/-- An entry of the function's directory, by its names below the devices root. -/
theorem entry_eq_join (handle : Handle) (entry : String) :
    handle.entry entry =
      (handle.layout.devicesRoot.join ⟨Text.toBytes handle.address⟩).join ⟨Text.toBytes entry⟩ :=
  rfl

theorem find_of_lost (lost : handle.Lost files) : ∃ fault, files.find handle.directory = .error fault := by
  cases found : files.find handle.directory with
  | error fault => exact ⟨fault, rfl⟩
  | ok place => cases lost.symm.trans (FileSystem.holds_iff.2 ⟨place, found⟩)

section Entries

variable (grounded : handle.Grounded) (lost : handle.Lost files)
  (plain : PlainName (Text.toBytes entry))

include grounded lost plain

/-- With the directory all of its entries are lost. -/
theorem unresolved_of_lost (manner : Manner) (landing : Landing) :
    files.resolve manner (handle.entry entry) ≠ .ok landing := by
  intro ends
  rw [entry_eq_join] at ends
  obtain ⟨location, permissions, found, _⟩ :=
    FileSystem.find_of_resolve_entry grounded.plain plain ends
  cases lost.symm.trans (FileSystem.holds_iff.2 ⟨_, found⟩)

theorem find_entry_of_lost : ∃ fault, files.find (handle.entry entry) = .error fault := by
  cases found : files.find (handle.entry entry) with
  | error fault => exact ⟨fault, rfl⟩
  | ok place =>
    exact absurd (FileSystem.resolve_of_find found)
      (unresolved_of_lost grounded lost plain _ _)

theorem findLink_entry_of_lost : ∃ fault, files.findLink (handle.entry entry) = .error fault := by
  cases found : files.findLink (handle.entry entry) with
  | error fault => exact ⟨fault, rfl⟩
  | ok node =>
    obtain ⟨location, ends⟩ := FileSystem.resolve_of_findLink found
    exact absurd ends (unresolved_of_lost grounded lost plain _ _)

theorem readCount_of_lost : ∃ error, handle.readCount entry files = .error error := by
  obtain ⟨fault, missing⟩ := find_entry_of_lost grounded lost plain
  have unread : files.readText (handle.entry entry) = .error fault := by
    rw [FileSystem.readText, FileSystem.read, missing]
    rfl
  rw [readCount, unread]
  exact ⟨_, rfl⟩

theorem linkName_of_lost : ∃ fault, linkName (handle.entry entry) files = .error (.unreadable fault) := by
  obtain ⟨fault, missing⟩ := findLink_entry_of_lost grounded lost plain
  exact ⟨fault, linkName_of_unseen missing⟩

end Entries

/-! ## Queries -/

section Queries

variable (grounded : handle.Grounded) (lost : handle.Lost files)

include grounded lost

theorem netInterface_of_lost : ∃ error, handle.netInterface files = .error error := by
  have plain : PlainName (Text.toBytes netEntry) := by decide
  obtain ⟨fault, missing⟩ := find_entry_of_lost grounded lost plain
  have unlisted : files.list (handle.entry netEntry) = .error fault := by
    rw [FileSystem.list, missing]
    rfl
  exact ⟨_, netInterface_of_fails (.closed unlisted)⟩

theorem iommuGroup_of_lost : ∃ error, handle.iommuGroup files = .error error := by
  have plain : PlainName (Text.toBytes iommuGroupEntry) := by decide
  obtain ⟨fault, unread⟩ := linkName_of_lost grounded lost plain
  exact ⟨_, iommuGroup_of_defect unread⟩

omit grounded in
theorem virtualFunctions_of_lost : ∃ error, handle.virtualFunctions files = .error error := by
  obtain ⟨fault, missing⟩ := find_of_lost lost
  have unlisted : files.list handle.directory = .error fault := by
    rw [FileSystem.list, missing]
    rfl
  rw [virtualFunctions, unlisted]
  exact ⟨_, rfl⟩

/-- The query for the driver tells a directory that is absent from one that cannot be reached, and takes the
first for a function without a driver. -/
theorem boundDriver_of_lost :
    (handle.Vanished files → handle.boundDriver files = .ok none) ∧
      (¬ handle.Vanished files → ∃ error, handle.boundDriver files = .error error) := by
  rw [boundDriver_eq]
  cases accepted : (handle.entry driverEntry).refusal? with
  | some fault =>
    have refused : files.findLink (handle.entry driverEntry) = .error fault := by
      rw [FileSystem.findLink_eq, accepted]
    rw [refused]
    constructor
    · intro vanished
      cases accepted.symm.trans vanished.accepted
    · intro _
      exact ⟨_, if_neg (by simp [isAbsence_refusal plainName_driverName accepted])⟩
  | none =>
    obtain ⟨fault, missing⟩ := find_of_lost lost
    have unseen : files.findLink (handle.entry driverEntry) = .error fault := by
      rw [entry_eq_join] at accepted ⊢
      exact FileSystem.findLink_of_lost grounded.plain plainName_driverName accepted missing
    rw [unseen]
    constructor
    · rintro ⟨_, other, missingToo, absent⟩
      cases missing.symm.trans missingToo
      simp [absent]
    · intro reached
      have present : fault.isAbsence = false := by
        cases absent : fault.isAbsence with
        | false => rfl
        | true => exact absurd ⟨accepted, fault, missing, absent⟩ reached
      exact ⟨_, if_neg (by simp [present])⟩

theorem not_bound_of_lost : handle.boundDriver files ≠ .ok (some driver) := by
  have plain : PlainName (Text.toBytes driverEntry) := plainName_driverName
  obtain ⟨fault, unseen⟩ := findLink_entry_of_lost grounded lost plain
  intro bound
  obtain ⟨target, linked, _⟩ := boundDriver_eq_some_iff.1 bound
  cases unseen.symm.trans linked

end Queries

/-! ## A rebind without a device -/

variable {before after : Machine} {result : Except DeviceError Unit}

/-- A rebind of a function that has vanished comes to the bind write, and ends as that does. -/
def BindsNothing (handle : Handle) (driver : String) (files left : FileSystem) : Prop :=
  handle.Vanished files ∧ isDriverName driver = true ∧
    files.write (handle.bindFile driver) (Text.toBytes handle.address) = .ok left

/-- A rebind without a device makes the bind write and nothing else, or it fails and changes nothing. -/
theorem rebind_of_lost (grounded : handle.Grounded) (lost : handle.Lost before.files)
    (ran : (handle.rebind .none driver).run before = (result, after)) :
    (result = .ok () ∧ handle.BindsNothing driver before.files after.files) ∨
      ((∃ error, result = .error error) ∧ after.files = before.files ∧
        ∀ left, ¬ handle.BindsNothing driver before.files left) := by
  have unbound {current : Option String} (bound : handle.boundDriver before.files = .ok current) :
      current = none := by
    cases current with
    | none => rfl
    | some current => exact absurd bound (not_bound_of_lost grounded lost)
  have unoffered : before.files.holds handle.overrideFile = false := by
    have plain : PlainName (Text.toBytes overrideEntry) := by decide
    obtain ⟨fault, missing⟩ := find_entry_of_lost grounded lost plain
    cases offers : before.files.holds handle.overrideFile with
    | false => rfl
    | true =>
      obtain ⟨place, found⟩ := FileSystem.holds_iff.1 offers
      cases missing.symm.trans found
  cases course_of_run ran with
  | misnamed misnamed =>
    refine .inr ⟨⟨_, rfl⟩, rfl, ?_⟩
    rintro left ⟨_, named, _⟩
    cases misnamed.symm.trans named
  | unknown named unknown =>
    refine .inr ⟨⟨_, rfl⟩, rfl, ?_⟩
    rintro left ⟨vanished, _⟩
    cases unknown.symm.trans ((boundDriver_of_lost grounded lost).1 vanished)
  | unneeded named bound => exact absurd bound (not_bound_of_lost grounded lost)
  | unreleased named bound other release =>
    cases unbound bound
    cases release
  | unrestricted named bound other release restriction =>
    cases unbound bound
    cases release
    cases restriction with
    | refused offers => cases unoffered.symm.trans offers
  | granted named bound other release restriction grant =>
    cases unbound bound
    cases release
    have vanished : handle.Vanished before.files := by
      by_contra reached
      obtain ⟨error, failed⟩ := (boundDriver_of_lost grounded lost).2 reached
      cases bound.symm.trans failed
    cases restriction with
    | done offers => cases unoffered.symm.trans offers
    | unknown lacks =>
      cases grant with
      | bound attempted lifting =>
        left
        cases lifting with
        | unneeded untouched =>
          have wrote := attempted.2.made rfl
          rw [attempted.1.files, ← untouched.files] at wrote
          exact ⟨rfl, vanished, named, wrote⟩
      | boundByKernel attempted bound lifting =>
        have same := (attempted.2.failed _ rfl).2.trans attempted.1.files
        rw [isBoundTo_iff, same] at bound
        exact absurd bound (not_bound_of_lost grounded lost)
      | refused attempted unbound lifting =>
        right
        obtain ⟨refused, same⟩ := attempted.2.failed _ rfl
        rw [attempted.1.files] at refused same
        cases lifting with
        | unneeded untouched =>
          refine ⟨⟨_, rfl⟩, untouched.files.trans same, ?_⟩
          rintro left ⟨_, _, wrote⟩
          cases refused.symm.trans wrote

end SingleRoot.Device.Handle
