/-
# What a rebind leaves in the tree

Nobody disturbs the rebind here. What it has done to the tree is then its imprint, and its result says which
one: the address in the unbind file of the driver that the function has been released from, an empty line in
the override file if there is one, and the address in the bind file. Everything else is as it was.

It is supposed that the paths lead apart, for otherwise one write would be written over by the next. Nothing
has to be supposed about the link to the driver: no write changes a link.

The imprint grows with each phase. The override file holds the name of the driver only for a while, and the
write that clears it cannot fail, because the same file has been written just before.
-/
import SingleRoot.Proofs.Device.Report
import SingleRoot.Proofs.Host.Imprint

namespace SingleRoot.Device

open Host

namespace Handle

section Definitions

variable (handle : Handle) (driver : String)

/-- The paths that a rebind can write along when the function is bound to `current`. -/
def rebindPaths (current : Option String) : List HostPath :=
  current.toList.map handle.unbindFile ++ [handle.overrideFile, handle.bindFile driver]

/-- What a release leaves. -/
def freed (current : Option String) : List (HostPath × Bytes) :=
  current.toList.map fun former => (handle.unbindFile former, Text.toBytes handle.address)

/-- What is left in the override file, if it is written at all. -/
def overridden (wasSet : Bool) (content : String) : List (HostPath × Bytes) :=
  if wasSet then [(handle.overrideFile, Text.toBytes content)] else []

/-- What a bind write leaves. -/
def bestowed : List (HostPath × Bytes) :=
  [(handle.bindFile driver, Text.toBytes handle.address)]

/-- What a rebind that ends with a result has left, for a function that was bound to `current` and whose
host has the override file or not. -/
def footprint (current : Option String) (offers : Bool) :
    Except DeviceError Unit → List (HostPath × Bytes)
  | .ok () =>
    if current = some driver then []
    else handle.freed current ++ handle.overridden offers "\n" ++ handle.bestowed driver
  | .error (.bindFailure _ _ .override _ _) => handle.freed current
  | .error (.bindFailure _ _ .bind _ _) =>
    if isDriverName driver then handle.freed current ++ handle.overridden offers "\n" else []
  | .error _ => []

end Definitions

variable {handle : Handle} {driver : String} {current : Option String} {first : FileSystem}
  {before waiting after : Machine} {marks rest : List (HostPath × Bytes)} {path : HostPath}

/-! ## The phases -/

theorem Release.wrote {former : String}
    (release : Release handle .none driver (some former) before (.ok ()) after) :
    before.files.write (handle.unbindFile former) (Text.toBytes handle.address) = .ok after.files := by
  cases release with
  | done attempted stirred untouched =>
    rw [untouched.files, stirred.files]
    exact attempted.wrote fun _ => rfl

theorem Release.imprinted (release : Release handle .none driver current before (.ok ()) after) :
    before.files.Imprinted (handle.freed current) after.files := by
  cases current with
  | none =>
    cases release with
    | unneeded => exact .refl _
  | some former => exact (FileSystem.Imprinted.refl before.files).write (by simp) release.wrote

/-- A release does not bring the override file into being. -/
theorem Release.holds_eq (release : Release handle .none driver current before (.ok ()) after)
    (apart : ∀ mark ∈ handle.freed current, before.files.Apart mark.1 path) :
    after.files.holds path = before.files.holds path := by
  cases current with
  | none =>
    cases release with
    | unneeded => rfl
  | some former => exact FileSystem.holds_of_apart (apart _ (List.mem_singleton_self _)) release.wrote

theorem Release.files_eq {error : DeviceError}
    (release : Release handle .none driver current before (.error error) after) :
    after.files = before.files := by
  cases release with
  | refused attempted => exact (attempted.failed fun _ => rfl).2

theorem Restriction.imprinted {restricted : Bool}
    (restriction : Restriction handle .none driver current restricted before (.ok ()) after)
    (imprinted : first.Imprinted marks before.files)
    (apart : ∀ mark ∈ marks, first.Apart mark.1 handle.overrideFile) :
    first.Imprinted (marks ++ handle.overridden restricted driver) after.files := by
  cases restriction with
  | unknown lacks =>
    rw [overridden, if_neg (by simp), List.append_nil]
    exact imprinted
  | done offers attempted => exact imprinted.write apart (attempted.wrote fun _ => rfl)

theorem Restriction.files_eq {restricted : Bool} {error : DeviceError}
    (restriction : Restriction handle .none driver current restricted before (.error error) after) :
    after.files = before.files := by
  cases restriction with
  | refused offers attempted => exact (attempted.failed fun _ => rfl).2

/-- The override file is written once more, and then holds the empty line. -/
theorem Lifting.imprinted {restricted : Bool} (lifting : Lifting handle restricted before after)
    (imprinted : first.Imprinted (marks ++ handle.overridden restricted driver ++ rest) before.files)
    (away : ∀ mark ∈ marks ++ rest, mark.1 ≠ handle.overrideFile) :
    first.Imprinted (marks ++ handle.overridden restricted "\n" ++ rest) after.files := by
  cases lifting with
  | unneeded untouched =>
    rw [untouched.files]
    exact imprinted
  | @tried fault? _ _ tried =>
    have among : (handle.overrideFile, Text.toBytes driver) ∈
        marks ++ handle.overridden true driver ++ rest := by
      simp [overridden]
    obtain ⟨files, wrote, again⟩ := imprinted.rewrite among (Text.toBytes "\n")
    have unhindered : fault? = none := by
      cases fault? with
      | none => rfl
      | some fault => cases (tried.failed fault rfl).1.symm.trans wrote
    cases (tried.made unhindered).symm.trans wrote
    have stays {part : List (HostPath × Bytes)} (among : part ⊆ marks ++ rest) :
        (part.map fun mark =>
          if mark.1 = handle.overrideFile then (handle.overrideFile, Text.toBytes "\n") else mark) =
          part := by
      rw [List.map_congr_left fun mark here => if_neg (away mark (among here)), List.map_id']
    rw [List.map_append, List.map_append, stays (List.subset_append_left marks rest),
      stays (List.subset_append_right marks rest)] at again
    simpa [overridden] using again

/-! ## Whole rebinds -/

/-- What attempts make of the files binds no function. -/
theorem Composed.boundDriver (composed : Composed before after)
    (bound : handle.boundDriver after.files = .ok (some driver)) :
    handle.boundDriver before.files = .ok (some driver) := by
  obtain ⟨made, _, writes, _⟩ := composed
  apply Classical.byContradiction
  intro unbound
  refine writes.invariant (P := fun files => handle.boundDriver files ≠ .ok (some driver)) ?_ unbound
    bound
  intro attempt _ files next unbound wrote bound
  obtain ⟨landing, _, change⟩ := FileSystem.fileWritten_of_write wrote
  exact unbound ((boundDriver_written change).1 bound)

/-- Whether the function is restricted is what the host offered after the release. -/
theorem Restriction.restricted_eq {kernel : Interference} {restricted : Bool}
    (restriction : Restriction handle kernel driver current restricted before (.ok ()) after) :
    restricted = before.files.holds handle.overrideFile := by
  cases restriction with
  | unknown lacks => exact lacks.symm
  | done offers attempted => exact offers.symm

section Apart

variable (apart : (handle.rebindPaths driver current).Pairwise first.Apart)
include apart

theorem apart_of_mem_freed {mark : HostPath × Bytes} (among : mark ∈ handle.freed current) :
    first.Apart mark.1 handle.overrideFile ∧ first.Apart mark.1 (handle.bindFile driver) := by
  obtain ⟨former, here, rfl⟩ := List.mem_map.1 among
  have across := (List.pairwise_append.1 apart).2.2 _ (List.mem_map_of_mem here)
  exact ⟨across _ List.mem_cons_self, across _ (List.mem_cons_of_mem _ List.mem_cons_self)⟩

theorem apart_overrideFile : first.Apart handle.overrideFile (handle.bindFile driver) := by
  have latter := (List.pairwise_append.1 apart).2.1
  exact List.rel_of_pairwise_cons latter List.mem_cons_self

end Apart

/-- What is written after the release, is written to other files. -/
theorem fst_ne_overrideFile {mark : HostPath × Bytes}
    (among : mark ∈ handle.freed current ++ handle.bestowed driver) :
    mark.1 ≠ handle.overrideFile := by
  rcases List.mem_append.1 among with among | among
  · obtain ⟨former, _, rfl⟩ := List.mem_map.1 among
    exact (overrideFile_ne_unbindFile handle former).symm
  · cases List.mem_singleton.1 among
    exact (overrideFile_ne_bindFile handle driver).symm

/-- A rebind that comes to the bind write leaves its imprint. -/
theorem imprinted_of_granted {restricted : Bool} {result : Except DeviceError Unit}
    {start released restrained : Machine} (named : isDriverName driver = true)
    (bound : handle.boundDriver start.files = .ok current) (other : current ≠ some driver)
    (release : Release handle .none driver current start (.ok ()) released)
    (restriction : Restriction handle .none driver current restricted released (.ok ()) restrained)
    (grant : Grant handle .none driver current restricted restrained result after)
    (apart : (handle.rebindPaths driver current).Pairwise start.files.Apart) :
    start.files.Imprinted
        (handle.footprint driver current (start.files.holds handle.overrideFile) result)
        after.files ∧
      (handle.footprint driver current (start.files.holds handle.overrideFile) result = [] →
        after.files = start.files) := by
  have offered : start.files.holds handle.overrideFile = restricted := by
    rw [restriction.restricted_eq,
      release.holds_eq fun mark among => (apart_of_mem_freed apart among).1]
  have imprinted := restriction.imprinted release.imprinted fun mark among =>
    (apart_of_mem_freed apart among).1
  rw [offered]
  cases grant with
  | bound attempted lifting =>
    have onward : ∀ mark ∈ handle.freed current ++ handle.overridden restricted driver,
        start.files.Apart mark.1 (handle.bindFile driver) := by
      intro mark among
      rcases List.mem_append.1 among with among | among
      · exact (apart_of_mem_freed apart among).2
      · cases restricted with
        | false => simp [overridden] at among
        | true =>
          cases List.mem_singleton.1 among
          exact apart_overrideFile apart
    have lifted := lifting.imprinted (imprinted.write onward (attempted.wrote fun _ => rfl)) fun _ =>
      fst_ne_overrideFile
    rw [footprint, if_neg other]
    exact ⟨lifted, by simp [bestowed]⟩
  | boundByKernel attempted boundNow lifting =>
    -- nobody but the kernel could have bound the function
    have composed := ((composed_of_release release).trans (composed_of_restriction restriction)).trans
      (composed_of_attempted (by decide) attempted)
    cases bound.symm.trans (composed.boundDriver (isBoundTo_iff.1 boundNow))
    exact absurd rfl other
  | refused attempted unbound lifting =>
    rw [footprint, if_pos named]
    rw [← (attempted.failed fun _ => rfl).2, ← List.append_nil (_ ++ _)] at imprinted
    have away : ∀ mark ∈ handle.freed current ++ [], mark.1 ≠ handle.overrideFile := by
      intro mark among
      rw [List.append_nil] at among
      exact fst_ne_overrideFile (List.mem_append_left (handle.bestowed driver) among)
    have lifted := lifting.imprinted imprinted away
    rw [List.append_nil] at lifted
    refine ⟨lifted, ?_⟩
    intro idle
    obtain ⟨unbound, unset⟩ := List.append_eq_nil_iff.1 idle
    cases release with
    | done => simp [freed] at unbound
    | unneeded =>
      cases restriction with
      | done => simp [overridden] at unset
      | unknown lacks =>
        cases lifting with
        | unneeded untouched => exact untouched.files.trans (attempted.failed fun _ => rfl).2

/-- What a rebind has done to the tree is told by its result. -/
theorem imprinted_of_rebind {result : Except DeviceError Unit}
    (ran : (handle.rebind .none driver).run before = (result, after))
    (apart : (handle.rebindPaths driver (handle.seenDriver before.files)).Pairwise
      before.files.Apart) :
    before.files.Imprinted
        (handle.footprint driver (handle.seenDriver before.files)
          (before.files.holds handle.overrideFile) result)
        after.files ∧
      (handle.footprint driver (handle.seenDriver before.files)
          (before.files.holds handle.overrideFile) result = [] →
        after.files = before.files) := by
  have seen {current : Option String} (bound : handle.boundDriver before.files = .ok current) :
      handle.seenDriver before.files = current := by
    rw [seenDriver, bound]
    rfl
  -- where nothing has been written, nothing has changed
  have idle (same : after.files = before.files)
      (nothing : handle.footprint driver (handle.seenDriver before.files)
        (before.files.holds handle.overrideFile) result = []) :
      before.files.Imprinted
          (handle.footprint driver (handle.seenDriver before.files)
            (before.files.holds handle.overrideFile) result)
          after.files ∧
        (handle.footprint driver (handle.seenDriver before.files)
            (before.files.holds handle.overrideFile) result = [] →
          after.files = before.files) := by
    rw [nothing, same]
    exact ⟨.refl _, fun _ => rfl⟩
  cases course_of_run ran with
  | misnamed misnamed =>
    apply idle rfl
    rw [footprint, if_neg (by simp [misnamed])]
  | @unknown error _ named unknown =>
    apply idle rfl
    cases error with
    | bindFailure => exact absurd unknown boundDriver_ne_bindFailure
    | _ => rfl
  | unneeded named bound untouched =>
    apply idle untouched.files
    rw [footprint, seen bound, if_pos rfl]
  | unreleased named bound other release =>
    apply idle release.files_eq
    obtain ⟨former, fault, rfl, rfl, _⟩ := release.refusal
    rfl
  | unrestricted named bound other release restriction =>
    rw [seen bound]
    have left := restriction.files_eq
    obtain ⟨fault, rfl, _⟩ := restriction.refusal
    refine ⟨left ▸ release.imprinted, ?_⟩
    intro unbound
    cases release with
    | done => simp [footprint, freed] at unbound
    | unneeded => exact left
  | granted named bound other release restriction grant =>
    rw [seen bound] at apart ⊢
    exact imprinted_of_granted named bound other release restriction grant apart

end Handle

open Sample in
/-- On the sample the bind write fails: the function has been released, and the override is cleared again. -/
theorem imprinted_of_rebind_sample :
    (Handle.rebindPaths ⟨address, layout⟩ "vfio-pci" (some "ixgbe")).Pairwise files.Apart ∧
      ∃ fault after, ((Handle.mk address layout).rebind .none "vfio-pci").run (.start files) =
          (.error (.bindFailure address "vfio-pci" .bind (some "ixgbe") fault), after) ∧
        files.Imprinted
          [(Handle.unbindFile ⟨address, layout⟩ "ixgbe", Text.toBytes address),
            (Handle.overrideFile ⟨address, layout⟩, Text.toBytes "\n")] after.files := by
  have apart : (Handle.rebindPaths ⟨address, layout⟩ "vfio-pci" (some "ixgbe")).Pairwise
      files.Apart := by
    decide +kernel
  have seen : Handle.seenDriver ⟨address, layout⟩ (Machine.start files).files = some "ixgbe" := by
    decide +kernel
  have offers : (Machine.start files).files.holds (Handle.overrideFile ⟨address, layout⟩) = true := by
    decide +kernel
  have fails : (((Handle.mk address layout).rebind .none "vfio-pci").run (.start files)).1 =
      .error (.bindFailure address "vfio-pci" .bind (some "ixgbe") (.system .accessDenied)) := by
    decide +kernel
  cases ran : ((Handle.mk address layout).rebind .none "vfio-pci").run (.start files) with
  | mk result after =>
    rw [ran] at fails
    obtain rfl : result = _ := fails
    have imprinted := (Handle.imprinted_of_rebind ran (by rw [seen]; exact apart)).1
    rw [seen, offers] at imprinted
    exact ⟨apart, _, after, rfl, imprinted⟩

end SingleRoot.Device
