/-
# Rebinds that nothing stands in the way of

The kernel takes the link to the driver away once the function has been released, and waits otherwise. A
rebind then succeeds if the host has what it takes: the directory of the function is found without the link,
the override can be written if there is one, and the directories of the two drivers receive their files.

`Ready` collects what the writes after the release need. It is there already in the tree without the link, it
outlasts every write to another place than that of the link, and so the writes of a rebind cannot fail.
-/
import SingleRoot.Proofs.Device.Confinement
import SingleRoot.Proofs.Host.Withdrawal

namespace SingleRoot.Device.Handle

open Host

section Definitions

/-- The name of the file that restricts a function to one driver. -/
def overrideName : Name := Text.toBytes overrideEntry

/-- The host can have a directory for a driver, and the path to an entry of it is one that the host
accepts. -/
structure Nameable (layout : Layout) (driver entry : String) : Prop where
  named : isDriverName driver = true
  short : (Text.toBytes driver).length ≤ longestName
  accepted : (layout.driverDirectory driver / entry).refusal? = none

/-- The directory of a driver receives a file. -/
def Offers (layout : Layout) (files : FileSystem) (driver entry : String) : Prop :=
  ∃ place node, files.find (layout.driverDirectory driver) = .ok (place, node) ∧
    files.Receives place (Text.toBytes entry)

/-- The directory of a function is at a place, and the override can be written if there is one. -/
structure Furnished (handle : Handle) (home : Location) (files : FileSystem) : Prop where
  directory : ∃ permissions, files.find handle.directory = .ok (home, .directory permissions) ∧
    files.caller.may permissions.search = true
  override : files.tree.node? (overrideName :: home) = none ∨ files.Rewritable (overrideName :: home)

/-- A function without a driver can be given one. -/
structure Ready (handle : Handle) (home : Location) (driver : String) (files : FileSystem) : Prop where
  free : files.tree.node? (driverName :: home) = none
  furnished : handle.Furnished home files
  offers : Offers handle.layout files driver bindEntry

/-- A function that is bound to `current` can be released from its driver; `bare` is the tree without the link
to the driver. -/
structure Releasable (handle : Handle) (home : Location) (current : Option String)
    (files bare : FileSystem) : Prop where
  gone : files.Withdrawn (driverName :: home) bare
  free : current = none → files.tree.node? (driverName :: home) = none
  nameable : ∀ former, current = some former → Nameable handle.layout former unbindEntry
  offers : ∀ former, current = some former → Offers handle.layout bare former unbindEntry

/-- The kernel takes a link away once the function has been released, and waits otherwise. -/
structure Withdraws (kernel : Interference) (link : Location) : Prop where
  waits : ∀ stage tree, kernel (.before stage) tree = tree
  withdraws : ∀ tree location,
    (kernel .afterUnbind tree).node? location = (tree.remove link).node? location

end Definitions

variable {handle : Handle} {kernel : Interference} {home place : Location} {driver entry : String}
  {files bare : FileSystem} {content : Bytes}

/-! ## What a write leaves ready -/

section Written

variable {before after : FileSystem} {name : Name} {parent : Location}

theorem Offers.written {layout : Layout} (offers : Offers layout before driver entry)
    (change : before.FileWritten place content after) : Offers layout after driver entry := by
  obtain ⟨directory, node, found, receives⟩ := offers
  obtain ⟨_, _, stood⟩ := FileSystem.find_eq_ok_iff.1 found
  have ⟨_, inside, _⟩ := receives
  cases stood.symm.trans inside
  exact ⟨directory, _, change.find_directory_iff.2 found, receives.written change⟩

theorem Furnished.written (furnished : handle.Furnished home before)
    (change : before.FileWritten place content after) : handle.Furnished home after where
  directory := by
    obtain ⟨permissions, found, searchable⟩ := furnished.directory
    exact ⟨permissions, change.find_directory_iff.2 found, change.caller ▸ searchable⟩
  override := by
    rcases furnished.override with free | rewritable
    · exact change.free_or_rewritable free
    · exact .inr (rewritable.written change)

theorem Ready.written (ready : handle.Ready home driver before)
    (change : before.FileWritten (name :: parent) content after) (other : name ≠ driverName) :
    handle.Ready home driver after where
  free := by
    rw [change.elsewhere _ fun same => other (List.cons.inj same).1.symm]
    exact ready.free
  furnished := ready.furnished.written change
  offers := ready.offers.written change

end Written

/-! ## With and without the link -/

section Withdrawn

variable (gone : files.Withdrawn (driverName :: home) bare)
include gone

theorem Offers.of_withdrawn {layout : Layout} (offers : Offers layout bare driver entry)
    (other : driverName ≠ Text.toBytes entry) : Offers layout files driver entry := by
  obtain ⟨directory, node, found, receives⟩ := offers
  refine ⟨directory, node, gone.within.find found, receives.of_withdrawn gone ?_⟩
  intro same
  exact other (List.cons.inj same).1

theorem Ready.of_withdrawn (ready : handle.Ready home driver bare)
    (free : files.tree.node? (driverName :: home) = none) : handle.Ready home driver files where
  free := free
  furnished := by
    obtain ⟨permissions, found, searchable⟩ := ready.furnished.directory
    refine ⟨⟨permissions, gone.within.find found, gone.caller ▸ searchable⟩, ?_⟩
    obtain ⟨_, _, inside⟩ := FileSystem.find_eq_ok_iff.1 found
    have other : driverName :: home ≠ overrideName :: home := by
      intro same
      exact absurd (List.cons.inj same).1 (by decide)
    have override := ready.furnished.override
    rw [gone.tree, if_neg (gone.not_suffix_cons inside other)] at override
    exact override.imp_right (FileSystem.Rewritable.of_withdrawn gone)
  offers := ready.offers.of_withdrawn gone (by decide)

end Withdrawn

/-! ## Writes that cannot fail -/

theorem Furnished.noLink (furnished : handle.Furnished home files) (target : HostPath) :
    files.findLink handle.overrideFile ≠ .ok (.link target) := by
  obtain ⟨permissions, found, _⟩ := furnished.directory
  have plain : PlainName overrideName := by decide
  exact FileSystem.noLink_of_free_or_rewritable found plain furnished.override target

/-- An override that is there can be written. -/
theorem Furnished.write (furnished : handle.Furnished home files)
    (offers : files.holds handle.overrideFile = true) (content : Bytes) :
    ∃ after, files.write handle.overrideFile content = .ok after := by
  obtain ⟨permissions, found, searchable⟩ := furnished.directory
  obtain ⟨_, _, inside⟩ := FileSystem.find_eq_ok_iff.1 found
  obtain ⟨_, foundFile⟩ := FileSystem.holds_iff.1 offers
  obtain ⟨accepted, _⟩ := FileSystem.find_eq_ok_iff.1 foundFile
  have plain : PlainName overrideName := by decide
  have short : overrideName.length ≤ longestName := by decide
  rcases furnished.override with free | rewritable
  · have fails : files.entryIn home overrideName = .error .noSuchEntry := by
      simp [FileSystem.entryIn, inside, searchable, Nat.not_lt_of_le short, free]
    cases (FileSystem.find_entry_error found plain accepted fails).symm.trans foundFile
  · obtain ⟨after, wrote, _⟩ :=
      rewritable.write found inside searchable plain short accepted content
    exact ⟨after, wrote⟩

theorem Ready.write (ready : handle.Ready home driver files)
    (nameable : Nameable handle.layout driver bindEntry) (content : Bytes) :
    ∃ after, files.write (handle.bindFile driver) content = .ok after := by
  obtain ⟨parent, node, found, receives⟩ := ready.offers
  obtain ⟨after, wrote, _⟩ :=
    receives.write found (by decide) (by decide) nameable.accepted content
  exact ⟨after, wrote⟩

/-- The release can be written, at a place that does not depend on the link. -/
theorem Releasable.write {former : String}
    (releasable : handle.Releasable home (some former) files bare) (content : Bytes) :
    ∃ parent after, files.write (handle.unbindFile former) content = .ok after ∧
      files.FileWritten (Text.toBytes unbindEntry :: parent) content after ∧
      ¬ driverName :: home <:+ Text.toBytes unbindEntry :: parent := by
  obtain ⟨parent, node, found, receives⟩ := releasable.offers former rfl
  have ⟨_, inside, _⟩ := receives
  have gone := releasable.gone
  have accepted := (releasable.nameable former rfl).accepted
  have other : driverName :: home ≠ Text.toBytes unbindEntry :: parent := by
    intro same
    exact absurd (List.cons.inj same).1 (by decide)
  obtain ⟨after, wrote, change⟩ := (receives.of_withdrawn gone other).write (gone.within.find found)
    (by decide) (by decide) accepted content
  exact ⟨parent, after, wrote, change, gone.not_suffix_cons inside other⟩

/-! ## The phases -/

section Phases

variable {current : Option String} {before waiting after : Machine}

theorem ready_of_tried {base : HostPath} {name : Name} (plain : PlainName name)
    (other : name ≠ driverName) {content : String} {fault? : Option Fault}
    (ready : handle.Ready home driver before.files)
    (noLink : ∀ target, before.files.findLink (base.join ⟨name⟩) ≠ .ok (.link target))
    (tried : before.Tried (base.join ⟨name⟩) content fault? after) :
    handle.Ready home driver after.files := by
  rcases tried.files with same | ⟨landing, ends, change⟩
  · rw [same]
    exact ready
  · obtain ⟨parent, here⟩ := FileSystem.location_of_produce plain ends noLink
    rw [here] at change
    exact ready.written change other

theorem ready_of_override {content : String} {fault? : Option Fault}
    (ready : handle.Ready home driver before.files)
    (tried : before.Tried handle.overrideFile content fault? after) :
    handle.Ready home driver after.files :=
  ready_of_tried (by decide) (by decide) ready ready.furnished.noLink tried

theorem ready_of_bind {content : String} {fault? : Option Fault}
    (ready : handle.Ready home driver before.files)
    (tried : before.Tried (handle.bindFile driver) content fault? after) :
    handle.Ready home driver after.files := by
  obtain ⟨_, _, found, receives⟩ := ready.offers
  exact ready_of_tried (by decide) (by decide) ready (receives.noLink found (by decide)) tried

theorem ready_of_lifting {restricted : Bool} (ready : handle.Ready home driver before.files)
    (lifting : Lifting handle restricted before after) : handle.Ready home driver after.files := by
  cases lifting with
  | unneeded untouched => exact untouched.files ▸ ready
  | tried tried => exact ready_of_override ready tried

/-- Nothing is done to a function that is bound to the driver already. -/
theorem untouched_of_bound {result : Except DeviceError Unit} (named : isDriverName driver = true)
    (bound : handle.boundDriver before.files = .ok (some driver))
    (ran : (handle.rebind kernel driver).run before = (result, after)) :
    result = .ok () ∧ before.Untouched after := by
  cases course_of_run ran with
  | misnamed misnamed => cases misnamed.symm.trans named
  | unknown _ unknown => cases bound.symm.trans unknown
  | unneeded _ _ untouched => exact ⟨rfl, untouched⟩
  | unreleased _ seen other | unrestricted _ seen other | granted _ seen other =>
    cases bound.symm.trans seen
    exact absurd rfl other

variable (withdraws : Withdraws kernel (driverName :: home))
include withdraws

theorem waiting_files {stage : Stage} (stirred : before.Stirred kernel (.before stage) waiting) :
    waiting.files = before.files := by
  rw [stirred.files, withdraws.waits]
  rfl

theorem withdrawn_of_stirred (stirred : before.Stirred kernel .afterUnbind after) :
    before.files.Withdrawn (driverName :: home) after.files := by
  rw [stirred.files]
  refine ⟨rfl, rfl, ?_⟩
  intro other
  rw [← Tree.node?_remove (by simp)]
  exact withdraws.withdraws _ _

theorem ready_of_release {result : Except DeviceError Unit}
    (releasable : handle.Releasable home current before.files bare)
    (ready : handle.Ready home driver bare)
    (release : Release handle kernel driver current before result after) :
    result = .ok () ∧ handle.Ready home driver after.files := by
  cases release with
  | unneeded => exact ⟨rfl, ready.of_withdrawn releasable.gone (releasable.free rfl)⟩
  | refused attempted =>
    obtain ⟨_, _, wrote, _⟩ := releasable.write (Text.toBytes handle.address)
    cases (attempted.failed (withdraws.waits _)).1.symm.trans wrote
  | done attempted stirred untouched =>
    obtain ⟨parent, _, wrote, change, away⟩ := releasable.write (Text.toBytes handle.address)
    cases (attempted.wrote (withdraws.waits _)).symm.trans wrote
    have goneToo := withdrawn_of_stirred withdraws stirred
    rw [untouched.files]
    exact ⟨rfl, ready.written (releasable.gone.fileWritten change goneToo away) (by decide)⟩

theorem ready_of_restriction {restricted : Bool} {result : Except DeviceError Unit}
    (ready : handle.Ready home driver before.files)
    (restriction : Restriction handle kernel driver current restricted before result after) :
    result = .ok () ∧ handle.Ready home driver after.files := by
  cases restriction with
  | unknown lacks => exact ⟨rfl, ready⟩
  | refused offers attempted =>
    obtain ⟨_, wrote⟩ := ready.furnished.write offers (Text.toBytes driver)
    cases (attempted.failed (withdraws.waits _)).1.symm.trans wrote
  | done offers attempted =>
    rw [← waiting_files withdraws attempted.1] at ready
    exact ⟨rfl, ready_of_override ready attempted.2⟩

theorem ready_of_grant {restricted : Bool} {result : Except DeviceError Unit}
    (nameable : Nameable handle.layout driver bindEntry)
    (ready : handle.Ready home driver before.files)
    (grant : Grant handle kernel driver current restricted before result after) :
    result = .ok () ∧ handle.Ready home driver after.files ∧
      ⟨handle.bindFile driver, Text.toBytes handle.address, none⟩ ∈ after.attempts := by
  have able {fault : Fault} {waiting written : Machine} (attempted : Attempted kernel .bind
      (handle.bindFile driver) handle.address (some fault) before waiting written) : False := by
    obtain ⟨_, wrote⟩ := ready.write nameable (Text.toBytes handle.address)
    cases (attempted.failed (withdraws.waits _)).1.symm.trans wrote
  cases grant with
  | bound attempted lifting =>
    rw [← waiting_files withdraws attempted.1] at ready
    refine ⟨rfl, ready_of_lifting (ready_of_bind ready attempted.2) lifting, ?_⟩
    obtain ⟨cleared, _, attempts⟩ := lifting.attempts
    simp [attempts, attempted.attempts]
  | boundByKernel attempted => exact (able attempted).elim
  | refused attempted => exact (able attempted).elim

/-- Nothing stands in the way of such a rebind. -/
theorem ready_of_rebind {result : Except DeviceError Unit}
    (bound : handle.boundDriver before.files = .ok current) (other : current ≠ some driver)
    (nameable : Nameable handle.layout driver bindEntry)
    (releasable : handle.Releasable home current before.files bare)
    (ready : handle.Ready home driver bare)
    (ran : (handle.rebind kernel driver).run before = (result, after)) :
    result = .ok () ∧ handle.Ready home driver after.files ∧
      ⟨handle.bindFile driver, Text.toBytes handle.address, none⟩ ∈ after.attempts := by
  cases course_of_run ran with
  | misnamed misnamed => cases misnamed.symm.trans nameable.named
  | unknown _ unknown => cases bound.symm.trans unknown
  | unneeded _ same =>
    cases bound.symm.trans same
    exact absurd rfl other
  | unreleased _ seen _ release =>
    cases bound.symm.trans seen
    cases (ready_of_release withdraws releasable ready release).1
  | unrestricted _ seen _ release restriction =>
    cases bound.symm.trans seen
    have released := (ready_of_release withdraws releasable ready release).2
    cases (ready_of_restriction withdraws released restriction).1
  | granted _ seen _ release restriction grant =>
    cases bound.symm.trans seen
    have released := (ready_of_release withdraws releasable ready release).2
    have restrained := (ready_of_restriction withdraws released restriction).2
    exact ready_of_grant withdraws nameable restrained grant

/-! ## What a success requires -/

/-- Taking the link away and waiting binds no function. -/
theorem bound_of_attempted {stage : Stage} {path : HostPath} {content : String} {fault? : Option Fault}
    (attempted : Attempted kernel stage path content fault? before waiting after)
    (bound : handle.boundDriver after.files = .ok (some driver)) :
    handle.boundDriver before.files = .ok (some driver) := by
  rw [← waiting_files withdraws attempted.1]
  exact (boundDriver_of_tried attempted.2).1 bound

theorem bound_of_release {result : Except DeviceError Unit}
    (release : Release handle kernel driver current before result after)
    (bound : handle.boundDriver after.files = .ok (some driver)) :
    handle.boundDriver before.files = .ok (some driver) := by
  cases release with
  | unneeded => exact bound
  | refused attempted => exact bound_of_attempted withdraws attempted bound
  | done attempted stirred untouched =>
    rw [untouched.files, boundDriver_eq_some_iff] at bound
    obtain ⟨target, linked, named⟩ := bound
    have within := (withdrawn_of_stirred withdraws stirred).within
    apply bound_of_attempted withdraws attempted
    exact boundDriver_eq_some_iff.2 ⟨target, within.findLink plainName_driverName linked, named⟩

theorem bound_of_restriction {restricted : Bool} {result : Except DeviceError Unit}
    (restriction : Restriction handle kernel driver current restricted before result after)
    (bound : handle.boundDriver after.files = .ok (some driver)) :
    handle.boundDriver before.files = .ok (some driver) := by
  cases restriction with
  | unknown lacks => exact bound
  | refused offers attempted => exact bound_of_attempted withdraws attempted bound
  | done offers attempted => exact bound_of_attempted withdraws attempted bound

omit withdraws in
theorem nameable_of_write {layout : Layout} {next : FileSystem}
    (plain : PlainName (Text.toBytes driver)) (plainEntry : PlainName (Text.toBytes entry))
    (wrote : files.write (layout.driverDirectory driver / entry) content = .ok next) :
    Nameable layout driver entry := by
  obtain ⟨short, accepted⟩ := FileSystem.short_of_write plain plainEntry wrote
  refine ⟨isDriverName_iff.2 ⟨plain, fun among => ?_⟩, short, accepted⟩
  apply (HostPath.refusal?_eq_none_iff.1 accepted).1
  exact (HostPath.zero_mem_join _ plainEntry).2 (.inl ((HostPath.zero_mem_join _ plain).2 (.inr among)))

/-- A rebind that succeeds was for a function that is bound to the driver already, or both drivers have
names that the host accepts. -/
theorem nameable_of_rebind (bound : handle.boundDriver before.files = .ok current)
    (ran : (handle.rebind kernel driver).run before = (.ok (), after)) :
    isDriverName driver = true ∧ (current = some driver ∨ Nameable handle.layout driver bindEntry ∧
      ∀ former, current = some former → Nameable handle.layout former unbindEntry) := by
  cases course_of_run ran with
  | unneeded named same =>
    cases bound.symm.trans same
    exact ⟨named, .inl rfl⟩
  | granted named seen other release restriction grant =>
    cases bound.symm.trans seen
    refine ⟨named, .inr ⟨?_, ?_⟩⟩
    · cases grant with
      | bound attempted lifting =>
        exact nameable_of_write (isDriverName_iff.1 named).1 (by decide)
          (attempted.wrote (withdraws.waits _))
      | boundByKernel attempted boundNow lifting =>
        -- nobody has bound the function to the driver, so it would have been bound to it before
        have restrained := bound_of_attempted withdraws attempted (isBoundTo_iff.1 boundNow)
        have released := bound_of_restriction withdraws restriction restrained
        cases bound.symm.trans (bound_of_release withdraws release released)
        exact absurd rfl other
    · rintro former rfl
      cases release with
      | done attempted stirred untouched =>
        exact nameable_of_write (plainName_of_boundDriver bound) (by decide)
          (attempted.wrote (withdraws.waits _))

end Phases

end SingleRoot.Device.Handle
