/-
# What the bound driver depends on

The driver of a function is read off one link in its directory, and the number of its group off another.
A function is bound to a driver exactly when the first link stands there and names it, so the write of a
file, wherever it takes place, binds no function and releases none. What the query answers in all, its
failures included, is determined by the directory and the one entry in it.
-/
import SingleRoot.Device.Rebind
import SingleRoot.Proofs.Host.Keeping
import SingleRoot.Proofs.Text.Decoding

namespace SingleRoot.Device.Handle

open Host

/-- The name of the link to the driver. -/
def driverName : Name := Text.toBytes driverEntry

theorem plainName_driverName : PlainName driverName := by
  decide

variable {handle : Handle} {files before after : FileSystem} {driver : String}

theorem entry_driver (handle : Handle) :
    handle.entry driverEntry = handle.directory.join ⟨driverName⟩ :=
  rfl

theorem boundDriver_eq (handle : Handle) (files : FileSystem) :
    handle.boundDriver files =
      match files.findLink (handle.entry driverEntry) with
      | .error fault =>
        if fault.isAbsence then .ok none
        else .error (.io handle.address (handle.entry driverEntry) fault)
      | .ok _ =>
        ((linkName (handle.entry driverEntry) files).mapError
          (handle.linkError (handle.entry driverEntry))).map some := by
  unfold boundDriver
  rfl

/-- The name of a link is read off its target. -/
theorem linkName_eq_ok_iff {path : HostPath} {name : String} :
    linkName path files = .ok name ↔
      ∃ target, files.findLink path = .ok (.link target) ∧
        target.fileName?.bind Text.ofBytes? = some name := by
  rw [linkName, FileSystem.readLink]
  cases files.findLink path with
  | error fault => simp [bind, Except.bind]
  | ok node =>
    cases node with
    | directory _ => simp [bind, Except.bind]
    | file _ _ => simp [bind, Except.bind]
    | link target =>
      simp only [bind, Except.bind, Except.ok.injEq, Node.link.injEq, exists_eq_left']
      cases target.fileName?.bind Text.ofBytes? <;> simp

theorem linkName_of_unseen {path : HostPath} {fault : Fault}
    (unseen : files.findLink path = .error fault) :
    linkName path files = .error (.unreadable fault) := by
  rw [linkName, FileSystem.readLink, unseen]
  rfl

/-- A function is bound to a driver when the link names it. -/
theorem boundDriver_eq_some_iff :
    handle.boundDriver files = .ok (some driver) ↔
      ∃ target, files.findLink (handle.entry driverEntry) = .ok (.link target) ∧
        target.fileName?.bind Text.ofBytes? = some driver := by
  rw [boundDriver_eq, ← linkName_eq_ok_iff]
  cases looked : files.findLink (handle.entry driverEntry) with
  | error fault =>
    rw [linkName_of_unseen looked]
    dsimp only
    split <;> simp
  | ok node =>
    dsimp only
    cases linkName (handle.entry driverEntry) files <;> simp [Except.map]

/-- The number of a group is the name of another link. -/
theorem iommuGroup_eq (handle : Handle) (files : FileSystem) :
    handle.iommuGroup files =
      match linkName (handle.entry iommuGroupEntry) files with
      | .error defect => .error (handle.linkError (handle.entry iommuGroupEntry) defect)
      | .ok name =>
        match Text.word? name.toList with
        | some group => .ok group
        | none => .error (handle.linkError (handle.entry iommuGroupEntry) (.notANumber name)) := by
  unfold iommuGroup
  rfl

theorem iommuGroup_of_named {name : String}
    (named : linkName (handle.entry iommuGroupEntry) files = .ok name) :
    handle.iommuGroup files =
      match Text.word? name.toList with
      | some group => .ok group
      | none => .error
        (handle.linkError (handle.entry iommuGroupEntry) (.notANumber name)) := by
  have answers := handle.iommuGroup_eq files
  rw [named] at answers
  exact answers

theorem iommuGroup_of_defect {defect : LinkDefect}
    (nameless : linkName (handle.entry iommuGroupEntry) files = .error defect) :
    handle.iommuGroup files =
      .error (handle.linkError (handle.entry iommuGroupEntry) defect) := by
  have answers := handle.iommuGroup_eq files
  rw [nameless] at answers
  exact answers

/-- A query that fails blames no write. -/
theorem boundDriver_ne_bindFailure {address name : String} {stage : Stage}
    {previous : Option String} {fault : Fault} :
    handle.boundDriver files ≠ .error (.bindFailure address name stage previous fault) := by
  rw [boundDriver_eq]
  cases files.findLink (handle.entry driverEntry) with
  | error fault =>
    dsimp only
    split <;> simp
  | ok node =>
    cases linkName (handle.entry driverEntry) files with
    | error defect => simp [Except.map, linkError]
    | ok name => simp [Except.map]

theorem isBoundTo_iff :
    handle.isBoundTo driver files = true ↔ handle.boundDriver files = .ok (some driver) := by
  unfold isBoundTo
  cases handle.boundDriver files with
  | error error => simp
  | ok current => cases current <;> simp

/-- A write binds no function to a driver and releases none. -/
theorem boundDriver_written {location : Location} {content : Bytes}
    (change : before.FileWritten location content after) :
    handle.boundDriver after = .ok (some driver) ↔
      handle.boundDriver before = .ok (some driver) := by
  simp only [boundDriver_eq_some_iff, entry_driver, change.findLink_link_iff plainName_driverName]

/-! ## The entry in the directory -/

theorem boundDriver_of_findLink
    (same : after.findLink (handle.entry driverEntry) = before.findLink (handle.entry driverEntry)) :
    handle.boundDriver after = handle.boundDriver before := by
  rw [boundDriver_eq, boundDriver_eq, linkName, linkName, FileSystem.readLink,
    FileSystem.readLink, same]

variable {place : Location} {node : Node}

/-- As long as the directory stays, and the link in it, the query answers the same. -/
theorem boundDriver_congr (caller : after.caller = before.caller)
    (found : before.find handle.directory = .ok (place, node))
    (stays : after.find handle.directory = before.find handle.directory)
    (link : after.tree.node? (driverName :: place) = before.tree.node? (driverName :: place)) :
    handle.boundDriver after = handle.boundDriver before := by
  have foundAfter := stays.trans found
  obtain ⟨_, _, stood⟩ := FileSystem.find_eq_ok_iff.1 found
  obtain ⟨_, _, stands⟩ := FileSystem.find_eq_ok_iff.1 foundAfter
  apply boundDriver_of_findLink
  rw [entry_driver]
  cases refused : (handle.directory.join ⟨driverName⟩).refusal? with
  | some fault =>
    rw [FileSystem.findLink_join _ plainName_driverName, refused,
      FileSystem.findLink_join _ plainName_driverName, refused]
  | none =>
    rw [FileSystem.findLink_entry foundAfter plainName_driverName refused,
      FileSystem.findLink_entry found plainName_driverName refused, FileSystem.entryIn,
      FileSystem.entryIn, stood, stands, link, caller]

/-- A path that is refused is not thereby absent, unless it is empty. -/
theorem isAbsence_refusal {base : HostPath} {name : Name} {fault : Fault} (plain : PlainName name)
    (refused : (base.join ⟨name⟩).refusal? = some fault) : fault.isAbsence = false := by
  have filled : (base.join ⟨name⟩).bytes.isEmpty = false := by
    have longer := HostPath.length_lt_join base plain
    cases written : (base.join ⟨name⟩).bytes with
    | nil => simp [written] at longer
    | cons _ _ => rfl
  rw [HostPath.refusal?, filled] at refused
  split at refused
  · cases refused
    rfl
  · simp only [Bool.false_eq_true, if_false] at refused
    split at refused
    · cases refused
      rfl
    · cases refused

/-- A query that answers has got to the entry. -/
theorem reached_of_boundDriver {current : Option String}
    (found : files.find handle.directory = .ok (place, node))
    (answered : handle.boundDriver files = .ok current) :
    (handle.entry driverEntry).refusal? = none ∧
      ∃ permissions, node = .directory permissions ∧ files.caller.may permissions.search = true := by
  obtain ⟨_, _, stands⟩ := FileSystem.find_eq_ok_iff.1 found
  rw [boundDriver_eq, entry_driver] at answered
  rw [entry_driver]
  cases refused : (handle.directory.join ⟨driverName⟩).refusal? with
  | some fault =>
    rw [FileSystem.findLink_join _ plainName_driverName, refused] at answered
    simp [isAbsence_refusal plainName_driverName refused] at answered
  | none =>
    refine ⟨rfl, ?_⟩
    rw [FileSystem.findLink_entry found plainName_driverName refused, FileSystem.entryIn,
      stands] at answered
    cases node with
    | file _ _ => simp [Fault.isAbsence] at answered
    | link _ => simp [Fault.isAbsence] at answered
    | directory permissions =>
      refine ⟨permissions, rfl, ?_⟩
      cases searchable : files.caller.may permissions.search with
      | true => rfl
      | false => simp [searchable, Fault.isAbsence] at answered

/-- A function without the link is bound to no driver. -/
theorem boundDriver_of_vacant {permissions : Permissions}
    (found : files.find handle.directory = .ok (place, .directory permissions))
    (accepted : (handle.entry driverEntry).refusal? = none)
    (searchable : files.caller.may permissions.search = true)
    (vacant : files.tree.node? (driverName :: place) = none) :
    handle.boundDriver files = .ok none := by
  obtain ⟨_, _, stands⟩ := FileSystem.find_eq_ok_iff.1 found
  have short : ¬ longestName < driverName.length := by decide
  rw [boundDriver_eq, entry_driver,
    FileSystem.findLink_entry found plainName_driverName accepted, FileSystem.entryIn, stands]
  simp [searchable, short, vacant, Fault.isAbsence]

/-- A function with the link is bound to the driver that the link names. -/
theorem boundDriver_of_link {permissions : Permissions} {target : HostPath}
    (found : files.find handle.directory = .ok (place, .directory permissions))
    (accepted : (handle.entry driverEntry).refusal? = none)
    (searchable : files.caller.may permissions.search = true)
    (stands : files.tree.node? (driverName :: place) = some (.link target))
    (named : target.fileName?.bind Text.ofBytes? = some driver) :
    handle.boundDriver files = .ok (some driver) := by
  obtain ⟨_, _, inside⟩ := FileSystem.find_eq_ok_iff.1 found
  have entry : files.entryIn place driverName = .ok (.link target) :=
    FileSystem.entryIn_eq_ok_iff.2 ⟨permissions, inside, searchable, by decide, stands⟩
  rw [boundDriver_eq_some_iff, entry_driver]
  refine ⟨target, ?_, named⟩
  rw [FileSystem.findLink_entry found plainName_driverName accepted, entry]
  rfl

end SingleRoot.Device.Handle
