/-
# What a provisioning comes to

A provisioning reads the count, compares, refuses a change from one number to another, and writes. Seen
from outside only its result and the two machines matter, and `Settled` says how they hang together.
Success can be read back, has touched one file at most, and can be repeated for nothing. Failure has changed
nothing. And where a count is there, only a change from one number to another is refused, and otherwise
only the write can fail. The course of the call is in `SingleRoot.Proofs.Device.Provisioning`.
-/
import SingleRoot.Proofs.Device.Counting
import SingleRoot.Proofs.Host.Overwriting

namespace SingleRoot.Device.Handle

open Host

/-- Between two file systems at most the file has been written that the count stands in. It is left alone
where it reads as the new count already, and otherwise holds that count in decimal. -/
def Renumbered (handle : Handle) (count : UInt32) (before after : FileSystem) : Prop :=
  ∃ location permissions content,
    before.find (handle.entry configuredEntry) = .ok (location, .file permissions content) ∧
      ((Text.count? content = some count ∧ after = before) ∨
        (Text.count? content ≠ some count ∧
          before.Overwritten location (Text.toBytes (Text.decimal count.toNat)) after ∧
          after.find (handle.entry configuredEntry) =
            .ok (location, .file permissions (Text.toBytes (Text.decimal count.toNat)))))

/-- A provisioning that has met a machine, ended with a result and left another machine. -/
structure Settled (handle : Handle) (count : UInt32) (before : Machine)
    (result : Except DeviceError Unit) (after : Machine) : Prop where
  /-- The count that was asked for is the one that can be read afterwards. -/
  readBack : result = .ok () → handle.configured after.files = .ok count
  /-- Nothing but the file of the count has changed. -/
  renumbered : result = .ok () → handle.Renumbered count before.files after.files
  /-- Asking for the same count once more succeeds and changes neither a file nor a counter. -/
  repeated : result = .ok () → ∃ last, (handle.provision count).run after = (.ok (), last) ∧
    last.files = after.files ∧ last.tally = after.tally
  /-- A failure has changed neither a file nor a counter. -/
  failed : ∀ error, result = .error error →
    after.files = before.files ∧ after.tally = before.tally
  /-- The call is refused exactly where it would change one number to another. -/
  refused : ∀ address held wanted, result = .error (.alreadyProvisioned address held wanted) ↔
    address = handle.address ∧ wanted = count ∧ handle.configured before.files = .ok held ∧
      held ≠ 0 ∧ count ≠ 0 ∧ held ≠ count
  /-- From zero or to zero, only a write that fails makes it fail. -/
  throughZero : ∀ held, handle.configured before.files = .ok held → held = 0 ∨ count = 0 →
    ∀ error, result = .error error ↔
      held ≠ count ∧ ∃ fault,
        before.files.write (handle.entry configuredEntry)
          (Text.toBytes (Text.decimal count.toNat)) = .error fault ∧
        error = .io handle.address (handle.entry configuredEntry) fault

variable {handle : Handle} {count held : UInt32} {before after : Machine}
  {result : Except DeviceError Unit}

/-- A file system in which the count reads as the new one already needs no change. -/
theorem renumbered_refl {files : FileSystem} (reads : handle.configured files = .ok count) :
    handle.Renumbered count files files := by
  obtain ⟨location, permissions, content, found, _, counts⟩ := readCount_eq_ok_iff.1 reads
  exact ⟨location, permissions, content, found, .inl ⟨counts, rfl⟩⟩

/-- A write of another count goes to the file that the count has been read from, and is read back. -/
theorem renumbered_of_write {files written : FileSystem} (reads : handle.configured files = .ok held)
    (other : held ≠ count)
    (wrote : files.write (handle.entry configuredEntry)
      (Text.toBytes (Text.decimal count.toNat)) = .ok written) :
    handle.Renumbered count files written ∧ handle.configured written = .ok count := by
  obtain ⟨location, permissions, content, found, readable, counts⟩ := readCount_eq_ok_iff.1 reads
  have change := FileSystem.overwritten_of_write found wrote
  have foundAfter := change.written.find_file found
  rw [if_pos rfl] at foundAfter
  constructor
  · refine ⟨location, permissions, content, found, .inr ⟨?_, change, foundAfter⟩⟩
    rw [counts]
    intro same
    exact other (Option.some.inj same)
  · apply readCount_eq_ok_iff.2
    refine ⟨location, permissions, _, foundAfter, ?_, Text.count?_decimal count⟩
    rw [change.written.caller]
    exact readable

/-- Where a count is there already, asking for it changes nothing. -/
theorem provision_of_configured (reads : handle.configured before.files = .ok count) :
    ∃ last, (handle.provision count).run before = (.ok (), last) ∧
      last.files = before.files ∧ last.tally = before.tally := by
  have ran : (handle.provision count).run before = (.ok (), { before with
      journal := before.journal ++ [.alreadyProvisioned handle.address count] }) := by
    rw [provision, Action.run_bind, Action.run_ask, reads]
    simp only [if_pos, Action.run_note]
  exact ⟨_, ran, rfl, rfl⟩

/-- A provisioning that succeeds has changed the file of the count at most, and can be read back. -/
theorem renumbered_of_provision (ran : (handle.provision count).run before = (.ok (), after)) :
    handle.Renumbered count before.files after.files ∧
      handle.configured after.files = .ok count := by
  cases provisioning_of_run ran with
  | unneeded held untouched =>
    rw [untouched.files]
    exact ⟨renumbered_refl held, held⟩
  | done held other _ tried => exact renumbered_of_write held other (tried.made rfl)

/-- A provisioning that fails leaves the files alone. -/
theorem files_of_failure {error : DeviceError}
    (ran : (handle.provision count).run before = (.error error, after)) :
    after.files = before.files := by
  cases provisioning_of_run ran with
  | unknown _ => rfl
  | refused _ _ _ _ => rfl
  | failed _ _ _ tried => exact (tried.failed _ rfl).2

/-- A provisioning that fails counts nothing. -/
theorem tally_of_failure {error : DeviceError}
    (ran : (handle.provision count).run before = (.error error, after)) :
    after.tally = before.tally := by
  rw [tally_of_provision ran]
  split <;> rfl

theorem not_filled (throughZero : held = 0 ∨ count = 0) : ¬ (held ≠ 0 ∧ count ≠ 0) := by
  rintro ⟨filled, wanted⟩
  exact throughZero.elim filled wanted

/-- What a provisioning answers where a count is read. -/
theorem result_of_provision (ran : (handle.provision count).run before = (result, after))
    (reads : handle.configured before.files = .ok held) :
    result = if held = count then .ok ()
      else if held ≠ 0 ∧ count ≠ 0 then .error (.alreadyProvisioned handle.address held count)
      else match before.files.write (handle.entry configuredEntry)
          (Text.toBytes (Text.decimal count.toNat)) with
        | .ok _ => .ok ()
        | .error fault => .error (.io handle.address (handle.entry configuredEntry) fault) := by
  cases provisioning_of_run ran with
  | unknown unknown => cases reads.symm.trans unknown
  | unneeded same _ =>
    cases reads.symm.trans same
    rw [if_pos rfl]
  | refused same other filled wanted =>
    cases reads.symm.trans same
    rw [if_neg other, if_pos ⟨filled, wanted⟩]
  | failed same other throughZero tried =>
    cases reads.symm.trans same
    rw [if_neg other, if_neg (not_filled throughZero), (tried.failed _ rfl).1]
  | done same other throughZero tried =>
    cases reads.symm.trans same
    rw [if_neg other, if_neg (not_filled throughZero), tried.made rfl]

/-- Only a count that is there, and neither zero nor wanted nor to be reset, refuses a provisioning. -/
theorem refused_iff (ran : (handle.provision count).run before = (result, after)) {address : String}
    {wanted : UInt32} :
    result = .error (.alreadyProvisioned address held wanted) ↔
      address = handle.address ∧ wanted = count ∧ handle.configured before.files = .ok held ∧
        held ≠ 0 ∧ count ≠ 0 ∧ held ≠ count := by
  constructor
  · intro refused
    subst refused
    cases provisioning_of_run ran with
    | unknown unknown => exact absurd unknown readCount_ne_alreadyProvisioned
    | refused reads other filled wanted => exact ⟨rfl, rfl, reads, filled, wanted, other⟩
  · rintro ⟨rfl, rfl, reads, filled, wanted, other⟩
    rw [result_of_provision ran reads, if_neg other, if_pos ⟨filled, wanted⟩]

/-- From zero or to zero a provisioning fails with the fault of its write and in no other way. -/
theorem failed_iff (ran : (handle.provision count).run before = (result, after))
    (reads : handle.configured before.files = .ok held) (throughZero : held = 0 ∨ count = 0)
    {error : DeviceError} :
    result = .error error ↔
      held ≠ count ∧ ∃ fault,
        before.files.write (handle.entry configuredEntry)
          (Text.toBytes (Text.decimal count.toNat)) = .error fault ∧
        error = .io handle.address (handle.entry configuredEntry) fault := by
  rw [result_of_provision ran reads, if_neg (not_filled throughZero)]
  by_cases same : held = count
  · simp [same]
  · rw [if_neg same]
    cases before.files.write (handle.entry configuredEntry)
        (Text.toBytes (Text.decimal count.toNat)) with
    | ok files => simp
    | error fault => simp [same, eq_comm]

/-- A provisioning is exact, can be repeated, and leaves no trace where it fails. -/
theorem settled_of_provision (handle : Handle) (count : UInt32) (before : Machine) :
    handle.Settled count before ((handle.provision count).run before).1
      ((handle.provision count).run before).2 := by
  cases ran : (handle.provision count).run before with
  | mk result after =>
    constructor
    case readBack =>
      rintro rfl
      exact (renumbered_of_provision ran).2
    case renumbered =>
      rintro rfl
      exact (renumbered_of_provision ran).1
    case repeated =>
      rintro rfl
      exact provision_of_configured (renumbered_of_provision ran).2
    case failed =>
      rintro error rfl
      exact ⟨files_of_failure ran, tally_of_failure ran⟩
    case refused =>
      intro address held wanted
      exact refused_iff ran
    case throughZero =>
      intro held reads throughZero error
      exact failed_iff ran reads throughZero

end SingleRoot.Device.Handle
