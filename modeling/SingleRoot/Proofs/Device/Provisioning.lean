/-
# The course of a provisioning

The number of virtual functions is read from a file and written to it. This module says when a file
reads as a number, lists the ways that a provisioning can take, and shows what they come to: the file
that is written is the one that has been read, wherever links may lead, and it then reads as the number
that was asked for.
-/
import SingleRoot.Device.Provision
import SingleRoot.Proofs.Device.Effects
import SingleRoot.Proofs.Host.Keeping
import SingleRoot.Proofs.Text.Counts
import SingleRoot.Proofs.Text.Decoding

namespace SingleRoot

open Host

/-- The number that the content of a file reads as, if it is text and a number. -/
def Text.count? (content : Bytes) : Option UInt32 :=
  (Text.ofBytes? content).bind fun text => Text.word? (Text.trim text.toList)

/-- A number that is written reads as itself. -/
@[simp] theorem Text.count?_decimal (count : UInt32) :
    Text.count? (Text.toBytes (Text.decimal count.toNat)) = some count := by
  rw [Text.count?, Text.ofBytes?_toBytes]
  exact Text.word?_trim_decimal count

namespace Device.Handle

variable {handle : Handle} {name : String} {files before after : FileSystem} {count : UInt32}

/-- A count is read when the file is there, may be read, and holds it. -/
theorem readCount_eq_ok_iff :
    handle.readCount name files = .ok count ↔
      ∃ location permissions content,
        files.find (handle.entry name) = .ok (location, .file permissions content) ∧
          files.caller.may permissions.read = true ∧ Text.count? content = some count := by
  have reads : handle.readCount name files = .ok count ↔
      ∃ content, files.read (handle.entry name) = .ok content ∧
        Text.count? content = some count := by
    simp only [readCount, FileSystem.readText]
    cases files.read (handle.entry name) with
    | error fault => simp [bind, Except.bind]
    | ok content =>
      simp only [bind, Except.bind, Text.count?, Except.ok.injEq, exists_eq_left']
      cases Text.ofBytes? content with
      | none => simp
      | some text =>
        simp only [Option.bind_some]
        cases Text.word? (Text.trim text.toList) <;> simp
  rw [reads]
  constructor
  · rintro ⟨content, read, counts⟩
    obtain ⟨location, permissions, found, readable⟩ := FileSystem.read_eq_ok_iff.1 read
    exact ⟨location, permissions, content, found, readable, counts⟩
  · rintro ⟨location, permissions, content, found, readable, counts⟩
    exact ⟨content, FileSystem.read_eq_ok_iff.2 ⟨location, permissions, found, readable⟩, counts⟩

/-- The ways of a provisioning. -/
inductive Provisioning (handle : Handle) (count : UInt32) :
    Machine → Except DeviceError Unit → Machine → Prop
  | unknown {error : DeviceError} {machine : Machine}
      (unknown : handle.configured machine.files = .error error) :
      Provisioning handle count machine (.error error) machine
  | unneeded {before after : Machine} (held : handle.configured before.files = .ok count)
      (untouched : before.Untouched after) : Provisioning handle count before (.ok ()) after
  | refused {configured : UInt32} {machine : Machine}
      (held : handle.configured machine.files = .ok configured) (other : configured ≠ count)
      (filled : configured ≠ 0) (wanted : count ≠ 0) :
      Provisioning handle count machine
        (.error (.alreadyProvisioned handle.address configured count)) machine
  | failed {configured : UInt32} {fault : Fault} {before after : Machine}
      (held : handle.configured before.files = .ok configured) (other : configured ≠ count)
      (throughZero : configured = 0 ∨ count = 0)
      (tried : before.Tried (handle.entry configuredEntry) (Text.decimal count.toNat) (some fault)
        after) :
      Provisioning handle count before
        (.error (.io handle.address (handle.entry configuredEntry) fault)) after
  | done {configured : UInt32} {before after : Machine}
      (held : handle.configured before.files = .ok configured) (other : configured ≠ count)
      (throughZero : configured = 0 ∨ count = 0)
      (tried : before.Tried (handle.entry configuredEntry) (Text.decimal count.toNat) none after) :
      Provisioning handle count before (.ok ()) after

/-- A provisioning takes one of these ways. -/
theorem provisioning_of_run {before after : Machine} {result : Except DeviceError Unit}
    (ran : (handle.provision count).run before = (result, after)) :
    Provisioning handle count before result after := by
  rw [provision, Action.run_bind, Action.run_ask] at ran
  cases held : handle.configured before.files with
  | error error =>
    rw [held] at ran
    cases ran
    exact .unknown held
  | ok configured =>
    simp only [held] at ran
    split at ran
    · rename_i same
      subst same
      cases ran
      exact .unneeded held ⟨rfl, rfl, rfl⟩
    · rename_i other
      split at ran
      · rename_i both
        cases ran
        exact .refused held other both.1 both.2
      · rename_i either
        have throughZero : configured = 0 ∨ count = 0 := by
          by_cases zero : configured = 0
          · exact .inl zero
          · exact .inr (Decidable.byContradiction fun filled => either ⟨zero, filled⟩)
        simp only [Action.run_bind, Action.run_write] at ran
        cases wrote : before.write (handle.entry configuredEntry)
            (Text.toBytes (Text.decimal count.toNat)) with
        | mk fault? written =>
          have tried := Machine.tried_write wrote
          rw [wrote] at ran
          cases fault? with
          | some fault =>
            cases ran
            exact .failed held other throughZero tried
          | none =>
            cases ran
            exact .done held other throughZero
              (tried.amid_untouched ⟨rfl, rfl, rfl⟩ ⟨rfl, rfl, rfl⟩)

/-! ## What a provisioning does to a file -/

/-- A provisioning leaves a file alone, or it is the one that it has read and written: then the number
goes from zero or to zero. -/
theorem find_of_provisioning {before after : Machine} {result : Except DeviceError Unit}
    (provisioning : Provisioning handle count before result after) {path : HostPath}
    {location : Location} {permissions : Permissions} {content : Bytes}
    (found : before.files.find path = .ok (location, .file permissions content)) :
    after.files.find path = .ok (location, .file permissions content) ∨
      result = .ok () ∧
        (∃ configured, Text.count? content = some configured ∧ (configured = 0 ∨ count = 0)) ∧
        after.files.find path =
          .ok (location, .file permissions (Text.toBytes (Text.decimal count.toNat))) := by
  cases provisioning with
  | unknown unknown => exact .inl found
  | unneeded held untouched =>
    rw [untouched.files]
    exact .inl found
  | refused held other filled wanted => exact .inl found
  | failed held other throughZero tried =>
    rw [(tried.failed _ rfl).2]
    exact .inl found
  | @done configured _ _ held other throughZero tried =>
    obtain ⟨there, granted, former, read, _, counts⟩ := readCount_eq_ok_iff.1 held
    obtain ⟨landing, ends, change⟩ := FileSystem.fileWritten_of_write (tried.made rfl)
    cases (FileSystem.resolve_produce read).symm.trans ends
    rw [change.find_file found]
    by_cases here : location = there
    · subst here
      obtain ⟨_, _, stands⟩ := FileSystem.find_eq_ok_iff.1 found
      obtain ⟨_, _, standsToo⟩ := FileSystem.find_eq_ok_iff.1 read
      cases stands.symm.trans standsToo
      exact .inr ⟨rfl, ⟨configured, counts, throughZero⟩, by simp [Landing.location]⟩
    · exact .inl (by simp [Landing.location, here])

/-! ## Resetting -/

/-- A query for a count that fails is not a refusal. -/
theorem readCount_ne_alreadyProvisioned {address : String} {configured requested : UInt32} :
    handle.readCount name files ≠ .error (.alreadyProvisioned address configured requested) := by
  simp only [readCount]
  cases files.readText (handle.entry name) with
  | error fault => simp
  | ok text =>
    dsimp only
    split <;> simp

/-- A reset is never refused for the number that is there. -/
theorem reset_not_refused (handle : Handle) (machine : Machine) (address : String)
    (configured requested : UInt32) :
    ((handle.provision 0).run machine).1 ≠
      .error (.alreadyProvisioned address configured requested) := by
  cases ran : (handle.provision 0).run machine with
  | mk result after =>
    intro refused
    cases refused
    cases provisioning_of_run ran with
    | unknown unknown => exact readCount_ne_alreadyProvisioned unknown
    | refused held other filled wanted => exact wanted rfl

/-- The count of a function stands in a file that may be read and written. -/
structure CountStands (handle : Handle) (files : FileSystem) (location : Location)
    (permissions : Permissions) (count : UInt32) : Prop where
  found : ∃ content, files.find (handle.entry configuredEntry) =
    .ok (location, .file permissions content) ∧ Text.count? content = some count
  readable : files.caller.may permissions.read = true
  writable : files.caller.may permissions.write = true

variable {location : Location} {permissions : Permissions} {held : UInt32}

theorem CountStands.configured (stands : handle.CountStands files location permissions held) :
    handle.configured files = .ok held := by
  obtain ⟨content, found, counts⟩ := stands.found
  exact readCount_eq_ok_iff.2
    ⟨location, permissions, content, found, stands.readable, counts⟩

/-- Where the count can be read and written, a provisioning from zero or to zero succeeds, and the count
then is the one that was asked for. -/
theorem CountStands.provision {machine : Machine}
    (stands : handle.CountStands machine.files location permissions held)
    (throughZero : held = 0 ∨ count = 0) :
    ∃ after, (handle.provision count).run machine = (.ok (), after) ∧
      handle.CountStands after.files location permissions count := by
  cases ran : (handle.provision count).run machine with
  | mk result after =>
    cases provisioning_of_run ran with
    | unknown unknown => cases stands.configured.symm.trans unknown
    | unneeded same untouched =>
      cases stands.configured.symm.trans same
      exact ⟨after, rfl, untouched.files ▸ stands⟩
    | refused same other filled wanted =>
      cases stands.configured.symm.trans same
      exact absurd throughZero (not_or.2 ⟨filled, wanted⟩)
    | failed same other _ tried =>
      obtain ⟨content, found, _⟩ := stands.found
      have refused := (tried.failed _ rfl).1
      rw [FileSystem.write_of_find found stands.writable] at refused
      cases refused
    | done same other _ tried =>
      obtain ⟨content, found, _⟩ := stands.found
      obtain ⟨landing, ends, change⟩ := FileSystem.fileWritten_of_write (tried.made rfl)
      cases (FileSystem.resolve_produce found).symm.trans ends
      refine ⟨after, rfl, ⟨_, change.find_file found, ?_⟩, ?_, ?_⟩
      · simp [Landing.location]
      · rw [change.caller]
        exact stands.readable
      · rw [change.caller]
        exact stands.writable

end Device.Handle
end SingleRoot
