/-
# What a count file says

The two counts of a physical function stand in files, as text for people: a number with white space around
it. `CountTold` says for every content of such a file what the query for it answers. The grammar decides
which contents are a count and of what value; any other text is given back without the white space at its
ends, and what cannot be read or is no text is a fault of the host.
-/
import SingleRoot.Proofs.Device.Provisioning
import SingleRoot.Proofs.Text.Encoding
import SingleRoot.Proofs.Text.Trimming

namespace SingleRoot.Device.Handle

open Host

/-- An answer is the one that an entry of the function's directory calls for. -/
structure CountTold (handle : Handle) (files : FileSystem) (name : String)
    (answer : Except DeviceError UInt32) : Prop where
  /-- A count is told exactly by the texts that spell it. -/
  counted : ∀ count, answer = .ok count ↔
    ∃ text, files.read (handle.entry name) = .ok (Text.toBytes text) ∧
      Text.IsCountText text.toList count.toNat
  /-- Any other text is given back without the white space at its ends. -/
  miscounted : ∀ text, files.read (handle.entry name) = .ok (Text.toBytes text) →
    (∀ count : UInt32, ¬ Text.IsCountText text.toList count.toNat) →
      ∃ core, Text.Trims text.toList core.toList ∧
        answer = .error (.parse handle.address (handle.entry name) core)
  /-- Bytes that spell no text are a fault. -/
  garbled : ∀ content, files.read (handle.entry name) = .ok content →
    (∀ text, content ≠ Text.toBytes text) →
      answer = .error (.io handle.address (handle.entry name) .notText)
  /-- So is a file that cannot be read. -/
  unreadable : ∀ fault, files.read (handle.entry name) = .error fault →
    answer = .error (.io handle.address (handle.entry name) fault)
  /-- A count that has been written in decimal is told. -/
  written : ∀ count : UInt32,
    files.read (handle.entry name) = .ok (Text.toBytes (Text.decimal count.toNat)) →
      answer = .ok count

variable {handle : Handle} {files : FileSystem} {name : String}

theorem readCount_of_unreadable {fault : Fault}
    (unreadable : files.read (handle.entry name) = .error fault) :
    handle.readCount name files = .error (.io handle.address (handle.entry name) fault) := by
  simp only [readCount, FileSystem.readText, unreadable, bind, Except.bind]

/-- What is read is text where the bytes spell one. -/
theorem readCount_of_read {content : Bytes} (read : files.read (handle.entry name) = .ok content) :
    handle.readCount name files =
      match Text.ofBytes? content with
      | none => .error (.io handle.address (handle.entry name) .notText)
      | some text =>
        match Text.word? (Text.trim text.toList) with
        | some count => .ok count
        | none => .error (.parse handle.address (handle.entry name)
            (String.ofList (Text.trim text.toList))) := by
  simp only [readCount, FileSystem.readText, read, bind, Except.bind]
  cases Text.ofBytes? content <;> rfl

theorem readCount_of_text {text : String}
    (read : files.read (handle.entry name) = .ok (Text.toBytes text)) :
    handle.readCount name files =
      match Text.word? (Text.trim text.toList) with
      | some count => .ok count
      | none => .error (.parse handle.address (handle.entry name)
          (String.ofList (Text.trim text.toList))) := by
  rw [readCount_of_read read, Text.ofBytes?_toBytes]

/-- A text tells the count that it spells and no other. -/
theorem readCount_eq_ok_iff_isCountText {text : String} {count : UInt32}
    (read : files.read (handle.entry name) = .ok (Text.toBytes text)) :
    handle.readCount name files = .ok count ↔ Text.IsCountText text.toList count.toNat := by
  rw [← Text.word?_trim_eq_some_iff, readCount_of_text read]
  cases Text.word? (Text.trim text.toList) <;> simp

theorem countTold_readCount (handle : Handle) (files : FileSystem) (name : String) :
    handle.CountTold files name (handle.readCount name files) where
  counted count := by
    constructor
    · intro told
      cases read : files.read (handle.entry name) with
      | error fault => cases (readCount_of_unreadable read).symm.trans told
      | ok content =>
        cases reads : Text.ofBytes? content with
        | none =>
          rw [readCount_of_read read, reads] at told
          cases told
        | some text =>
          have spelled := Text.ofBytes?_eq_some_iff.1 reads
          subst spelled
          exact ⟨text, rfl, (readCount_eq_ok_iff_isCountText read).1 told⟩
    · rintro ⟨text, read, spells⟩
      exact (readCount_eq_ok_iff_isCountText read).2 spells
  miscounted text read other := by
    refine ⟨String.ofList (Text.trim text.toList), ?_, ?_⟩
    · rw [String.toList_ofList]
      exact Text.trims_trim text.toList
    · cases counts : Text.word? (Text.trim text.toList) with
      | none => rw [readCount_of_text read, counts]
      | some count => exact absurd (Text.word?_trim_eq_some_iff.1 counts) (other count)
  garbled content read other := by
    cases reads : Text.ofBytes? content with
    | none => rw [readCount_of_read read, reads]
    | some text => exact absurd (Text.ofBytes?_eq_some_iff.1 reads) (other text)
  unreadable fault := readCount_of_unreadable
  written count read := by
    rw [readCount_of_text read, Text.word?_trim_decimal]

/-- The counts of a function are told by the grammar of its two count files. -/
theorem counts_told (handle : Handle) (files : FileSystem) :
    handle.CountTold files capacityEntry (handle.capacity files) ∧
      handle.CountTold files configuredEntry (handle.configured files) :=
  ⟨handle.countTold_readCount files capacityEntry, handle.countTold_readCount files configuredEntry⟩

end SingleRoot.Device.Handle
