/-
# What reads as a count

A count is read from an optional plus sign and one or more decimal digits, any number of leading zeros
among them, and from nothing else. `IsNumeral` is that grammar, and `word?_eq_some_iff` says that the
reader accepts exactly the numerals of the counts below 2^32, each with its value. The value of the digits
is the library's, so that the grammar shares no step with the reader.
-/
import SingleRoot.Proofs.Text.Counts

namespace SingleRoot.Text

/-- The ways to write a number: an optional plus sign and decimal digits with that value. -/
def IsNumeral (characters : List Char) (value : Nat) : Prop :=
  ∃ digits, (characters = digits ∨ characters = '+' :: digits) ∧ digits ≠ [] ∧
    (∀ c ∈ digits, c.isDigit = true) ∧ Nat.ofDigitChars 10 digits 0 = value

/-- Only a decimal digit has a value in decimal. -/
theorem isDigit_of_digitValue? {c : Char} {value : Nat} (valued : digitValue? 10 c = some value) :
    c.isDigit = true := by
  simp only [digitValue?, Option.filter_eq_some_iff, decide_eq_true_eq] at valued
  obtain ⟨valued, small⟩ := valued
  split at valued
  · rename_i digit
    simp only [Char.isDigit, Bool.and_eq_true, decide_eq_true_eq]
    exact digit
  · split at valued
    · cases valued
      omega
    · split at valued
      · cases valued
        omega
      · cases valued

/-- Reading digits from the left fails at anything else. -/
theorem isDigit_of_foldlM {characters : List Char} {before value : Nat}
    (read : characters.foldlM (fun value c => (digitValue? 10 c).map (value * 10 + ·)) before =
      some value) : ∀ c ∈ characters, c.isDigit = true := by
  induction characters generalizing before with
  | nil => exact List.forall_mem_nil _
  | cons c rest ih =>
    rw [List.foldlM_cons] at read
    cases here : digitValue? 10 c with
    | none => simp [here] at read
    | some digit =>
      rw [here] at read
      exact List.forall_mem_cons.2 ⟨isDigit_of_digitValue? here, ih read⟩

theorem natural?_eq_some_iff {characters : List Char} {value : Nat} :
    natural? 10 characters = some value ↔
      characters ≠ [] ∧ (∀ c ∈ characters, c.isDigit = true) ∧
        Nat.ofDigitChars 10 characters 0 = value := by
  cases characters with
  | nil => simp [natural?]
  | cons c rest =>
    rw [natural?]
    · constructor
      · intro read
        have digits := isDigit_of_foldlM read
        rw [foldlM_digits _ digits] at read
        exact ⟨by simp, digits, Option.some.inj read⟩
      · rintro ⟨_, digits, rfl⟩
        exact foldlM_digits _ digits 0
    · simp

/-- What follows the sign of a number, if it has one. -/
def unsigned (characters : List Char) : List Char :=
  match characters with
  | '+' :: rest => rest
  | _ => characters

theorem unsigned_of_isDigit {digits : List Char} (allDigits : ∀ c ∈ digits, c.isDigit = true) :
    unsigned digits = digits := by
  unfold unsigned
  split
  · rename_i rest
    exact absurd (allDigits '+' (by simp)) (by decide)
  · rfl

theorem isNumeral_iff {characters : List Char} {value : Nat} :
    IsNumeral characters value ↔ natural? 10 (unsigned characters) = some value := by
  rw [natural?_eq_some_iff]
  constructor
  · rintro ⟨digits, rfl | rfl, filled, allDigits, valued⟩
    · rw [unsigned_of_isDigit allDigits]
      exact ⟨filled, allDigits, valued⟩
    · exact ⟨filled, allDigits, valued⟩
  · rintro ⟨filled, allDigits, valued⟩
    refine ⟨unsigned characters, ?_, filled, allDigits, valued⟩
    unfold unsigned
    split
    · exact .inr rfl
    · exact .inl rfl

/-- A count is read from the numerals of its value. -/
theorem word?_eq_some_iff {characters : List Char} {count : UInt32} :
    word? characters = some count ↔ IsNumeral characters count.toNat := by
  have reads : word? characters =
      ((natural? 10 (unsigned characters)).filter (· < UInt32.size)).map UInt32.ofNat := by
    rfl
  rw [isNumeral_iff, reads]
  constructor
  · intro read
    obtain ⟨value, kept, rfl⟩ := Option.map_eq_some_iff.1 read
    obtain ⟨natural, small⟩ := Option.filter_eq_some_iff.1 kept
    rw [UInt32.toNat_ofNat_of_lt' (of_decide_eq_true small)]
    exact natural
  · intro natural
    have small := count.toNat_lt
    simp [natural, Option.filter, small]

end SingleRoot.Text
