/-
# Counts survive being written

A count that has been written in decimal is read back as it was, blanks being cut from both ends
first. Decimal digits are what the library writes for a number, so its laws on them carry most of
the proof.
-/
import SingleRoot.Text.Numeral
import SingleRoot.Text.Blank

namespace SingleRoot.Text

theorem digitValue?_of_isDigit {c : Char} (digit : c.isDigit = true) :
    digitValue? 10 c = some (c.toNat - '0'.toNat) := by
  simp only [Char.isDigit, Bool.and_eq_true, decide_eq_true_eq] at digit
  have inRange : '0' ≤ c ∧ c ≤ '9' := digit
  have high : c.toNat ≤ '9'.toNat := digit.2
  have small : c.toNat - '0'.toNat < 10 := by
    have : '9'.toNat = 57 := rfl
    have : '0'.toNat = 48 := rfl
    omega
  simp only [digitValue?, if_pos inRange, Option.filter, decide_eq_true_eq, if_pos small]

/-- Digits are read from the left, each one after ten times what stands before it. -/
theorem foldlM_digits (digits : List Char) (allDigits : ∀ c ∈ digits, c.isDigit = true)
    (value : Nat) :
    digits.foldlM (fun value c => (digitValue? 10 c).map (value * 10 + ·)) value =
      some (Nat.ofDigitChars 10 digits value) := by
  induction digits generalizing value with
  | nil => simp
  | cons c rest ih =>
    have head := digitValue?_of_isDigit (allDigits c (by simp))
    have tail := ih fun other among => allDigits other (by simp [among])
    simp [List.foldlM_cons, head, tail, Nat.ofDigitChars_cons, Nat.mul_comm]

theorem natural?_toDigits (n : Nat) : natural? 10 (Nat.toDigits 10 n) = some n := by
  have allDigits : ∀ c ∈ Nat.toDigits 10 n, c.isDigit = true := fun c among =>
    Nat.isDigit_of_mem_toDigits (by decide) (by decide) among
  have read := foldlM_digits (Nat.toDigits 10 n) allDigits 0
  rw [Nat.ofDigitChars_ten_toDigits] at read
  rw [natural?]
  · exact read
  · exact Nat.toDigits_ne_nil

/-- A number that is written in decimal reads as itself. -/
theorem word?_toDigits (n : UInt32) : word? (Nat.toDigits 10 n.toNat) = some n := by
  have unsigned : ∀ rest, Nat.toDigits 10 n.toNat ≠ '+' :: rest := by
    intro rest signed
    have digit := Nat.isDigit_of_mem_toDigits (b := 10) (n := n.toNat) (c := '+')
      (by decide) (by decide) (by simp [signed])
    revert digit
    decide
  have small : n.toNat < UInt32.size := n.toNat_lt
  rw [word?]
  · simp [natural?_toDigits, Option.filter, small]
  · exact unsigned

theorem isBlank_of_isDigit {c : Char} (digit : c.isDigit = true) : isBlank c = false := by
  simp only [Char.isDigit, Bool.and_eq_true, decide_eq_true_eq] at digit
  have low : '0'.toNat ≤ c.toNat := digit.1
  have high : c.toNat ≤ '9'.toNat := digit.2
  have : '0'.toNat = 48 := rfl
  have : '9'.toNat = 57 := rfl
  simp only [isBlank]
  grind

/-- Where no character is blank there is nothing to cut. -/
theorem trim_of_forall {characters : List Char} (solid : ∀ c ∈ characters, isBlank c = false) :
    trim characters = characters := by
  have front : characters.dropWhile isBlank = characters := by
    cases characters with
    | nil => rfl
    | cons c rest => simp [solid c (by simp)]
  have back : characters.reverse.dropWhile isBlank = characters.reverse := by
    have solidBack : ∀ c ∈ characters.reverse, isBlank c = false := by simpa using solid
    cases reversed : characters.reverse with
    | nil => rfl
    | cons c rest => simp [solidBack c (by simp [reversed])]
  rw [trim, front, back, List.reverse_reverse]

theorem trim_toDigits (n : Nat) : trim (Nat.toDigits 10 n) = Nat.toDigits 10 n :=
  trim_of_forall fun _ among =>
    isBlank_of_isDigit (Nat.isDigit_of_mem_toDigits (by decide) (by decide) among)

/-- A count that has been written reads as itself. -/
theorem word?_trim_decimal (n : UInt32) : word? (trim (decimal n.toNat).toList) = some n := by
  rw [decimal, String.toList_ofList, trim_toDigits, word?_toDigits]

end SingleRoot.Text
