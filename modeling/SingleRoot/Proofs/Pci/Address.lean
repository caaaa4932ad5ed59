/-
# How PCI addresses are written

The path of a device directory ends in an address that some caller has given, so that the check of
addresses decides which paths there can be. This module says what the check accepts in two ways that do not
follow it: `IsAddress` puts an address together from its fields, and `addressPattern` is the pattern that
addresses are usually described by. The pattern is anchored at both ends, so that it occurs in addresses only
and not in longer texts that contain one.

`address_told` collects what follows for a text: whether it passes, which error it gets otherwise, and that
what passes is a path of one name, twelve bytes long.
-/
import SingleRoot.Device.Error
import SingleRoot.Proofs.Host.Names
import SingleRoot.Proofs.Text.Pattern

namespace SingleRoot.Pci

open Device Host Text

/-! ## Fields and digits -/

/-- The ways to write the address of a PCI function: domain, bus, device and function. -/
def IsAddress (text : String) : Prop :=
  ∃ domain bus device function,
    text.toList = domain ++ ':' :: bus ++ ':' :: device ++ ['.', function] ∧
      domain.length = 4 ∧ bus.length = 2 ∧ device.length = 2 ∧
      (∀ c ∈ domain ++ bus ++ device, isHexDigit c = true) ∧ isFunctionDigit function = true

theorem isAddressText_iff {text : String} : isAddressText text = true ↔ IsAddress text := by
  rw [isAddressText]
  constructor
  · intro valid
    unfold isAddress at valid
    split at valid
    · rename_i m₁ m₂ m₃ m₄ b₁ b₂ d₁ d₂ f spelled
      simp only [Bool.and_eq_true, List.all_eq_true] at valid
      exact ⟨[m₁, m₂, m₃, m₄], [b₁, b₂], [d₁, d₂], f, spelled, rfl, rfl, rfl, valid⟩
    · cases valid
  · rintro ⟨domain, bus, device, function, spelled, four, two, twoMore, digits, last⟩
    obtain ⟨m₁, m₂, m₃, m₄, rfl⟩ := List.length_eq_four.1 four
    obtain ⟨b₁, b₂, rfl⟩ := List.length_eq_two.1 two
    obtain ⟨d₁, d₂, rfl⟩ := List.length_eq_two.1 twoMore
    rw [spelled]
    show ([m₁, m₂, m₃, m₄, b₁, b₂, d₁, d₂].all isHexDigit && isFunctionDigit function) = true
    rw [Bool.and_eq_true, List.all_eq_true]
    exact ⟨digits, last⟩

theorem isAddressText_eq_false_iff {text : String} :
    isAddressText text = false ↔ ¬ IsAddress text := by
  rw [← isAddressText_iff, Bool.not_eq_true]

/-- The hexadecimal digits, in both cases. -/
def hexDigits : List Char := "0123456789abcdefABCDEF".toList

/-- The digits that number a function. -/
def functionDigits : List Char := "01234567".toList

theorem mem_iff_toNat_mem {c : Char} {digits : List Char} :
    c ∈ digits ↔ c.toNat ∈ digits.map Char.toNat :=
  (List.mem_map_of_injective fun _ _ => Char.toNat_inj.1).symm

theorem isHexDigit_iff {c : Char} : isHexDigit c = true ↔ c ∈ hexDigits := by
  have codes : hexDigits.map Char.toNat = [48, 49, 50, 51, 52, 53, 54, 55, 56, 57,
      97, 98, 99, 100, 101, 102, 65, 66, 67, 68, 69, 70] := by
    decide +kernel
  rw [mem_iff_toNat_mem, codes]
  simp only [isHexDigit, Bool.or_eq_true, Bool.and_eq_true, decide_eq_true_eq, Char.le_def,
    UInt32.le_iff_toNat_le, Char.toNat_val, Char.reduceToNat, List.mem_cons, List.not_mem_nil, or_false]
  omega

theorem isFunctionDigit_iff {c : Char} : isFunctionDigit c = true ↔ c ∈ functionDigits := by
  have codes : functionDigits.map Char.toNat = [48, 49, 50, 51, 52, 53, 54, 55] := by
    decide +kernel
  rw [mem_iff_toNat_mem, codes]
  simp only [isFunctionDigit, Bool.and_eq_true, decide_eq_true_eq, Char.le_def,
    UInt32.le_iff_toNat_le, Char.toNat_val, Char.reduceToNat, List.mem_cons, List.not_mem_nil, or_false]
  omega

/-! ## The pattern -/

/-- The ranges of hexadecimal digits. -/
def hexRanges : List (Char × Char) := [('0', '9'), ('a', 'f'), ('A', 'F')]

/-- The runs of an address. -/
def addressRuns : List Run :=
  [⟨4, hexRanges⟩, .exactly ':', ⟨2, hexRanges⟩, .exactly ':', ⟨2, hexRanges⟩, .exactly '.',
    ⟨1, [('0', '7')]⟩]

/-- The pattern of addresses: nothing stands before the domain or after the function. -/
def addressPattern : Pattern :=
  .anchored addressRuns

theorem spells_hex_iff {count : Nat} {characters : List Char} :
    Run.Spells ⟨count, hexRanges⟩ characters ↔
      characters.length = count ∧ ∀ c ∈ characters, isHexDigit c = true := by
  simp [Run.Spells, hexRanges, isHexDigit, or_assoc]

theorem spells_function_iff {characters : List Char} :
    Run.Spells ⟨1, [('0', '7')]⟩ characters ↔
      ∃ function, characters = [function] ∧ isFunctionDigit function = true := by
  constructor
  · rintro ⟨single, digits⟩
    obtain ⟨function, rfl⟩ := List.length_eq_one_iff.1 single
    exact ⟨function, rfl, by simpa [isFunctionDigit] using digits⟩
  · rintro ⟨function, rfl, digit⟩
    exact ⟨rfl, by simpa [isFunctionDigit] using digit⟩

/-- The texts that can be cut into the runs of the pattern are the addresses. -/
theorem cutInto_addressRuns_iff {text : String} :
    CutInto text.toList addressRuns ↔ IsAddress text := by
  simp only [addressRuns, cutInto_cons_iff, cutInto_nil_iff, Run.spells_exactly_iff, spells_hex_iff,
    spells_function_iff]
  constructor
  · rintro ⟨domain, _, spelled, ⟨four, hexDomain⟩, _, _, rfl, rfl, bus, _, rfl, ⟨two, hexBus⟩,
      _, _, rfl, rfl, device, _, rfl, ⟨twoMore, hexDevice⟩, _, _, rfl, rfl, _, _, rfl,
      ⟨function, rfl, last⟩, rfl⟩
    refine ⟨domain, bus, device, function, by simp [spelled], four, two, twoMore, ?_, last⟩
    simp only [List.forall_mem_append]
    exact ⟨⟨hexDomain, hexBus⟩, hexDevice⟩
  · rintro ⟨domain, bus, device, function, spelled, four, two, twoMore, digits, last⟩
    simp only [List.forall_mem_append] at digits
    obtain ⟨⟨hexDomain, hexBus⟩, hexDevice⟩ := digits
    refine ⟨domain, _, ?_, ⟨four, hexDomain⟩, _, _, rfl, rfl, bus, _, rfl, ⟨two, hexBus⟩,
      _, _, rfl, rfl, device, _, rfl, ⟨twoMore, hexDevice⟩, _, _, rfl, rfl, _, _, rfl,
      ⟨function, rfl, last⟩, rfl⟩
    simp [spelled]

theorem occursIn_addressPattern_iff {text : String} :
    addressPattern.OccursIn text.toList ↔ IsAddress text := by
  rw [addressPattern, Pattern.occursIn_anchored_iff, cutInto_addressRuns_iff]

/-! ## What the check tells -/

/-- What the check of addresses comes to for a text: whether the text is accepted, and the answer to a caller
who asks for an address. -/
structure AddressTold (text : String) (accepted : Bool) (answer : Except DeviceError Unit) : Prop where
  /-- Addresses are accepted, and nothing else. -/
  spelled : accepted = true ↔ IsAddress text
  /-- They are the texts in which the pattern occurs. -/
  matched : accepted = true ↔ addressPattern.OccursIn text.toList
  passed : answer = .ok () ↔ IsAddress text
  /-- Another text is given back as it is. -/
  refused : ∀ error, answer = .error error ↔ ¬ IsAddress text ∧ error = .invalidAddress text
  length_eq : accepted = true → (toBytes text).length = 12
  /-- As a path, an address is one name. -/
  component : accepted = true → (HostPath.ofText text).components = [.name (toBytes text)]

theorem checkAddress_eq_ok_iff {text : String} : checkAddress text = .ok () ↔ IsAddress text := by
  rw [checkAddress, ← isAddressText_iff]
  cases isAddressText text <;> simp

theorem checkAddress_eq_error_iff {text : String} {error : DeviceError} :
    checkAddress text = .error error ↔ ¬ IsAddress text ∧ error = .invalidAddress text := by
  rw [checkAddress, ← isAddressText_iff]
  cases isAddressText text with
  | true => simp
  | false =>
    constructor
    · rintro ⟨⟩
      exact ⟨Bool.false_ne_true, rfl⟩
    · rintro ⟨_, rfl⟩
      rfl

/-- The check tells addresses from all other texts, and its digits are those of ASCII. -/
theorem address_told :
    (∀ text, AddressTold text (isAddressText text) (checkAddress text)) ∧
      (∀ c, isHexDigit c = true ↔ c ∈ hexDigits) ∧
      ∀ c, isFunctionDigit c = true ↔ c ∈ functionDigits := by
  refine ⟨fun text => ?_, fun _ => isHexDigit_iff, fun _ => isFunctionDigit_iff⟩
  exact
    { spelled := isAddressText_iff
      matched := isAddressText_iff.trans occursIn_addressPattern_iff.symm
      passed := checkAddress_eq_ok_iff
      refused := fun _ => checkAddress_eq_error_iff
      length_eq := length_toBytes
      component := fun valid =>
        HostPath.components_of_plain (isNameText_of_isAddressText valid).plainName }

/-- Neither a line break at the end nor a digit of another script makes an address. -/
example : isAddressText "0000:01:00.0\n" = false ∧ isAddressText "000\uff10:01:00.0" = false := by
  decide

end SingleRoot.Pci
