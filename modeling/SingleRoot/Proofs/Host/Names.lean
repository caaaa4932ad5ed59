/-
# Names that are spelled in ASCII

Addresses and entries of a device directory have names that take one byte for each character. Such a
name is plain unless a slash occurs in it or it is as short as the two dots, and a path that is
continued by it is refused only for its length. This module shows that of every PCI address and of the
links to virtual functions. The name of such a link tells its index, for all indices that a count can
have.
-/
import SingleRoot.Device.Enumeration
import SingleRoot.Proofs.Host.Arrival
import SingleRoot.Proofs.Text.Counts
import SingleRoot.Proofs.Text.Decoding

namespace SingleRoot

open Host

/-! ## Characters of one byte -/

namespace Text

theorem utf8EncodeChar_of_ascii {c : Char} (ascii : c.toNat < 0x80) :
    String.utf8EncodeChar c = [UInt8.ofNat c.toNat] := by
  have one : c.toNat ≤ 0x7f := by omega
  rw [String.utf8EncodeChar]
  exact if_pos one

theorem encode_of_ascii {characters : List Char} (ascii : ∀ c ∈ characters, c.toNat < 0x80) :
    encode characters = characters.map fun c => UInt8.ofNat c.toNat := by
  induction characters with
  | nil => rfl
  | cons c rest ih =>
    obtain ⟨here, later⟩ := List.forall_mem_cons.1 ascii
    rw [encode_cons, utf8EncodeChar_of_ascii here, ih later]
    rfl

end Text

/-- A character that may occur in the name of an entry and takes one byte. -/
def IsNameChar (c : Char) : Prop :=
  0 < c.toNat ∧ c.toNat < 0x80 ∧ c ≠ '/'

instance (c : Char) : Decidable (IsNameChar c) :=
  inferInstanceAs (Decidable (_ ∧ _))

/-- A text that is the name of an entry: it is longer than the two dots, not longer than the host allows,
and spelled in characters of one byte. -/
def IsNameText (text : String) : Prop :=
  2 < text.toList.length ∧ text.toList.length ≤ longestName ∧ ∀ c ∈ text.toList, IsNameChar c

-- The characters of the text are few, and the characters there are at all are many.
instance (text : String) : Decidable (IsNameText text) :=
  haveI := List.decidableBAll IsNameChar text.toList
  inferInstanceAs (Decidable (_ ∧ _ ∧ _))

namespace IsNameText

variable {text : String}

theorem toBytes_eq (spelled : IsNameText text) :
    Text.toBytes text = text.toList.map fun c => UInt8.ofNat c.toNat :=
  Text.encode_of_ascii fun c among => (spelled.2.2 c among).2.1

theorem length_toBytes (spelled : IsNameText text) :
    (Text.toBytes text).length = text.toList.length := by
  rw [spelled.toBytes_eq, List.length_map]

theorem length_le (spelled : IsNameText text) : (Text.toBytes text).length ≤ longestName := by
  rw [spelled.length_toBytes]
  exact spelled.2.1

/-- A byte of the name is the code of one of its characters. -/
theorem exists_of_mem (spelled : IsNameText text) {byte : UInt8}
    (among : byte ∈ Text.toBytes text) : ∃ c, IsNameChar c ∧ c.toNat = byte.toNat := by
  rw [spelled.toBytes_eq] at among
  obtain ⟨c, spells, rfl⟩ := List.mem_map.1 among
  have named := spelled.2.2 c spells
  refine ⟨c, named, ?_⟩
  rw [UInt8.toNat_ofNat']
  have ascii := named.2.1
  omega

theorem plainName (spelled : IsNameText text) : PlainName (Text.toBytes text) := by
  have long := spelled.1
  rw [← spelled.length_toBytes] at long
  refine ⟨?_, ?_, ?_, ?_⟩
  · intro same
    simp [same] at long
  · intro same
    simp [same, dot] at long
  · intro same
    simp [same, doubleDot] at long
  · intro among
    obtain ⟨c, ⟨_, _, other⟩, same⟩ := spelled.exists_of_mem among
    exact other (Char.toNat_inj.1 same)

theorem zero_notMem (spelled : IsNameText text) : 0 ∉ Text.toBytes text := by
  intro among
  obtain ⟨c, ⟨filled, _⟩, same⟩ := spelled.exists_of_mem among
  simp [same] at filled

/-- A path that is continued by such a name is accepted unless it is too long. -/
theorem refusal?_join (spelled : IsNameText text) {base : HostPath} (clean : 0 ∉ base.bytes)
    (short : (base.join ⟨Text.toBytes text⟩).bytes.length ≤ longestPath) :
    (base.join ⟨Text.toBytes text⟩).refusal? = none := by
  have plain := spelled.plainName
  have noZero : (base.join ⟨Text.toBytes text⟩).bytes.contains 0 = false := by
    have free : ¬ (0 ∈ base.bytes ∨ 0 ∈ Text.toBytes text) := not_or.2 ⟨clean, spelled.zero_notMem⟩
    rw [← HostPath.zero_mem_join base plain] at free
    simpa using free
  have filled : (base.join ⟨Text.toBytes text⟩).bytes.isEmpty = false := by
    have longer := HostPath.length_lt_join base plain
    rw [List.isEmpty_eq_false_iff]
    intro empty
    simp [empty] at longer
  rw [HostPath.refusal?, noZero, filled, if_neg (by simp), if_neg (by simp),
    if_neg (Nat.not_lt_of_le short)]

end IsNameText

/-! ## PCI addresses -/

namespace Pci

theorem isNameChar_of_isHexDigit {c : Char} (digit : isHexDigit c = true) : IsNameChar c := by
  have codes {low high : Char} (range : low ≤ c ∧ c ≤ high) :
      low.toNat ≤ c.toNat ∧ c.toNat ≤ high.toNat := range
  have inRange : '0'.toNat ≤ c.toNat ∧ c.toNat ≤ 'f'.toNat := by
    simp only [isHexDigit, Bool.or_eq_true, Bool.and_eq_true, decide_eq_true_eq] at digit
    rcases digit with (range | range) | range
    · exact ⟨(codes range).1, Nat.le_trans (codes range).2 (by decide)⟩
    · exact ⟨Nat.le_trans (by decide) (codes range).1, (codes range).2⟩
    · exact ⟨Nat.le_trans (by decide) (codes range).1, Nat.le_trans (codes range).2 (by decide)⟩
  have low : 0x30 ≤ c.toNat := inRange.1
  have high : c.toNat ≤ 0x66 := inRange.2
  refine ⟨by omega, by omega, ?_⟩
  rintro rfl
  revert low
  decide

theorem isHexDigit_of_isFunctionDigit {c : Char} (digit : isFunctionDigit c = true) :
    isHexDigit c = true := by
  simp only [isFunctionDigit, Bool.and_eq_true, decide_eq_true_eq] at digit
  have below : c ≤ '9' := Char.le_trans digit.2 (by decide)
  simp [isHexDigit, digit.1, below]

/-- An address is the name of an entry. -/
theorem isNameText_of_isAddressText {address : String} (valid : isAddressText address = true) :
    IsNameText address := by
  rw [isAddressText] at valid
  rw [IsNameText]
  revert valid
  generalize address.toList = characters
  intro valid
  unfold isAddress at valid
  split at valid
  · rename_i m₁ m₂ m₃ m₄ b₁ b₂ d₁ d₂ f
    simp only [Bool.and_eq_true, List.all_eq_true] at valid
    obtain ⟨digits, function⟩ := valid
    have named : ∀ c ∈ [m₁, m₂, m₃, m₄, b₁, b₂, d₁, d₂], IsNameChar c := fun c among =>
      isNameChar_of_isHexDigit (digits c among)
    have last := isNameChar_of_isHexDigit (isHexDigit_of_isFunctionDigit function)
    have colon : IsNameChar ':' := by decide
    have point : IsNameChar '.' := by decide
    refine ⟨by simp, by simp [longestName], ?_⟩
    simp only [List.forall_mem_cons] at named ⊢
    grind
  · cases valid

/-- Every address is written with twelve characters. -/
theorem length_toBytes {address : String} (valid : isAddressText address = true) :
    (Text.toBytes address).length = 12 := by
  rw [(isNameText_of_isAddressText valid).length_toBytes]
  rw [isAddressText] at valid
  unfold isAddress at valid
  split at valid
  · rename_i spelled
    rw [spelled]
    rfl
  · cases valid

end Pci

/-! ## Links to virtual functions -/

/-- The name of the link to the virtual function with an index. -/
def virtualFunctionName (index : Nat) : Name :=
  Text.toBytes (virtualFunctionStem ++ Text.decimal index)

theorem toList_virtualFunctionName (index : Nat) :
    (virtualFunctionStem ++ Text.decimal index).toList =
      virtualFunctionStem.toList ++ Nat.toDigits 10 index := by
  rw [String.toList_append, Text.decimal, String.toList_ofList]

variable {index : Nat}

/-- An index that a count can have makes the name of an entry. -/
theorem isNameText_virtualFunction (small : index < UInt32.size) :
    IsNameText (virtualFunctionStem ++ Text.decimal index) := by
  have stem : IsNameText virtualFunctionStem := by decide +kernel
  have letters : virtualFunctionStem.toList.length = 6 := by decide +kernel
  have digits : (Nat.toDigits 10 index).length ≤ 10 :=
    (Nat.length_toDigits_le_iff (by decide) (by decide)).2 (Nat.lt_trans small (by decide))
  rw [IsNameText, toList_virtualFunctionName, List.length_append, letters, longestName]
  refine ⟨by omega, by omega, ?_⟩
  intro c among
  rcases List.mem_append.1 among with spells | digit
  · exact stem.2.2 c spells
  · have numeral := Nat.isDigit_of_mem_toDigits (by decide) (by decide) digit
    apply Pci.isNameChar_of_isHexDigit
    simp only [Char.isDigit, Bool.and_eq_true, decide_eq_true_eq] at numeral
    have range : '0' ≤ c ∧ c ≤ '9' := numeral
    simp [Pci.isHexDigit, range]

/-- The name of a link tells its index. -/
theorem entryIndex?_virtualFunctionName (small : index < UInt32.size) :
    Device.entryIndex? (virtualFunctionName index) = some (UInt32.ofNat index) := by
  have counts := Text.word?_toDigits (UInt32.ofNat index)
  rw [UInt32.toNat_ofNat_of_lt' small] at counts
  rw [virtualFunctionName, Text.toBytes, toList_virtualFunctionName, Device.entryIndex?,
    Text.decode?_encode]
  have passes : (guard (virtualFunctionStem.toList.isPrefixOf
      (virtualFunctionStem.toList ++ Nat.toDigits 10 index)) : Option Unit) = some () :=
    if_pos (by simp [List.isPrefixOf_iff_prefix])
  dsimp only [Option.bind_eq_bind, Option.bind_some]
  rw [passes, List.drop_left]
  exact counts

theorem virtualFunctionName_inj {other : Nat} (small : index < UInt32.size)
    (smallToo : other < UInt32.size) :
    virtualFunctionName index = virtualFunctionName other ↔ index = other := by
  constructor
  · intro same
    have indices := congrArg Device.entryIndex? same
    rw [entryIndex?_virtualFunctionName small, entryIndex?_virtualFunctionName smallToo] at indices
    have values := congrArg UInt32.toNat (Option.some.inj indices)
    rwa [UInt32.toNat_ofNat_of_lt' small, UInt32.toNat_ofNat_of_lt' smallToo] at values
  · rintro rfl
    rfl

end SingleRoot
