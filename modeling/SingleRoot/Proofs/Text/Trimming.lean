/-
# Text between blanks

A number in a file may have white space around it. `Trims` says what is left of a text without the white
space at both of its ends, by splitting it and not by cutting, and `trim_eq_iff` says that cutting finds
exactly that. What is left of a text is therefore a count exactly when the text is a numeral between two
runs of white space, `IsCountText`.
-/
import Mathlib.Data.List.TakeWhile
import SingleRoot.Proofs.Text.Numerals

namespace SingleRoot.Text

/-! ## White space -/

/-- The code points with the property White_Space. -/
def whiteSpace : List Nat :=
  [0x09, 0x0A, 0x0B, 0x0C, 0x0D, 0x20, 0x85, 0xA0, 0x1680, 0x2000, 0x2001, 0x2002, 0x2003, 0x2004,
    0x2005, 0x2006, 0x2007, 0x2008, 0x2009, 0x200A, 0x2028, 0x2029, 0x202F, 0x205F, 0x3000]

theorem isBlank_iff {c : Char} : isBlank c = true ↔ c.toNat ∈ whiteSpace := by
  simp only [isBlank, whiteSpace, Bool.or_eq_true, Bool.and_eq_true, decide_eq_true_eq, beq_iff_eq,
    List.mem_cons, List.not_mem_nil, or_false]
  omega

theorem isBlank_eq_false_iff {c : Char} : isBlank c = false ↔ c.toNat ∉ whiteSpace := by
  rw [← isBlank_iff, Bool.not_eq_true]

/-- Characters that are white space throughout, or none. -/
def IsBlankRun (characters : List Char) : Prop :=
  ∀ c ∈ characters, c.toNat ∈ whiteSpace

theorem isBlankRun_iff {characters : List Char} :
    IsBlankRun characters ↔ ∀ c ∈ characters, isBlank c = true := by
  simp only [IsBlankRun, isBlank_iff]

/-! ## Cutting the ends -/

/-- What is left of a text without the white space at both ends: it neither begins nor ends with any. -/
def Trims (characters core : List Char) : Prop :=
  ∃ front back, characters = front ++ core ++ back ∧ IsBlankRun front ∧ IsBlankRun back ∧
    (∀ c ∈ core.head?, c.toNat ∉ whiteSpace) ∧ ∀ c ∈ core.getLast?, c.toNat ∉ whiteSpace

theorem isBlankRun_takeWhile (characters : List Char) : IsBlankRun (characters.takeWhile isBlank) := by
  rw [isBlankRun_iff]
  intro c among
  exact List.mem_takeWhile_imp among

theorem head?_dropWhile_isBlank (characters : List Char) :
    ∀ c ∈ (characters.dropWhile isBlank).head?, c.toNat ∉ whiteSpace := by
  intro c first
  have solid := List.head?_dropWhile_not isBlank characters
  rw [Option.mem_def.1 first] at solid
  exact isBlank_eq_false_iff.1 solid

/-- What is dropped ends where the text goes on with anything but white space. -/
theorem dropWhile_append_isBlank {blanks rest : List Char} (blank : IsBlankRun blanks)
    (solid : ∀ c ∈ rest.head?, c.toNat ∉ whiteSpace) : (blanks ++ rest).dropWhile isBlank = rest := by
  rw [List.dropWhile_append_of_pos (isBlankRun_iff.1 blank)]
  cases rest with
  | nil => rfl
  | cons c later =>
    have here : isBlank c = false := isBlank_eq_false_iff.2 (solid c rfl)
    simp [here]

theorem IsBlankRun.reverse {blanks : List Char} (blank : IsBlankRun blanks) :
    IsBlankRun blanks.reverse := by
  intro c among
  exact blank c (List.mem_reverse.1 among)

theorem trims_trim (characters : List Char) : Trims characters (trim characters) := by
  let rest := characters.dropWhile isBlank
  let back := (rest.reverse.takeWhile isBlank).reverse
  have split : rest = trim characters ++ back := by
    rw [trim, ← List.reverse_append, List.takeWhile_append_dropWhile, List.reverse_reverse]
  refine ⟨characters.takeWhile isBlank, back, ?_, isBlankRun_takeWhile characters, ?_, ?_, ?_⟩
  · rw [List.append_assoc, ← split, List.takeWhile_append_dropWhile]
  · exact (isBlankRun_takeWhile rest.reverse).reverse
  · -- what is left begins where the rest begins
    intro c first
    apply head?_dropWhile_isBlank characters
    show c ∈ rest.head?
    rw [split, List.head?_append, Option.mem_def.1 first]
    rfl
  · intro c last
    apply head?_dropWhile_isBlank rest.reverse
    rwa [trim, List.getLast?_reverse] at last

/-- Cutting leaves what is to be left, and nothing else is left of a text. -/
theorem trim_eq_iff {characters core : List Char} : trim characters = core ↔ Trims characters core := by
  constructor
  · rintro rfl
    exact trims_trim characters
  · rintro ⟨front, back, rfl, blankFront, blankBack, first, last⟩
    rw [trim]
    cases core with
    | nil =>
      have blank : IsBlankRun (front ++ [] ++ back) := by
        rw [List.append_nil]
        exact List.forall_mem_append.2 ⟨blankFront, blankBack⟩
      rw [List.dropWhile_eq_nil_iff.2 (isBlankRun_iff.1 blank)]
      rfl
    | cons opening rest =>
      have begins : ∀ c ∈ (opening :: rest ++ back).head?, c.toNat ∉ whiteSpace := first
      have ends : ∀ c ∈ (opening :: rest).reverse.head?, c.toNat ∉ whiteSpace := by
        rw [List.head?_reverse]
        exact last
      rw [List.append_assoc, dropWhile_append_isBlank blankFront begins, List.reverse_append,
        dropWhile_append_isBlank blankBack.reverse ends, List.reverse_reverse]

/-- A text of which nothing is left. -/
def Blank (text : String) : Prop :=
  Trims text.toList []

theorem isBlankText_iff {text : String} : isBlankText text = true ↔ Blank text := by
  rw [isBlankText, List.all_eq_true, ← isBlankRun_iff]
  constructor
  · intro blank
    exact ⟨text.toList, [], by simp, blank, by simp [IsBlankRun], by simp, by simp⟩
  · rintro ⟨front, back, split, blankFront, blankBack, _⟩ c among
    rw [split, List.append_nil] at among
    rcases List.mem_append.1 among with among | among
    · exact blankFront c among
    · exact blankBack c among

/-! ## Counts -/

/-- The ways to write a number into a file: a numeral between two runs of white space. -/
def IsCountText (characters : List Char) (value : Nat) : Prop :=
  ∃ front numeral back, characters = front ++ numeral ++ back ∧ IsBlankRun front ∧ IsBlankRun back ∧
    IsNumeral numeral value

/-- No white space occurs in a numeral. -/
theorem solid_of_isNumeral {numeral : List Char} {value : Nat} (spells : IsNumeral numeral value) :
    ∀ c ∈ numeral, c.toNat ∉ whiteSpace := by
  obtain ⟨digits, signed, _, allDigits, _⟩ := spells
  have solid : ∀ c ∈ digits, c.toNat ∉ whiteSpace := by
    intro c among
    exact isBlank_eq_false_iff.1 (isBlank_of_isDigit (allDigits c among))
  rcases signed with rfl | rfl
  · exact solid
  · exact List.forall_mem_cons.2 ⟨by decide, solid⟩

theorem trims_of_isNumeral {front numeral back : List Char} {value : Nat} (blankFront : IsBlankRun front)
    (blankBack : IsBlankRun back) (spells : IsNumeral numeral value) :
    Trims (front ++ numeral ++ back) numeral := by
  have solid := solid_of_isNumeral spells
  refine ⟨front, back, rfl, blankFront, blankBack, ?_, ?_⟩
  · intro c first
    exact solid c (List.mem_of_head? first)
  · intro c last
    exact solid c (List.mem_of_getLast? last)

/-- A count is read from the numerals of its value between white space. -/
theorem word?_trim_eq_some_iff {characters : List Char} {count : UInt32} :
    word? (trim characters) = some count ↔ IsCountText characters count.toNat := by
  constructor
  · intro reads
    obtain ⟨front, back, split, blankFront, blankBack, _⟩ := trims_trim characters
    exact ⟨front, trim characters, back, split, blankFront, blankBack, word?_eq_some_iff.1 reads⟩
  · rintro ⟨front, numeral, back, rfl, blankFront, blankBack, spells⟩
    rw [trim_eq_iff.2 (trims_of_isNumeral blankFront blankBack spells)]
    exact word?_eq_some_iff.2 spells

/-- An ideographic space is white space, and a sign and leading zeros belong to a numeral. -/
example : word? (trim "\u3000+04\n".toList) = some 4 := by decide +kernel

end SingleRoot.Text
