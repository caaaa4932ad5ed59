/-
# Text has one spelling

What reads as text is the encoding of that text: no character can be spelled in two ways, and nothing
else is taken for a character. This is the other half of `SingleRoot.Proofs.Text.Decoding`. The argument
takes the bytes apart from the front. A reader that is not to find them broken must meet a lead byte of
one of three kinds, and after it as many tail bytes as the lead byte owes, the first of them in the
range that the lead byte allows; `tail_of_reads` gets one such byte out of the reader. The bytes are
then those of one code point, and the rest is read afresh.
-/
import SingleRoot.Proofs.Text.Decoding

namespace SingleRoot.Text

/-! ## The bytes of a code point -/

theorem toNat_ofNat {point : Nat} (valid : point.isValidChar) : (Char.ofNat point).toNat = point := by
  rw [Char.ofNat, dif_pos valid]
  rfl

theorem utf8EncodeChar_ofNat {point : Nat} (valid : point.isValidChar) :
    String.utf8EncodeChar (Char.ofNat point) =
      if point ≤ 0x7f then [UInt8.ofNat point]
      else if point ≤ 0x7ff then [UInt8.ofNat (point / 64 % 32 + 0xC0), tailByte (point % 64)]
      else if point ≤ 0xffff then
        [UInt8.ofNat (point / 4096 % 16 + 0xE0), tailByte (point / 64 % 64), tailByte (point % 64)]
      else [UInt8.ofNat (point / 262144 % 8 + 0xF0), tailByte (point / 4096 % 64),
        tailByte (point / 64 % 64), tailByte (point % 64)] := by
  have value : (Char.ofNat point).val.toNat = point := toNat_ofNat valid
  rw [String.utf8EncodeChar, value]
  rfl

theorem utf8EncodeChar_one {point : Nat} (small : point < 0x80) :
    String.utf8EncodeChar (Char.ofNat point) = [UInt8.ofNat point] := by
  rw [utf8EncodeChar_ofNat (.inl (by omega)), if_pos (by omega)]

theorem utf8EncodeChar_two {high low : Nat} (more : 2 ≤ high) (small : high < 32)
    (smallLow : low < 64) :
    String.utf8EncodeChar (Char.ofNat (high * 64 + low)) =
      [UInt8.ofNat (high + 0xC0), tailByte low] := by
  have first : (high * 64 + low) / 64 % 32 = high := by omega
  have last : (high * 64 + low) % 64 = low := by omega
  rw [utf8EncodeChar_ofNat (.inl (by omega)), if_neg (by omega), if_pos (by omega), first, last]

theorem utf8EncodeChar_three {high middle low : Nat} (small : high < 16) (smallMiddle : middle < 64)
    (smallLow : low < 64) (long : high = 0 → 0x20 ≤ middle)
    (noSurrogate : high = 13 → middle < 0x20) :
    String.utf8EncodeChar (Char.ofNat ((high * 64 + middle) * 64 + low)) =
      [UInt8.ofNat (high + 0xE0), tailByte middle, tailByte low] := by
  have valid : Nat.isValidChar ((high * 64 + middle) * 64 + low) := by
    unfold Nat.isValidChar
    omega
  have first : ((high * 64 + middle) * 64 + low) / 4096 % 16 = high := by omega
  have second : ((high * 64 + middle) * 64 + low) / 64 % 64 = middle := by omega
  have last : ((high * 64 + middle) * 64 + low) % 64 = low := by omega
  rw [utf8EncodeChar_ofNat valid, if_neg (by omega), if_neg (by omega), if_pos (by omega), first,
    second, last]

theorem utf8EncodeChar_four {high upper middle low : Nat} (small : high < 5) (smallUpper : upper < 64)
    (smallMiddle : middle < 64) (smallLow : low < 64) (long : high = 0 → 0x10 ≤ upper)
    (inRange : high = 4 → upper < 0x10) :
    String.utf8EncodeChar (Char.ofNat (((high * 64 + upper) * 64 + middle) * 64 + low)) =
      [UInt8.ofNat (high + 0xF0), tailByte upper, tailByte middle, tailByte low] := by
  have valid : Nat.isValidChar (((high * 64 + upper) * 64 + middle) * 64 + low) := by
    unfold Nat.isValidChar
    omega
  have first : (((high * 64 + upper) * 64 + middle) * 64 + low) / 262144 % 8 = high := by omega
  have second : (((high * 64 + upper) * 64 + middle) * 64 + low) / 4096 % 64 = upper := by omega
  have third : (((high * 64 + upper) * 64 + middle) * 64 + low) / 64 % 64 = middle := by omega
  have last : (((high * 64 + upper) * 64 + middle) * 64 + low) % 64 = low := by omega
  rw [utf8EncodeChar_ofNat valid, if_neg (by omega), if_neg (by omega), if_neg (by omega), first,
    second, third, last]

/-! ## Bytes that are read -/

/-- Pieces that are characters throughout hold nothing else. -/
theorem eq_map_of_mapM_char? {found : List Piece} {characters : List Char}
    (whole : found.mapM Piece.char? = some characters) : found = characters.map .char := by
  induction found generalizing characters with
  | nil =>
    cases whole
    rfl
  | cons piece rest ih =>
    rw [List.mapM_cons] at whole
    cases piece with
    | broken bytes => simp [Piece.char?] at whole
    | char c =>
      cases read : rest.mapM Piece.char? with
      | none => simp [Piece.char?, read] at whole
      | some others =>
        simp only [Piece.char?, read, Option.bind_eq_bind, Option.bind_some, Option.pure_def,
          Option.some.injEq] at whole
        subst whole
        rw [List.map_cons, ih read]

/-- A lead byte opens a character of two, three or four bytes. -/
theorem lead_of_ofLead? {lead : UInt8} {begun : Partial} (opens : Partial.ofLead? lead = some begun) :
    (∃ high, 2 ≤ high ∧ high < 32 ∧ lead = UInt8.ofNat (high + 0xC0)) ∨
    (∃ high < 16, lead = UInt8.ofNat (high + 0xE0)) ∨
    ∃ high < 5, lead = UInt8.ofNat (high + 0xF0) := by
  have known : lead = UInt8.ofNat lead.toNat := UInt8.ofNat_toNat.symm
  have bound := lead.toNat_lt
  have range : 0xC2 ≤ lead.toNat ∧ lead.toNat ≤ 0xF4 := by
    unfold Partial.ofLead? at opens
    simp only [UInt8.le_iff_toNat_le, ← UInt8.toNat_inj] at opens
    grind
  by_cases two : lead.toNat < 0xE0
  · exact .inl ⟨lead.toNat - 0xC0, by omega, by omega,
      known.trans (congrArg UInt8.ofNat (by omega))⟩
  by_cases three : lead.toNat < 0xF0
  · exact .inr (.inl ⟨lead.toNat - 0xE0, by omega, known.trans (congrArg UInt8.ofNat (by omega))⟩)
  · exact .inr (.inr ⟨lead.toNat - 0xF0, by omega, known.trans (congrArg UInt8.ofNat (by omega))⟩)

/-- A character that has been begun and is read without a break goes on with a tail byte in its
range. -/
theorem tail_of_reads {begun : Partial} {bytes : Bytes} {characters : List Char}
    (low : 0x80 ≤ begun.low.toNat) (high : begun.high.toNat ≤ 0xBF)
    (reads : piecesFrom (some begun) bytes = characters.map .char) :
    ∃ bits rest, bytes = tailByte bits :: rest ∧ bits < 64 ∧
      begun.low.toNat ≤ bits + 0x80 ∧ bits + 0x80 ≤ begun.high.toNat := by
  cases bytes with
  | nil => cases characters <;> simp [piecesFrom] at reads
  | cons byte rest =>
    by_cases inRange : begun.low ≤ byte ∧ byte ≤ begun.high
    · rw [UInt8.le_iff_toNat_le, UInt8.le_iff_toNat_le] at inRange
      have known : byte = tailByte (byte.toNat - 0x80) := by
        rw [← UInt8.toNat_inj, tailByte_toNat (by omega)]
        omega
      exact ⟨byte.toNat - 0x80, rest, by rw [← known], by omega, by omega, by omega⟩
    · cases characters <;> simp [piecesFrom, Partial.feed, inRange] at reads

/-- Bytes that are read without a break start with the bytes of a character. -/
theorem char_of_reads {lead : UInt8} {rest : Bytes} {characters : List Char}
    (reads : pieces (lead :: rest) = characters.map .char) :
    ∃ c later, lead :: rest = String.utf8EncodeChar c ++ later := by
  by_cases ascii : lead.toNat < 0x80
  · refine ⟨Char.ofNat lead.toNat, rest, ?_⟩
    rw [utf8EncodeChar_one ascii, UInt8.ofNat_toNat, List.singleton_append]
  have high : 0x80 ≤ lead.toNat := by omega
  cases opens : Partial.ofLead? lead with
  | none =>
    have notAscii : ¬ lead < 0x80 := by
      rw [UInt8.lt_iff_toNat_lt]
      simpa using high
    cases characters <;> simp [pieces, piecesFrom, startByte, notAscii, opens] at reads
  | some begun =>
    rw [pieces, piecesFrom_lead high opens] at reads
    obtain ⟨head, more, small, rfl⟩ | ⟨head, small, rfl⟩ | ⟨head, small, rfl⟩ := lead_of_ofLead? opens
    · rw [ofLead?_two head small more] at opens
      cases opens
      obtain ⟨last, later, rfl, smallLast, _⟩ := tail_of_reads (by simp) (by simp) reads
      exact ⟨_, later, by rw [utf8EncodeChar_two more small smallLast]; rfl⟩
    · rw [ofLead?_three head small] at opens
      cases opens
      have bounds : 0x80 ≤ (if head = 0 then 0xA0 else 0x80 : UInt8).toNat ∧
          (if head = 13 then 0x9F else 0xBF : UInt8).toNat ≤ 0xBF := by
        constructor <;> split <;> decide
      obtain ⟨middle, inner, rfl, smallMiddle, least, most⟩ := tail_of_reads bounds.1 bounds.2 reads
      rw [piecesFrom_inner smallMiddle least most (by simp)] at reads
      obtain ⟨last, later, rfl, smallLast, _⟩ := tail_of_reads (by simp) (by simp) reads
      have long : head = 0 → 0x20 ≤ middle := by
        rintro rfl
        simpa using least
      have noSurrogate : head = 13 → middle < 0x20 := by
        rintro rfl
        have most : middle + 0x80 ≤ 0x9F := most
        omega
      exact ⟨_, later, by
        rw [utf8EncodeChar_three small smallMiddle smallLast long noSurrogate]; rfl⟩
    · rw [ofLead?_four head small] at opens
      cases opens
      have bounds : 0x80 ≤ (if head = 0 then 0x90 else 0x80 : UInt8).toNat ∧
          (if head = 4 then 0x8F else 0xBF : UInt8).toNat ≤ 0xBF := by
        constructor <;> split <;> decide
      obtain ⟨upper, inner, rfl, smallUpper, least, most⟩ := tail_of_reads bounds.1 bounds.2 reads
      rw [piecesFrom_inner smallUpper least most (by simp)] at reads
      obtain ⟨middle, inner, rfl, smallMiddle, leastMiddle, mostMiddle⟩ :=
        tail_of_reads (by simp) (by simp) reads
      rw [piecesFrom_inner smallMiddle leastMiddle mostMiddle (by simp)] at reads
      obtain ⟨last, later, rfl, smallLast, _⟩ := tail_of_reads (by simp) (by simp) reads
      have long : head = 0 → 0x10 ≤ upper := by
        rintro rfl
        simpa using least
      have inRange : head = 4 → upper < 0x10 := by
        rintro rfl
        have most : upper + 0x80 ≤ 0x8F := most
        omega
      exact ⟨_, later, by
        rw [utf8EncodeChar_four small smallUpper smallMiddle smallLast long inRange]; rfl⟩

theorem eq_encode_of_reads {bytes : Bytes} {characters : List Char}
    (reads : pieces bytes = characters.map .char) : bytes = encode characters := by
  induction characters generalizing bytes with
  | nil =>
    cases bytes with
    | nil => rfl
    | cons lead rest =>
      obtain ⟨c, later, split⟩ := char_of_reads reads
      rw [split, pieces_utf8EncodeChar] at reads
      cases reads
  | cons first others ih =>
    cases bytes with
    | nil => cases reads
    | cons lead rest =>
      obtain ⟨c, later, split⟩ := char_of_reads reads
      rw [split, pieces_utf8EncodeChar] at reads
      obtain ⟨same, readsLater⟩ := List.cons.inj reads
      cases same
      rw [split, encode_cons, ih readsLater]

/-- Bytes read as text exactly when they are its encoding. -/
theorem decode?_eq_some_iff {bytes : Bytes} {characters : List Char} :
    decode? bytes = some characters ↔ bytes = encode characters := by
  constructor
  · intro reads
    exact eq_encode_of_reads (eq_map_of_mapM_char? reads)
  · rintro rfl
    exact decode?_encode characters

theorem ofBytes?_eq_some_iff {bytes : Bytes} {text : String} :
    ofBytes? bytes = some text ↔ bytes = toBytes text := by
  constructor
  · intro reads
    obtain ⟨characters, decodes, rfl⟩ := Option.map_eq_some_iff.1 reads
    rw [toBytes, String.toList_ofList]
    exact decode?_eq_some_iff.1 decodes
  · rintro rfl
    exact ofBytes?_toBytes text

theorem isText_iff {bytes : Bytes} : isText bytes = true ↔ ∃ text, bytes = toBytes text := by
  constructor
  · intro reads
    obtain ⟨characters, decodes⟩ := Option.isSome_iff_exists.1 reads
    refine ⟨String.ofList characters, ?_⟩
    rw [toBytes, String.toList_ofList]
    exact decode?_eq_some_iff.1 decodes
  · rintro ⟨text, rfl⟩
    exact isText_toBytes text

/-! ## Bytes of the ASCII range -/

/-- A character that takes more than one byte takes none of the ASCII range. -/
theorem high_of_mem_utf8EncodeChar {c : Char} (long : 0x80 ≤ c.toNat) :
    ∀ byte ∈ String.utf8EncodeChar c, 0x80 ≤ byte.toNat := by
  have scalar := toNat_scalar c
  have tail (bits : Nat) : 0x80 ≤ (tailByte (bits % 64)).toNat := by
    rw [tailByte_toNat (Nat.mod_lt _ (by decide))]
    omega
  have spells := utf8EncodeChar_ofNat c.valid
  change String.utf8EncodeChar (Char.ofNat c.toNat) =
    (if c.toNat ≤ 0x7f then _ else if c.toNat ≤ 0x7ff then _
      else if c.toNat ≤ 0xffff then _ else _) at spells
  rw [Char.ofNat_toNat, if_neg (by omega)] at spells
  rw [spells]
  split
  · simp only [List.forall_mem_cons]
    exact ⟨lead_high (by decide) (by omega), tail _, List.forall_mem_nil _⟩
  split
  · simp only [List.forall_mem_cons]
    exact ⟨lead_high (by decide) (by omega), tail _, tail _, List.forall_mem_nil _⟩
  · simp only [List.forall_mem_cons]
    exact ⟨lead_high (by decide) (by omega), tail _, tail _, tail _, List.forall_mem_nil _⟩

/-- A byte of the ASCII range spells the character of its code and occurs in no other. -/
theorem mem_utf8EncodeChar_iff {byte : UInt8} (ascii : byte.toNat < 0x80) {c : Char} :
    byte ∈ String.utf8EncodeChar c ↔ c.toNat = byte.toNat := by
  by_cases short : c.toNat < 0x80
  · have spells := utf8EncodeChar_one short
    rw [Char.ofNat_toNat] at spells
    rw [spells, List.mem_singleton, ← UInt8.toNat_inj, UInt8.toNat_ofNat']
    omega
  · constructor
    · intro among
      have high := high_of_mem_utf8EncodeChar (by omega) byte among
      omega
    · intro same
      omega

/-- A byte of the ASCII range occurs in a text where its character does. -/
theorem mem_toBytes_iff {byte : UInt8} (ascii : byte.toNat < 0x80) {text : String} :
    byte ∈ toBytes text ↔ Char.ofNat byte.toNat ∈ text.toList := by
  rw [toBytes, encode, List.mem_flatMap]
  constructor
  · rintro ⟨c, spells, among⟩
    rw [mem_utf8EncodeChar_iff ascii] at among
    rw [← among, Char.ofNat_toNat]
    exact spells
  · intro spells
    refine ⟨_, spells, (mem_utf8EncodeChar_iff ascii).2 ?_⟩
    exact toNat_ofNat (.inl (by omega))

end SingleRoot.Text
