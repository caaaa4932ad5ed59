/-
# Text survives its encoding

What has been encoded is read back as it was. The reader works byte by byte and carries the character
that it has begun, so the proof follows one character through its lead byte and its tail bytes: the
lead byte promises a number of tail bytes and the range of the first of them, every tail byte adds
six bits, and the last one completes the character. That the ranges admit every tail byte of a
character is where the gap of the surrogates and the upper end of the code points come in.
-/
import SingleRoot.Text.Utf8

namespace SingleRoot.Text

/-- The byte that continues a character by six bits of its value. -/
def tailByte (bits : Nat) : UInt8 := UInt8.ofNat (bits + 0x80)

theorem tailByte_toNat {bits : Nat} (small : bits < 64) :
    (tailByte bits).toNat = bits + 0x80 := by
  rw [tailByte, UInt8.toNat_ofNat']
  omega

theorem ofLead?_two : ∀ bits < 32, 2 ≤ bits →
    Partial.ofLead? (UInt8.ofNat (bits + 0xC0)) =
      some ⟨[UInt8.ofNat (bits + 0xC0)], bits, 1, 0x80, 0xBF⟩ := by
  decide

theorem ofLead?_three : ∀ bits < 16,
    Partial.ofLead? (UInt8.ofNat (bits + 0xE0)) =
      some ⟨[UInt8.ofNat (bits + 0xE0)], bits, 2,
        if bits = 0 then 0xA0 else 0x80, if bits = 13 then 0x9F else 0xBF⟩ := by
  decide

theorem ofLead?_four : ∀ bits < 5,
    Partial.ofLead? (UInt8.ofNat (bits + 0xF0)) =
      some ⟨[UInt8.ofNat (bits + 0xF0)], bits, 3,
        if bits = 0 then 0x90 else 0x80, if bits = 4 then 0x8F else 0xBF⟩ := by
  decide

/-- A byte above the ASCII range is no character of its own. -/
theorem startByte_of_ofLead? {lead : UInt8} {begun : Partial} (high : 0x80 ≤ lead.toNat)
    (opens : Partial.ofLead? lead = some begun) :
    startByte lead = ([], some begun) := by
  have notAscii : ¬ lead < 0x80 := by
    rw [UInt8.lt_iff_toNat_lt]
    simpa using high
  rw [startByte, if_neg notAscii, opens]

theorem feed_last {begun : Partial} {bits : Nat} (small : bits < 64)
    (low : begun.low.toNat ≤ bits + 0x80) (high : bits + 0x80 ≤ begun.high.toNat)
    (owed : begun.owed = 1) :
    begun.feed (tailByte bits) = ([.char (Char.ofNat (begun.value * 64 + bits))], none) := by
  have inRange : begun.low ≤ tailByte bits ∧ tailByte bits ≤ begun.high := by
    rw [UInt8.le_iff_toNat_le, UInt8.le_iff_toNat_le, tailByte_toNat small]
    exact ⟨low, high⟩
  simp [Partial.feed, inRange, owed, tailByte_toNat small]

theorem feed_inner {begun : Partial} {bits : Nat} (small : bits < 64)
    (low : begun.low.toNat ≤ bits + 0x80) (high : bits + 0x80 ≤ begun.high.toNat)
    (owed : 1 < begun.owed) :
    begun.feed (tailByte bits) =
      ([], some ⟨begun.seen ++ [tailByte bits], begun.value * 64 + bits, begun.owed - 1,
        0x80, 0xBF⟩) := by
  have inRange : begun.low ≤ tailByte bits ∧ tailByte bits ≤ begun.high := by
    rw [UInt8.le_iff_toNat_le, UInt8.le_iff_toNat_le, tailByte_toNat small]
    exact ⟨low, high⟩
  have more : ¬ begun.owed ≤ 1 := by omega
  simp [Partial.feed, inRange, more, tailByte_toNat small]

/-- The value of a character, where the code points of surrogates are left out. -/
theorem toNat_scalar (c : Char) : c.toNat < 0xD800 ∨ 0xDFFF < c.toNat ∧ c.toNat < 0x110000 :=
  c.valid

theorem piecesFrom_lead {lead : UInt8} {begun : Partial} (high : 0x80 ≤ lead.toNat)
    (opens : Partial.ofLead? lead = some begun) (rest : Bytes) :
    piecesFrom none (lead :: rest) = piecesFrom (some begun) rest := by
  simp [piecesFrom, startByte_of_ofLead? high opens]

theorem piecesFrom_inner {begun : Partial} {bits : Nat} (small : bits < 64)
    (low : begun.low.toNat ≤ bits + 0x80) (high : bits + 0x80 ≤ begun.high.toNat)
    (owed : 1 < begun.owed) (rest : Bytes) :
    piecesFrom (some begun) (tailByte bits :: rest) =
      piecesFrom (some ⟨begun.seen ++ [tailByte bits], begun.value * 64 + bits, begun.owed - 1,
        0x80, 0xBF⟩) rest := by
  simp [piecesFrom, feed_inner small low high owed]

theorem piecesFrom_last {begun : Partial} {bits : Nat} (small : bits < 64)
    (low : begun.low.toNat ≤ bits + 0x80) (high : bits + 0x80 ≤ begun.high.toNat)
    (owed : begun.owed = 1) (rest : Bytes) :
    piecesFrom (some begun) (tailByte bits :: rest) =
      .char (Char.ofNat (begun.value * 64 + bits)) :: pieces rest := by
  simp [piecesFrom, pieces, feed_last small low high owed]

/-- A lead byte lies above the ASCII range. -/
theorem lead_high {bits payload : Nat} (low : 0x80 ≤ payload) (small : bits + payload < 256) :
    0x80 ≤ (UInt8.ofNat (bits + payload)).toNat := by
  rw [UInt8.toNat_ofNat']
  omega

theorem pieces_two {high low : Nat} (more : 2 ≤ high) (small : high < 32) (smallLow : low < 64)
    (rest : Bytes) :
    pieces (UInt8.ofNat (high + 0xC0) :: tailByte low :: rest) =
      .char (Char.ofNat (high * 64 + low)) :: pieces rest := by
  rw [pieces, piecesFrom_lead (lead_high (by omega) (by omega)) (ofLead?_two _ small more),
    piecesFrom_last smallLow (by simp) (by simp; omega) rfl]

/-- The bounds on the second of three bytes leave out what fits in two bytes, and surrogates. -/
theorem pieces_three {high middle low : Nat} (small : high < 16) (smallMiddle : middle < 64)
    (smallLow : low < 64) (long : high = 0 → 0x20 ≤ middle) (noSurrogate : high = 13 → middle < 0x20)
    (rest : Bytes) :
    pieces (UInt8.ofNat (high + 0xE0) :: tailByte middle :: tailByte low :: rest) =
      .char (Char.ofNat ((high * 64 + middle) * 64 + low)) :: pieces rest := by
  have least : (if high = 0 then 0xA0 else 0x80 : UInt8).toNat ≤ middle + 0x80 := by
    split <;> simp
    omega
  have most : middle + 0x80 ≤ (if high = 13 then 0x9F else 0xBF : UInt8).toNat := by
    split <;> simp <;> omega
  rw [pieces, piecesFrom_lead (lead_high (by omega) (by omega)) (ofLead?_three _ small),
    piecesFrom_inner smallMiddle least most (by simp),
    piecesFrom_last smallLow (by simp) (by simp; omega) rfl]

/-- The bounds on the second of four bytes leave out what fits in three bytes, and what is no code
point. -/
theorem pieces_four {high upper middle low : Nat} (small : high < 5) (smallUpper : upper < 64)
    (smallMiddle : middle < 64) (smallLow : low < 64) (long : high = 0 → 0x10 ≤ upper)
    (inRange : high = 4 → upper < 0x10) (rest : Bytes) :
    pieces (UInt8.ofNat (high + 0xF0) :: tailByte upper :: tailByte middle :: tailByte low :: rest) =
      .char (Char.ofNat (((high * 64 + upper) * 64 + middle) * 64 + low)) :: pieces rest := by
  have least : (if high = 0 then 0x90 else 0x80 : UInt8).toNat ≤ upper + 0x80 := by
    split <;> simp
    omega
  have most : upper + 0x80 ≤ (if high = 4 then 0x8F else 0xBF : UInt8).toNat := by
    split <;> simp <;> omega
  rw [pieces, piecesFrom_lead (lead_high (by omega) (by omega)) (ofLead?_four _ small),
    piecesFrom_inner smallUpper least most (by simp),
    piecesFrom_inner smallMiddle (by simp) (by simp; omega) (by simp),
    piecesFrom_last smallLow (by simp) (by simp; omega) rfl]

/-- Reading starts with the character that was written first. -/
theorem pieces_utf8EncodeChar (c : Char) (rest : Bytes) :
    pieces (String.utf8EncodeChar c ++ rest) = .char c :: pieces rest := by
  have scalar := toNat_scalar c
  have same : Char.ofNat c.toNat = c := Char.ofNat_toNat c
  rw [String.utf8EncodeChar]
  change pieces ((if c.toNat ≤ 0x7f then _ else if c.toNat ≤ 0x7ff then _
    else if c.toNat ≤ 0xffff then _ else _) ++ rest) = _
  by_cases one : c.toNat ≤ 0x7f
  · have ascii : UInt8.ofNat c.toNat < 0x80 := by
      rw [UInt8.lt_iff_toNat_lt, UInt8.toNat_ofNat']
      change c.toNat % 256 < 128
      omega
    have value : c.toNat % 256 = c.toNat := by omega
    simp [one, pieces, piecesFrom, startByte, ascii, value, same]
  by_cases two : c.toNat ≤ 0x7ff
  · rw [if_neg one, if_pos two]
    change pieces
      (UInt8.ofNat (c.toNat / 64 % 32 + 0xC0) :: tailByte (c.toNat % 64) :: rest) = _
    have value : c.toNat / 64 % 32 * 64 + c.toNat % 64 = c.toNat := by omega
    rw [pieces_two (by omega) (by omega) (by omega), value, same]
  by_cases three : c.toNat ≤ 0xffff
  · rw [if_neg one, if_neg two, if_pos three]
    change pieces (UInt8.ofNat (c.toNat / 4096 % 16 + 0xE0) ::
      tailByte (c.toNat / 64 % 64) :: tailByte (c.toNat % 64) :: rest) = _
    have value : (c.toNat / 4096 % 16 * 64 + c.toNat / 64 % 64) * 64 + c.toNat % 64 =
        c.toNat := by omega
    rw [pieces_three (by omega) (by omega) (by omega) (by omega) (by omega), value, same]
  · rw [if_neg one, if_neg two, if_neg three]
    change pieces (UInt8.ofNat (c.toNat / 262144 % 8 + 0xF0) :: tailByte (c.toNat / 4096 % 64) ::
      tailByte (c.toNat / 64 % 64) :: tailByte (c.toNat % 64) :: rest) = _
    have value : ((c.toNat / 262144 % 8 * 64 + c.toNat / 4096 % 64) * 64 +
        c.toNat / 64 % 64) * 64 + c.toNat % 64 = c.toNat := by omega
    rw [pieces_four (by omega) (by omega) (by omega) (by omega) (by omega) (by omega), value, same]

theorem pieces_encode (characters : List Char) :
    pieces (encode characters) = characters.map .char := by
  induction characters with
  | nil => rfl
  | cons c rest ih => rw [encode_cons, pieces_utf8EncodeChar, ih, List.map_cons]

/-- What has been written as text reads as that text. -/
@[simp] theorem decode?_encode (characters : List Char) :
    decode? (encode characters) = some characters := by
  rw [decode?, pieces_encode]
  induction characters with
  | nil => rfl
  | cons c rest ih => simp [List.mapM_cons, Piece.char?, ih]

@[simp] theorem ofBytes?_toBytes (text : String) : ofBytes? (toBytes text) = some text := by
  simp [ofBytes?, toBytes]

@[simp] theorem isText_toBytes (text : String) : isText (toBytes text) = true := by
  simp [isText, toBytes]

/-- Two texts are the same when their bytes are. -/
theorem toBytes_inj {first second : String} : toBytes first = toBytes second ↔ first = second := by
  constructor
  · intro same
    have read := congrArg ofBytes? same
    simpa using read
  · rintro rfl
    rfl

end SingleRoot.Text
