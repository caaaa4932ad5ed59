/-
# Text as bytes

The host stores names, link targets and file contents as bytes, and only some runs of bytes are
text. This module supplies the encoding of characters and a reader that never gives up: it splits
any run of bytes into `Piece`s, each a character or a broken stretch that no character can start
with. Strict decoding accepts the runs without a broken stretch; lenient decoding replaces each
broken stretch by U+FFFD.

A broken stretch is as long as the bytes could still have begun a character and no longer, so the
byte that ruled the character out is read again from the start.
-/

namespace SingleRoot

/-- A run of bytes as the host stores it. -/
abbrev Bytes := List UInt8

namespace Text

/-- A stretch of bytes that has been read: one character, or bytes that are not text. -/
inductive Piece where
  | char (c : Char)
  | broken (bytes : Bytes)
  deriving DecidableEq, Repr

/-- The character a piece stands for, if it is text. -/
def Piece.char? : Piece → Option Char
  | .char c => some c
  | .broken _ => none

/-- A character of which some bytes have been read. The next byte must lie between `low` and
`high`, and `owed` counts the bytes that are still to come. -/
structure Partial where
  seen : Bytes
  value : Nat
  owed : Nat
  low : UInt8
  high : UInt8
  deriving DecidableEq, Repr

/-- What a first byte above the ASCII range promises. The narrower ranges after E0, ED, F0 and F4
keep out long forms of shorter characters, surrogates and values beyond U+10FFFF. -/
def Partial.ofLead? (lead : UInt8) : Option Partial :=
  let begin (payload owed : Nat) (low high : UInt8) : Option Partial :=
    some ⟨[lead], lead.toNat - payload, owed, low, high⟩
  if 0xC2 ≤ lead ∧ lead ≤ 0xDF then begin 0xC0 1 0x80 0xBF
  else if lead = 0xE0 then begin 0xE0 2 0xA0 0xBF
  else if lead = 0xED then begin 0xE0 2 0x80 0x9F
  else if 0xE1 ≤ lead ∧ lead ≤ 0xEF then begin 0xE0 2 0x80 0xBF
  else if lead = 0xF0 then begin 0xF0 3 0x90 0xBF
  else if 0xF1 ≤ lead ∧ lead ≤ 0xF3 then begin 0xF0 3 0x80 0xBF
  else if lead = 0xF4 then begin 0xF0 3 0x80 0x8F
  else none

/-- Read a byte between characters: it is a character of its own, begins a longer one, or is
broken. -/
def startByte (lead : UInt8) : List Piece × Option Partial :=
  if lead < 0x80 then ([.char (Char.ofNat lead.toNat)], none)
  else match Partial.ofLead? lead with
    | some begun => ([], some begun)
    | none => ([.broken [lead]], none)

/-- Read one more byte of a begun character. -/
def Partial.feed (begun : Partial) (byte : UInt8) : List Piece × Option Partial :=
  if begun.low ≤ byte ∧ byte ≤ begun.high then
    let value := begun.value * 64 + (byte.toNat - 0x80)
    if begun.owed ≤ 1 then ([.char (Char.ofNat value)], none)
    else ([], some ⟨begun.seen ++ [byte], value, begun.owed - 1, 0x80, 0xBF⟩)
  else
    let (pieces, next) := startByte byte
    (.broken begun.seen :: pieces, next)

/-- The pieces of a run of bytes, starting inside the character that has been begun. -/
def piecesFrom : Option Partial → Bytes → List Piece
  | none, [] => []
  | some begun, [] => [.broken begun.seen]
  | begun, byte :: rest =>
    let (pieces, next) := match begun with
      | none => startByte byte
      | some begun => begun.feed byte
    pieces ++ piecesFrom next rest

/-- A run of bytes as characters and broken stretches. -/
def pieces (bytes : Bytes) : List Piece :=
  piecesFrom none bytes

/-- The characters of a run of bytes that is text throughout. -/
def decode? (bytes : Bytes) : Option (List Char) :=
  (pieces bytes).mapM Piece.char?

/-- The text of a run of bytes that is text throughout. -/
def ofBytes? (bytes : Bytes) : Option String :=
  (decode? bytes).map String.ofList

/-- Whether a run of bytes is text throughout. -/
def isText (bytes : Bytes) : Bool :=
  (decode? bytes).isSome

/-- The characters of any run of bytes, each broken stretch replaced by U+FFFD. -/
def decodeLossy (bytes : Bytes) : List Char :=
  (pieces bytes).map fun piece => piece.char?.getD (Char.ofNat 0xFFFD)

/-- The bytes of a list of characters. -/
def encode (characters : List Char) : Bytes :=
  characters.flatMap String.utf8EncodeChar

/-- The bytes of a text. -/
def toBytes (text : String) : Bytes :=
  encode text.toList

@[simp] theorem encode_nil : encode [] = [] := rfl

@[simp] theorem encode_cons (c : Char) (rest : List Char) :
    encode (c :: rest) = String.utf8EncodeChar c ++ encode rest := rfl

@[simp] theorem encode_append (first second : List Char) :
    encode (first ++ second) = encode first ++ encode second :=
  List.flatMap_append

end Text

end SingleRoot
