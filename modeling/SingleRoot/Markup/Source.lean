/-
# The characters of a document

A document is read character by character. This module supplies the classes of characters that the
reading depends on, and the cursor that says what is still to be read and where that begins.

Before anything else is read a text is settled: every line break that ends a line in the usual
ways becomes a line feed. The two Unicode separators for lines and paragraphs break lines as well
but stay what they are.

A text that holds a control character is refused. It is taken in by blocks, and such a character
comes to light when its block is taken in. What is wrong with the blocks before comes first.
-/
import SingleRoot.Markup.Failure
import SingleRoot.Text.Utf8

namespace SingleRoot.Markup

/-! ## Classes of characters -/

/-- A space or a tab. -/
def isGap (c : Char) : Bool := c == ' ' || c == '\t'

/-- A character that breaks a line in a settled text. -/
def isBreak (c : Char) : Bool := c == '\n' || c == '\u2028' || c == '\u2029'

/-- The places at which a word or an indicator can end: before a gap, before a line break and at
the end of the text. -/
def isEdge : Option Char → Bool
  | none => true
  | some c => isGap c || isBreak c

/-- The characters that names consist of. -/
def isNameChar (c : Char) : Bool := c.isAlphanum || c == '_' || c == '-'

/-- The characters that may occur in a document. -/
def isAllowed (c : Char) : Bool :=
  let point := c.toNat
  point == 0x09 || point == 0x0A || point == 0x0D || (0x20 ≤ point && point ≤ 0x7E) ||
  point == 0x85 || (0xA0 ≤ point && point ≤ 0xFFFD) || 0x10000 ≤ point

/-- The character that may stand unnoticed at the start of a line, before a token. -/
def byteOrderMark : Char := '\uFEFF'

/-! ## Settled texts -/

/-- Let every line end in a line feed, unless it ends in a separator. -/
def settleBreaks : List Char → List Char
  | [] => []
  | '\r' :: '\n' :: rest => '\n' :: settleBreaks rest
  | c :: rest => (if c == '\r' || c == '\u0085' then '\n' else c) :: settleBreaks rest

/-! ## Stray characters -/

/-- A block has at most so many bytes. It ends where a character ends. -/
def blockSize : Nat := 16384

/-- A character that may not occur in a document. -/
structure Stray where
  /-- The number of bytes before it. -/
  offset : Nat
  /-- The place where its block begins. Nothing is read from there on. -/
  limit : Mark
  deriving DecidableEq, Repr

namespace Stray

/-- Look for the first character that may not occur, in the text from an offset on. The result
says how many bytes come before it and how much of the text is left where its block begins. -/
def findFrom? (offset blockOffset : Nat) (block : List Char) : List Char → Option (Nat × List Char)
  | [] => none
  | c :: rest =>
    let after := offset + c.utf8Size
    let (blockOffset, block) :=
      if blockOffset + blockSize < after then (offset, c :: rest) else (blockOffset, block)
    if isAllowed c then findFrom? after blockOffset block rest else some (offset, block)

/-- The first character of a text that may not occur. -/
def find? (text : List Char) : Option Stray :=
  (findFrom? 0 0 text text).map fun (offset, block) =>
    let before := settleBreaks (text.take (text.length - block.length))
    ⟨offset, before.foldl (fun mark c => if isBreak c then mark.nextLine else mark.next c) .start⟩

/-- The report of a stray character. -/
def failure (stray : Stray) : Failure := .controlCharacter stray.offset

end Stray

/-! ## Cursors -/

/-- What is still to be read, and the place where it begins. -/
structure Cursor where
  rest : List Char
  mark : Mark
  deriving DecidableEq, Repr

namespace Cursor

/-- The cursor at the start of a text. -/
def ofText (text : String) : Cursor := ⟨settleBreaks text.toList, .start⟩

/-- The character that is `n` places ahead. -/
def ahead? (cursor : Cursor) (n : Nat) : Option Char := cursor.rest[n]?

/-- The next character. -/
def next? (cursor : Cursor) : Option Char := cursor.rest.head?

/-- Whether the next character is the given one. -/
def sees (cursor : Cursor) (c : Char) : Bool := cursor.next? == some c

/-- Pass over a number of characters that do not break the line. -/
def pass (cursor : Cursor) (count : Nat) : Cursor :=
  ⟨cursor.rest.drop count, cursor.mark.after (cursor.rest.take count)⟩

/-- The characters from here on that satisfy a condition. It must not hold of a line break. -/
def span (cursor : Cursor) (holds : Char → Bool) : List Char × Cursor :=
  let taken := cursor.rest.takeWhile holds
  (taken, ⟨cursor.rest.dropWhile holds, cursor.mark.after taken⟩)

/-- Pass over characters that satisfy a condition. It must not hold of a line break. -/
def skip (cursor : Cursor) (holds : Char → Bool) : Cursor := (cursor.span holds).2

/-- Pass over a line break, if there is one here. -/
def passBreak (cursor : Cursor) : Cursor :=
  match cursor.rest with
  | c :: rest => if isBreak c then ⟨rest, cursor.mark.nextLine⟩ else cursor
  | [] => cursor

/-- Pass over what may still stand on a line when its content has ended: a gap, a comment and the
line break. It is an error of the given construct if there is anything else. -/
def passLineEnd (cursor : Cursor) (construct : Construct) (start : Mark) : Reading Cursor :=
  let afterGap := cursor.skip isGap
  let afterComment :=
    if afterGap.sees '#' then afterGap.skip (!isBreak ·) else afterGap
  match afterComment.next? with
  | none => .ok afterComment
  | some c =>
    if isBreak c then .ok afterComment.passBreak
    else .fail .missingLineEnd afterComment.mark construct start

/-- A document indicator is three dashes or three dots at the start of a line. -/
def seesIndicator (cursor : Cursor) (c : Char) : Bool :=
  cursor.mark.column == 0 && cursor.rest.take 3 == [c, c, c] && isEdge (cursor.ahead? 3)

/-- Whether either document indicator stands here. -/
def seesDocumentIndicator (cursor : Cursor) : Bool :=
  cursor.seesIndicator '-' || cursor.seesIndicator '.'

end Cursor

end SingleRoot.Markup
