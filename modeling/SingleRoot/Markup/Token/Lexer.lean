/-
# Reading tokens

A lexer cuts a text into tokens. Two things make this more than cutting. Indentation opens and
closes block collections, so the lexer keeps the columns of those that are open. And whether
something is a key shows only at the colon after it, so the lexer keeps, for each level of nesting
in flow collections, the place of what may turn out to be one; at the colon the key token is put in
before it. A key of this kind ends on the line it begins on and within 1024 bytes. At the
indentation of an open block collection there can be nothing but a key, and it is an error if it
turns out not to be one.

As long as something may still turn out to be a key, no token from there on is settled. When the
text turns out to be malformed, only the settled tokens count.
-/
import SingleRoot.Markup.Scalar.Block
import SingleRoot.Markup.Scalar.Plain
import SingleRoot.Markup.Scalar.Quoted
import SingleRoot.Markup.Token

namespace SingleRoot.Markup

/-- A key ends within so many bytes. -/
def longestKey : Nat := 1024

/-- Whether what begins at one place can no longer be a key when another place is reached. -/
def isPastKey (start mark : Mark) : Bool :=
  start.line < mark.line || start.bytes + longestKey < mark.bytes

/-- Something that may turn out to be a key. -/
structure KeyCandidate where
  /-- The number of the token that it begins with. -/
  number : Nat
  mark : Mark
  deriving DecidableEq, Repr

/-- A lexer at work. -/
structure Lexer where
  cursor : Cursor
  /-- The tokens that have been read. -/
  tokens : TokenStack
  /-- The columns of the open block collections, innermost first. -/
  indents : List Nat
  /-- What may turn out to be a key, in the innermost collection. -/
  candidate : Option KeyCandidate
  /-- The same for the collections around it, one entry for each open flow collection. -/
  outer : List (Option KeyCandidate)
  /-- Where a key begins that must be one. It is the candidate outside all flow collections. -/
  owed : Option Mark
  /-- Whether a key can begin here. -/
  keyAllowed : Bool
  deriving Repr

namespace Lexer

/-- A lexer that has read nothing. -/
def start (cursor : Cursor) : Lexer := ⟨cursor, .empty, [], none, [], none, true⟩

/-- Whether a flow collection is open. -/
def inFlow (lexer : Lexer) : Bool := !lexer.outer.isEmpty

/-- The place that the lexer has reached. -/
def mark (lexer : Lexer) : Mark := lexer.cursor.mark

/-- Take up a token that ends at the given cursor. -/
def emit (lexer : Lexer) (token : Token) (after : Cursor) : Lexer :=
  { lexer with cursor := after, tokens := lexer.tokens.push ⟨token, lexer.mark, after.mark⟩ }

/-- Take up a token of so many characters. -/
def emitIndicator (lexer : Lexer) (token : Token) (width : Nat) : Lexer :=
  lexer.emit token (lexer.cursor.pass width)

/-- Put a token that takes up no space before the token of the given number. -/
def putBefore (lexer : Lexer) (number : Nat) (token : Token) (mark : Mark) : Lexer :=
  { lexer with tokens := lexer.tokens.insert number ⟨token, mark, mark⟩ }

/-- Say whether a key can begin here. -/
def allowKey (lexer : Lexer) (allowed : Bool) : Lexer := { lexer with keyAllowed := allowed }

/-! ## Gaps -/

/-- Pass over gaps, comments and line breaks before the next token. Tabs count as a gap only where
no key can begin; a key can begin after each line break outside flow collections. A byte order mark
at the start of a line takes up a column like any other character. -/
def skipFrom (inFlow : Bool) (keyAllowed inComment : Bool) :
    List Char → Mark → Cursor × Bool
  | [], mark => (⟨[], mark⟩, keyAllowed)
  | c :: rest, mark =>
    if isBreak c then skipFrom inFlow (keyAllowed || !inFlow) false rest mark.nextLine
    else if inComment || c == ' ' || (c == '\t' && (inFlow || !keyAllowed)) ||
        (c == byteOrderMark && mark.column == 0) then
      skipFrom inFlow keyAllowed inComment rest (mark.next c)
    else if c == '#' then skipFrom inFlow keyAllowed true rest (mark.next c)
    else (⟨c :: rest, mark⟩, keyAllowed)

/-- Pass over what stands before the next token. -/
def skipGaps (lexer : Lexer) : Lexer :=
  let (cursor, keyAllowed) :=
    skipFrom lexer.inFlow lexer.keyAllowed false lexer.cursor.rest lexer.mark
  { lexer with cursor, keyAllowed }

/-! ## Candidates for keys -/

/-- Whether a candidate can still be a key. -/
def isLive (lexer : Lexer) (candidate : KeyCandidate) : Bool :=
  !isPastKey candidate.mark lexer.mark

/-- Report the key that must be one and can no longer be. -/
def failOwed (lexer : Lexer) (start : Mark) : Reading Lexer :=
  .fail .missingColon lexer.mark .simpleKey start

/-- See that a key that must be one can still be one. -/
def checkOwed (lexer : Lexer) : Reading Lexer :=
  match lexer.owed with
  | some start => if isPastKey start lexer.mark then lexer.failOwed start else .ok lexer
  | none => .ok lexer

/-- Forget the candidate of the innermost collection, since no colon can make it a key now. -/
def dropCandidate (lexer : Lexer) : Reading Lexer :=
  match lexer.inFlow, lexer.owed with
  | false, some start => lexer.failOwed start
  | _, _ => .ok { lexer with candidate := none }

/-- Take the next token as a candidate, if a key can begin here. -/
def offerKey (lexer : Lexer) : Reading Lexer :=
  if !lexer.keyAllowed then .ok lexer
  else do
    let lexer ← lexer.dropCandidate
    let isOwed := !lexer.inFlow && lexer.indents.head? == some lexer.mark.column
    return { lexer with
      candidate := some ⟨lexer.tokens.count, lexer.mark⟩
      owed := if isOwed then some lexer.mark else lexer.owed }

/-- Take up the candidate of the innermost collection, if it can still be a key. -/
def takeKey? (lexer : Lexer) : Option (KeyCandidate × Lexer) :=
  match lexer.candidate with
  | some candidate =>
    if lexer.isLive candidate then
      some (candidate, { lexer with
        candidate := none
        owed := if lexer.inFlow then lexer.owed else none })
    else none
  | none => none

/-- The number of tokens that are settled. -/
def settled (lexer : Lexer) : Nat :=
  (lexer.candidate :: lexer.outer).foldl
    (fun least candidate => min least (((candidate.filter lexer.isLive).map (·.number)).getD least))
    lexer.tokens.count

/-! ## Indentation -/

/-- Open a block collection at a column, if that is further in than those that are open. The token
goes before the token of the given number. -/
def openBlock (lexer : Lexer) (token : Token) (number : Nat) (mark : Mark) : Lexer :=
  if lexer.inFlow || lexer.indents.head?.any (mark.column ≤ ·) then lexer
  else
    { lexer.putBefore number token mark with indents := mark.column :: lexer.indents }

/-- Open a block collection at the present place. -/
def openBlockHere (lexer : Lexer) (token : Token) : Lexer :=
  lexer.openBlock token lexer.tokens.count lexer.mark

/-- Close the block collections for which a condition on the column holds, from the inside out. -/
def closeBlocks (lexer : Lexer) (isClosed : Nat → Bool) : Lexer :=
  if lexer.inFlow then lexer
  else
    let closed := lexer.indents.takeWhile isClosed
    { lexer with
      tokens := closed.foldl (fun tokens _ => tokens.push ⟨.blockEnd, lexer.mark, lexer.mark⟩)
        lexer.tokens
      indents := lexer.indents.dropWhile isClosed }

/-- Close all block collections. -/
def closeAllBlocks (lexer : Lexer) : Lexer := lexer.closeBlocks fun _ => true

/-! ## The kinds of tokens -/

/-- The end of the text. It begins a line of its own. -/
def readEnd (lexer : Lexer) : Reading Lexer :=
  let mark := if lexer.mark.column = 0 then lexer.mark else lexer.mark.nextLine
  ({ lexer with cursor := ⟨[], mark⟩ }).closeAllBlocks.dropCandidate

/-- A directive. -/
def readDirective (lexer : Lexer) : Reading Lexer := do
  let lexer ← lexer.closeAllBlocks.dropCandidate
  let (directive, after) ← Directive.read lexer.cursor
  return (lexer.allowKey false).emit (.directive directive) after

/-- A document indicator. -/
def readDocumentIndicator (lexer : Lexer) (token : Token) : Reading Lexer := do
  let lexer ← lexer.closeAllBlocks.dropCandidate
  return (lexer.allowKey false).emitIndicator token 3

/-- The start of a flow collection. -/
def readFlowStart (lexer : Lexer) (token : Token) : Reading Lexer := do
  let lexer ← lexer.offerKey
  let inner := { lexer with candidate := none, outer := lexer.candidate :: lexer.outer }
  return (inner.allowKey true).emitIndicator token 1

/-- The end of a flow collection. -/
def readFlowEnd (lexer : Lexer) (token : Token) : Reading Lexer := do
  let lexer ← lexer.dropCandidate
  let around := match lexer.outer with
    | candidate :: outer => { lexer with candidate, outer }
    | [] => lexer
  return (around.allowKey false).emitIndicator token 1

/-- A comma of a flow collection. -/
def readFlowEntry (lexer : Lexer) : Reading Lexer := do
  return ((← lexer.dropCandidate).allowKey true).emitIndicator .flowEntry 1

/-- A dash before an entry of a block sequence. In a flow collection it is a token too, and an
error only later. -/
def readBlockEntry (lexer : Lexer) : Reading Lexer := do
  if !lexer.inFlow && !lexer.keyAllowed then .failAlone .entryNotAllowed lexer.mark
  else
    let lexer ← (lexer.openBlockHere .blockSequenceStart).dropCandidate
    return (lexer.allowKey true).emitIndicator .blockEntry 1

/-- A question mark before a key. -/
def readKey (lexer : Lexer) : Reading Lexer := do
  if !lexer.inFlow && !lexer.keyAllowed then .failAlone .keyNotAllowed lexer.mark
  else
    let lexer ← (lexer.openBlockHere .blockMappingStart).dropCandidate
    return (lexer.allowKey !lexer.inFlow).emitIndicator .key 1

/-- A colon before a value. It makes the candidate a key. -/
def readValue (lexer : Lexer) : Reading Lexer :=
  match lexer.takeKey? with
  | some (⟨number, mark⟩, lexer) =>
    let keyed := (lexer.putBefore number .key mark).openBlock .blockMappingStart number mark
    .ok ((keyed.allowKey false).emitIndicator .value 1)
  | none =>
    if !lexer.inFlow && !lexer.keyAllowed then .failAlone .valueNotAllowed lexer.mark
    else
      let opened := lexer.openBlockHere .blockMappingStart
      .ok ((opened.allowKey !lexer.inFlow).emitIndicator .value 1)

/-- An anchor or an alias. A name is followed by an edge or by one of a few indicators. -/
def readName (lexer : Lexer) (token : List Char → Token) (construct : Construct) :
    Reading Lexer := do
  let lexer ← lexer.offerKey
  let (name, after) := (lexer.cursor.pass 1).span isNameChar
  let ends := isEdge after.next? || after.next?.any "?:,]\x7d%@\x60".toList.contains
  if name.isEmpty || !ends then .fail .missingName after.mark construct lexer.mark
  else return (lexer.allowKey false).emit (token name) after

/-- A tag. -/
def readTag (lexer : Lexer) : Reading Lexer := do
  let lexer ← lexer.offerKey
  let (shorthand, after) ← Tag.read lexer.inFlow lexer.cursor
  return (lexer.allowKey false).emit (.tag shorthand) after

/-- A block scalar. -/
def readBlockScalar (lexer : Lexer) (style : Block.Style) : Reading Lexer := do
  let lexer ← lexer.dropCandidate
  let (text, after) ← Block.read style lexer.indents.head? lexer.cursor
  return (lexer.allowKey true).emit (.scalar text false) after

/-- A quoted scalar. -/
def readQuoted (lexer : Lexer) (quotes : Quoted.Quotes) : Reading Lexer := do
  let lexer ← lexer.offerKey
  let (text, after) ← Quoted.read quotes lexer.cursor
  return (lexer.allowKey false).emit (.scalar text false) after

/-- A plain scalar. -/
def readPlain (lexer : Lexer) : Reading Lexer := do
  let lexer ← lexer.offerKey
  let indent := (lexer.indents.head?.map (· + 1)).getD 0
  let (text, passedBreak, after) ← Plain.read lexer.inFlow indent lexer.cursor
  return (lexer.allowKey passedBreak).emit (.scalar text true) after

/-- Whether a plain scalar can begin with the next character. -/
def startsPlain (lexer : Lexer) (c : Char) : Bool :=
  if c == '-' then !(lexer.cursor.ahead? 1).all isGap
  else if c == '?' || c == ':' then !lexer.inFlow && !isEdge (lexer.cursor.ahead? 1)
  else !isEdge (some c) && !isFlowIndicator c && !"#&*!|>'\"%@\x60".toList.contains c

/-- Read the token that begins with the given character. -/
def readAt (lexer : Lexer) (c : Char) : Reading Lexer :=
  let inFlow := lexer.inFlow
  let isEdged := isEdge (lexer.cursor.ahead? 1)
  if c == '%' && lexer.mark.column == 0 then lexer.readDirective
  else if lexer.cursor.seesIndicator '-' then lexer.readDocumentIndicator .documentStart
  else if lexer.cursor.seesIndicator '.' then lexer.readDocumentIndicator .documentEnd
  else if c == '[' then lexer.readFlowStart .flowSequenceStart
  else if c == '\x7b' then lexer.readFlowStart .flowMappingStart
  else if c == ']' then lexer.readFlowEnd .flowSequenceEnd
  else if c == '\x7d' then lexer.readFlowEnd .flowMappingEnd
  else if c == ',' then lexer.readFlowEntry
  else if c == '-' && isEdged then lexer.readBlockEntry
  else if c == '?' && (inFlow || isEdged) then lexer.readKey
  else if c == ':' && (inFlow || isEdged) then lexer.readValue
  else if c == '*' then lexer.readName .reference .reference
  else if c == '&' then lexer.readName .anchor .anchor
  else if c == '!' then lexer.readTag
  else if c == '|' && !inFlow then lexer.readBlockScalar .literal
  else if c == '>' && !inFlow then lexer.readBlockScalar .folded
  else if c == '\'' then lexer.readQuoted .single
  else if c == '"' then lexer.readQuoted .double
  else if lexer.startsPlain c then lexer.readPlain
  else .fail .strayCharacter lexer.mark .token lexer.mark

/-- Read one token and what it brings with it. The result also says whether the text has ended. -/
def read (lexer : Lexer) : Reading (Lexer × Bool) := do
  let lexer ← lexer.skipGaps.checkOwed
  let lexer := lexer.closeBlocks (lexer.mark.column < ·)
  match lexer.cursor.next? with
  | none => return (← lexer.readEnd.bind checkOwed, true)
  | some c => return (← (← lexer.readAt c).checkOwed, false)

/-- Read one token unless a stray character comes to light before that is done. -/
def readBefore (stray : Option Stray) (lexer : Lexer) : Reading (Lexer × Bool) :=
  match stray, lexer.read with
  | none, result => result
  | some stray, .ok (next, ended) =>
    if next.mark.isBefore stray.limit then .ok (next, ended) else .error stray.failure
  | some stray, .error failure =>
    .error (if failure.isBefore stray.limit then failure else stray.failure)

/-- Read on to the end of the text. Each round reads at least one character, so the number of
rounds need not exceed the length of the text by more than one. -/
def readAll (stray : Option Stray) : Nat → Lexer → Tokens
  | 0, lexer => lexer.tokens.toTokens lexer.tokens.count (.finished lexer.mark)
  | rounds + 1, lexer =>
    match lexer.readBefore stray with
    | .error failure => lexer.tokens.toTokens lexer.settled (.broken failure)
    | .ok (next, true) => next.tokens.toTokens next.tokens.count (.finished next.mark)
    | .ok (next, false) => readAll stray rounds next

end Lexer

/-- The tokens of a text. -/
def Tokens.ofText (text : String) : Tokens :=
  let cursor := Cursor.ofText text
  (Lexer.start cursor).readAll (Stray.find? text.toList) (cursor.rest.length + 1)

end SingleRoot.Markup
