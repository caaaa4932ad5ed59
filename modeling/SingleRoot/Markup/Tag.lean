/-
# Tags

A tag says what kind of value a node is meant to be. It is written in full between angle brackets,
or as a handle with a suffix, where the handle abbreviates the beginning of the tag. Any byte can
be spelled in a tag by a percent sign and two hexadecimal digits, as long as the bytes that belong
together look like a character. What is written after a byte that is zero does not count.
-/
import SingleRoot.Markup.Source

namespace SingleRoot.Markup

/-- A tag, as the bytes it consists of. -/
abbrev Tag := Bytes

namespace Tag

/-- What the tags of the common kinds of value begin with. -/
def commonStem : Bytes := Text.toBytes "tag:yaml.org,2002:"

/-- The tag of a common kind of value. -/
def common (name : String) : Tag := commonStem ++ Text.toBytes name

/-- A tag as it is written: the handle it begins with, if it has one, and the rest. -/
structure Shorthand where
  handle : Option (List Char)
  suffix : Bytes
  deriving DecidableEq, Repr

/-- The tag that is nothing but an exclamation mark. -/
def nonSpecific : Tag := Text.toBytes "!"

/-- The constructs that a report names when something is wrong with a tag. -/
structure Context where
  handle : Construct
  handleEnd : Construct
  uri : Construct
  start : Mark

/-- The context of a tag on a node. -/
def Context.ofNode (start : Mark) : Context := ⟨.tag, .tag, .tagUri, start⟩

/-- The context of a directive that introduces a handle. -/
def Context.ofDirective (start : Mark) : Context :=
  ⟨.directiveHandle, .directiveHandleEnd, .handleDirectiveUri, start⟩

/-- The characters of a tag that need no percent sign; inside angle brackets there are three
more. -/
def isUriChar (bracketed : Bool) (c : Char) : Bool :=
  isNameChar c || ";/?:@&=+$.!~*'()".toList.contains c || (bracketed && ",[]".toList.contains c)

/-- The number of bytes that a character takes whose first byte is the given one. -/
def width? (lead : Nat) : Option Nat :=
  if lead < 0x80 then some 1
  else if lead / 0x20 = 0x6 then some 2
  else if lead / 0x10 = 0xE then some 3
  else if lead / 0x8 = 0x1E then some 4
  else none

/-- Read one spelled byte. -/
def readOctet (context : Context) (cursor : Cursor) : Reading (Nat × Cursor) :=
  match cursor.rest with
  | '%' :: high :: low :: _ =>
    match Text.natural? 16 [high, low] with
    | some octet => .ok (octet, cursor.pass 3)
    | none => .fail .missingOctet cursor.mark context.uri context.start
  | _ => .fail .missingOctet cursor.mark context.uri context.start

/-- Read the spelled bytes that continue a character. -/
def readContinuation (context : Context) : Nat → Cursor → Reading (Bytes × Cursor)
  | 0, cursor => .ok ([], cursor)
  | count + 1, cursor => do
    let (octet, after) ← readOctet context cursor
    if octet / 0x40 ≠ 0x2 then
      .fail .incorrectTrailingOctet cursor.mark context.uri context.start
    else
      let (others, after) ← readContinuation context count after
      return (UInt8.ofNat octet :: others, after)

/-- Read the spelled bytes of one character. -/
def readSpelled (context : Context) (cursor : Cursor) : Reading (Bytes × Cursor) := do
  let (octet, after) ← readOctet context cursor
  match width? octet with
  | none => .fail .incorrectLeadingOctet cursor.mark context.uri context.start
  | some width =>
    let (others, after) ← readContinuation context (width - 1) after
    return (UInt8.ofNat octet :: others, after)

/-- Read the characters of a tag as far as they go. Each round reads at least one character, so the
number of rounds need not exceed the length of the text. -/
def readUriFrom (bracketed : Bool) (context : Context) :
    Nat → Cursor → Reading (Bytes × Cursor)
  | 0, cursor => .ok ([], cursor)
  | rounds + 1, cursor =>
    match cursor.next? with
    | none => .ok ([], cursor)
    | some c =>
      if c == '%' then do
        let (bytes, after) ← readSpelled context cursor
        let (others, after) ← readUriFrom bracketed context rounds after
        return (bytes ++ others, after)
      else if isUriChar bracketed c then do
        let (others, after) ← readUriFrom bracketed context rounds (cursor.pass 1)
        return (String.utf8EncodeChar c ++ others, after)
      else .ok ([], cursor)

/-- Read the characters of a tag. Of the bytes those before the first zero count. -/
def readUri (bracketed : Bool) (context : Context) (cursor : Cursor) :
    Reading (Bytes × Cursor) := do
  let (bytes, after) ← readUriFrom bracketed context cursor.rest.length cursor
  return (bytes.takeWhile (· ≠ 0), after)

/-- Read the characters of a tag, of which there must be some, whether they count or not. -/
def readSomeUri (bracketed : Bool) (context : Context) (cursor : Cursor) :
    Reading (Bytes × Cursor) := do
  let (bytes, after) ← readUri bracketed context cursor
  if after.mark = cursor.mark then .fail .missingUri after.mark context.uri context.start
  else return (bytes, after)

/-- Read what may be a handle: an exclamation mark, a name and, if it is one, another exclamation
mark. -/
def readHandle (context : Context) (cursor : Cursor) : Reading (List Char × Cursor) :=
  if !cursor.sees '!' then .fail .missingExclamation cursor.mark context.handle context.start
  else
    let (name, after) := (cursor.pass 1).span isNameChar
    if after.sees '!' then .ok ('!' :: name ++ ['!'], after.pass 1)
    else .ok ('!' :: name, after)

/-- Whether what has been read is a handle and more than a lone exclamation mark. -/
def isNamedHandle (handle : List Char) : Bool :=
  handle.length > 1 && handle.getLast? == some '!'

/-- Read a tag without the check of what follows it. -/
def readBare (start : Mark) (cursor : Cursor) : Reading (Shorthand × Cursor) := do
  let context := Context.ofNode start
  if cursor.ahead? 1 == some '<' then
    let (bytes, after) ← readSomeUri true context (cursor.pass 2)
    if after.sees '>' then return (⟨none, bytes⟩, after.pass 1)
    else .fail .missingAngle after.mark .tag start
  else
    let (handle, after) ← readHandle context cursor
    if isNamedHandle handle then
      let (suffix, after) ← readSomeUri false context after
      return (⟨some handle, suffix⟩, after)
    else
      let (others, after) ← readUri false context after
      let suffix := Text.encode (handle.drop 1) ++ others
      if suffix.isEmpty then return (⟨none, nonSpecific⟩, after)
      else return (⟨some ['!'], suffix⟩, after)

/-- Read a tag. An edge must follow it, or inside a flow collection a comma. -/
def read (inFlow : Bool) (cursor : Cursor) : Reading (Shorthand × Cursor) := do
  let (shorthand, after) ← readBare cursor.mark cursor
  if isEdge after.next? || (inFlow && after.sees ',') then return (shorthand, after)
  else .fail .missingBlankOrBreak after.mark .tag cursor.mark

end Tag

end SingleRoot.Markup
