/-
# Block scalars

A block scalar is a header and the indented lines below it. A literal scalar keeps its line breaks.
A folded one reads a line break between two lines of text as a space, unless one of the lines
begins with a gap. The header may say how far the lines are indented, which is otherwise told by
the first line that holds anything, and what becomes of the line breaks at the end.
-/
import SingleRoot.Markup.Source

namespace SingleRoot.Markup.Block

/-- How the line breaks inside a block scalar are read. -/
inductive Style where
  | literal
  | folded
  deriving DecidableEq, Repr

/-- What becomes of the line breaks at the end of a block scalar. -/
inductive Chomping where
  /-- All are dropped. -/
  | strip
  /-- The first is kept. -/
  | clip
  /-- All are kept. -/
  | keep
  deriving DecidableEq, Repr

/-- What the header of a block scalar says. -/
structure Header where
  chomping : Chomping
  /-- How much further than their surroundings the lines are indented, if it says so. -/
  increment : Option Nat
  deriving DecidableEq, Repr

/-- The chomping that a character of a header asks for. -/
def Chomping.ofChar? : Char → Option Chomping
  | '+' => some .keep
  | '-' => some .strip
  | _ => none

/-- Read a chomping indicator, if there is one. -/
def readChomping (cursor : Cursor) : Option Chomping × Cursor :=
  match cursor.next?.bind Chomping.ofChar? with
  | some chomping => (some chomping, cursor.pass 1)
  | none => (none, cursor)

/-- Read an indentation indicator, if there is one. -/
def readIncrement (start : Mark) (cursor : Cursor) : Reading (Option Nat × Cursor) :=
  match cursor.next?.bind (Text.digitValue? 10) with
  | some 0 => .fail .zeroIndentation cursor.mark .blockScalar start
  | some increment => .ok (some increment, cursor.pass 1)
  | none => .ok (none, cursor)

/-- Read the two indicators, in either order. -/
def readHeader (start : Mark) (cursor : Cursor) : Reading (Header × Cursor) :=
  match readChomping cursor with
  | (some chomping, cursor) => do
    let (increment, cursor) ← readIncrement start cursor
    return (⟨chomping, increment⟩, cursor)
  | (none, cursor) => do
    let (increment, cursor) ← readIncrement start cursor
    match increment with
    | none => return (⟨.clip, none⟩, cursor)
    | some _ =>
      let (chomping, cursor) := readChomping cursor
      return (⟨chomping.getD .clip, increment⟩, cursor)

/-- Where a block scalar stands. -/
structure Place where
  style : Style
  /-- The least indentation that its lines can have. -/
  least : Nat
  start : Mark

/-- What has been read of a block scalar. -/
structure Progress where
  /-- The characters of its lines, last one first. -/
  written : List Char
  /-- The line break that ended the last line. -/
  lastBreak : List Char
  /-- The line breaks after that, last one first. -/
  blankLines : List Char
  /-- Whether the last line begins with a gap. -/
  beganWithGap : Bool
  /-- The indentation of the lines, once it is known. -/
  indent : Option Nat
  /-- The deepest indentation that has been seen. -/
  deepest : Nat
  deriving Repr

namespace Progress

/-- Nothing has been read. -/
def start (indent : Option Nat) : Progress := ⟨[], [], [], false, indent, 0⟩

/-- Whether a column lies in the indentation. -/
def isIndentation (progress : Progress) (column : Nat) : Bool :=
  match progress.indent with
  | none => true
  | some indent => column < indent

/-- The indentation of the lines. If nothing else is known it is the deepest that has been seen. -/
def settledIndent (place : Place) (progress : Progress) : Nat :=
  progress.indent.getD (max progress.deepest place.least)

/-- Begin a line with its first character. -/
def beginLine (place : Place) (progress : Progress) (c : Char) : Progress :=
  let folds := place.style == .folded && progress.lastBreak == ['\n'] &&
    !progress.beganWithGap && !isGap c
  let between :=
    if folds then if progress.blankLines.isEmpty then [' '] else progress.blankLines
    else progress.blankLines ++ progress.lastBreak
  { progress with
    written := c :: (between ++ progress.written)
    lastBreak := []
    blankLines := []
    beganWithGap := isGap c
    indent := some (progress.settledIndent place) }

/-- The text of a block scalar that has come to its end, put together in reverse order. -/
def text (progress : Progress) (chomping : Chomping) : String :=
  let ending := match chomping with
    | .strip => []
    | .clip => progress.lastBreak
    | .keep => progress.blankLines ++ progress.lastBreak
  String.ofList (ending ++ progress.written).reverse

end Progress

/-- Read on in a block scalar, inside a line or in the indentation of one. -/
def readFrom (place : Place) (inLine : Bool) :
    List Char → Mark → Progress → Reading (Progress × Cursor)
  | [], mark, progress => .ok (progress, ⟨[], mark⟩)
  | c :: rest, mark, progress =>
    if inLine then
      if isBreak c then
        readFrom place false rest mark.nextLine { progress with lastBreak := [c] }
      else
        readFrom place true rest (mark.next c) { progress with written := c :: progress.written }
    else if c == ' ' && progress.isIndentation mark.column then
      readFrom place false rest (mark.next c)
        { progress with deepest := max progress.deepest (mark.column + 1) }
    else if c == '\t' && progress.isIndentation mark.column then
      .fail .tabForIndentation mark .blockScalar place.start
    else if isBreak c then
      readFrom place false rest mark.nextLine
        { progress with blankLines := c :: progress.blankLines }
    else if mark.column == progress.settledIndent place then
      readFrom place true rest (mark.next c) (progress.beginLine place c)
    else .ok (progress, ⟨c :: rest, mark⟩)

/-- Read a block scalar from its indicator on. `parent` is the indentation of the collection that
it stands in, if it stands in one. -/
def read (style : Style) (parent : Option Nat) (cursor : Cursor) :
    Reading (String × Cursor) := do
  let start := cursor.mark
  let (header, cursor) ← readHeader start (cursor.pass 1)
  let cursor ← cursor.passLineEnd .blockScalar start
  let indent := header.increment.map (parent.getD 0 + ·)
  let least := max 1 ((parent.map (· + 1)).getD 0)
  let (progress, cursor) ←
    readFrom ⟨style, least, start⟩ false cursor.rest cursor.mark (.start indent)
  return (progress.text header.chomping, cursor)

end SingleRoot.Markup.Block
