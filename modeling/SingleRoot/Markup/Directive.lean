/-
# Directives

Lines before a document that begin with a percent sign. One kind names the version of the format
that the document is written in, the other introduces a handle for tags.
-/
import SingleRoot.Markup.Tag

namespace SingleRoot.Markup

/-- A directive. -/
inductive Directive where
  | version (major minor : Nat)
  | abbreviation (handle : List Char) (stem : Bytes)
  deriving DecidableEq, Repr

namespace Directive

/-- A number of a version has at most so many digits. -/
def longestNumber : Nat := 9

/-- Read the name of a directive. -/
def readName (start : Mark) (cursor : Cursor) : Reading (List Char × Cursor) :=
  let (name, after) := cursor.span isNameChar
  if name.isEmpty then .fail .missingDirectiveName after.mark .directive start
  else if isEdge after.next? then .ok (name, after)
  else .fail .nonAlphabetic after.mark .directive start

/-- Read a number of a version. -/
def readNumber (start : Mark) (cursor : Cursor) : Reading (Nat × Cursor) :=
  let (digits, after) := cursor.span Char.isDigit
  if digits.length > longestNumber then
    .fail .longVersion (cursor.mark.after (digits.take longestNumber)) .versionDirective start
  else match Text.natural? 10 digits with
    | some number => .ok (number, after)
    | none => .fail .missingVersion after.mark .versionDirective start

/-- Read the version that a directive names. -/
def readVersion (start : Mark) (cursor : Cursor) : Reading (Directive × Cursor) := do
  let (major, after) ← readNumber start (cursor.skip isGap)
  if !after.sees '.' then .fail .missingDigitOrDot after.mark .versionDirective start
  else
    let (minor, after) ← readNumber start (after.pass 1)
    return (.version major minor, after)

/-- Read the handle that a directive introduces and what it stands for. -/
def readIntroduction (start : Mark) (cursor : Cursor) : Reading (Directive × Cursor) := do
  let context := Tag.Context.ofDirective start
  let (handle, after) ← Tag.readHandle context (cursor.skip isGap)
  if handle.length > 1 && handle.getLast? != some '!' then
    .fail .missingExclamation after.mark context.handleEnd start
  else if !after.next?.any isGap then .fail .missingBlank after.mark .handleDirective start
  else
    let (stem, after) ← Tag.readSomeUri true context (after.skip isGap)
    if isEdge after.next? then return (.abbreviation handle stem, after)
    else .fail .missingBlankOrBreak after.mark .handleDirective start

/-- Read a directive and the rest of its line. -/
def read (cursor : Cursor) : Reading (Directive × Cursor) := do
  let start := cursor.mark
  let (name, after) ← readName start (cursor.pass 1)
  let (directive, after) ←
    if name = "YAML".toList then readVersion start after
    else if name = "TAG".toList then readIntroduction start after
    else .fail .unknownDirective after.mark .directive start
  return (directive, ← after.passLineEnd .directive start)

end Directive

end SingleRoot.Markup
