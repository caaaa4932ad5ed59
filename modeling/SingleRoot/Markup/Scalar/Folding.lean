/-
# Scalars over several lines

A plain or quoted scalar may run over several lines. Gaps around a line break then mean nothing: a
single line break is read as a space, and of several the first is dropped. A line or paragraph
separator is never read as a space. This module supplies the gap between two words of such a scalar
and what is written for it.
-/
import SingleRoot.Markup.Source

namespace SingleRoot.Markup

/-- What has been read since the last character that is neither a gap nor a line break. The
characters are kept in reverse order. -/
inductive Gap where
  /-- Some gap characters on one line, possibly none. -/
  | sameLine (characters : List Char)
  /-- A line break and the line breaks after it. The first is missing if it has been escaped. -/
  | lines (first : Option Char) (others : List Char)
  deriving DecidableEq, Repr

namespace Gap

/-- Nothing has been read. -/
def none : Gap := sameLine []

/-- Whether anything has been read. -/
def isOpen : Gap → Bool
  | sameLine characters => !characters.isEmpty
  | lines _ _ => true

/-- Whether a line break has been read. -/
def isMultiline : Gap → Bool
  | sameLine _ => false
  | lines _ _ => true

/-- Read a space or a tab. Those after a line break mean nothing. -/
def addGap (c : Char) : Gap → Gap
  | sameLine characters => sameLine (c :: characters)
  | lines first others => lines first others

/-- Read a line break. Gap characters before it mean nothing. -/
def addBreak (c : Char) : Gap → Gap
  | sameLine _ => lines (some c) []
  | lines first others => lines first (c :: others)

/-- What stands between the words, in reverse order. -/
def text : Gap → List Char
  | sameLine characters => characters
  | lines (some '\n') [] => [' ']
  | lines (some '\n') others => others
  | lines (some first) others => others ++ [first]
  | lines .none others => others

end Gap

/-- What has been read of a scalar: the characters before the present gap, last one first, and the
gap. -/
structure Folded where
  written : List Char
  gap : Gap
  deriving DecidableEq, Repr

namespace Folded

/-- Nothing has been read. -/
def empty : Folded := ⟨[], .none⟩

/-- Read a space or a tab. -/
def addGap (folded : Folded) (c : Char) : Folded := { folded with gap := folded.gap.addGap c }

/-- Read a line break. -/
def addBreak (folded : Folded) (c : Char) : Folded := { folded with gap := folded.gap.addBreak c }

/-- Close the gap. -/
def settle (folded : Folded) : Folded := ⟨folded.gap.text ++ folded.written, .none⟩

/-- Read a character of a word. -/
def addChar (folded : Folded) (c : Char) : Folded := ⟨c :: folded.settle.written, .none⟩

/-- Read a line break that has been escaped. -/
def addEscapedBreak (folded : Folded) : Folded := ⟨folded.settle.written, .lines .none []⟩

/-- The characters before the present gap. -/
def text (folded : Folded) : String := String.ofList folded.written.reverse

end Folded

end SingleRoot.Markup
