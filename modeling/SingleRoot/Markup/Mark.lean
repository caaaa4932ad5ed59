/-
# Places in a document

A mark is a place in a document: how many lines lie before it, and how many characters and bytes of
its own line. Reports count lines and columns from one and leave the bytes out.
-/
import SingleRoot.Text.Numeral

namespace SingleRoot.Markup

/-- A place in a document, counted from zero. -/
structure Mark where
  line : Nat
  column : Nat
  /-- The number of bytes that the characters before it on its line take. -/
  bytes : Nat
  deriving DecidableEq, Repr

namespace Mark

/-- The start of a document. -/
def start : Mark := ⟨0, 0, 0⟩

instance : Inhabited Mark := ⟨start⟩

/-- The place after a character that does not end its line. -/
def next (mark : Mark) (c : Char) : Mark := ⟨mark.line, mark.column + 1, mark.bytes + c.utf8Size⟩

/-- The place after characters that do not end their line. -/
def after (mark : Mark) (characters : List Char) : Mark := characters.foldl next mark

/-- The place after a line break. -/
def nextLine (mark : Mark) : Mark := ⟨mark.line + 1, 0, 0⟩

/-- Whether a place comes before another. -/
def isBefore (mark other : Mark) : Bool :=
  mark.line < other.line || (mark.line == other.line && mark.column < other.column)

/-- A mark as reports show it. The start of a document is not worth a mention. -/
def shown (mark : Mark) : String :=
  if mark = start then ""
  else
    " at line " ++ Text.decimal (mark.line + 1) ++ " column " ++ Text.decimal (mark.column + 1)

end Mark

end SingleRoot.Markup
