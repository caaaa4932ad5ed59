/-
# Plain scalars

A plain scalar stands without quotes and ends where something else begins: at a colon with an edge
after it, at a comment, at a document indicator, at a line that is not indented enough, and inside
a flow collection also at the characters that structure the collection.
-/
import SingleRoot.Markup.Scalar.Folding

namespace SingleRoot.Markup

/-- The characters that structure a flow collection. -/
def isFlowIndicator (c : Char) : Bool :=
  c == ',' || c == '[' || c == ']' || c == '\x7b' || c == '\x7d'

namespace Plain

/-- Where a plain scalar stands. -/
structure Place where
  inFlow : Bool
  /-- The least column at which a further line of the scalar can begin. -/
  indent : Nat
  start : Mark

/-- Whether a plain scalar ends at the next character, which is no gap and no line break. -/
def endsAt (place : Place) (gap : Gap) (cursor : Cursor) : Bool :=
  let afterGap := gap.isOpen &&
    ((!place.inFlow && cursor.mark.column < place.indent) || cursor.seesDocumentIndicator ||
      cursor.sees '#')
  let atColon := cursor.sees ':' && isEdge (cursor.ahead? 1)
  afterGap || atColon || (place.inFlow && cursor.next?.any isFlowIndicator)

/-- Whether the next character is a colon that has no meaning inside a flow collection. -/
def isStrayColon (place : Place) (cursor : Cursor) : Bool :=
  place.inFlow && cursor.sees ':' &&
    (cursor.ahead? 1).any fun c => isFlowIndicator c || c == '?'

/-- Read on in a plain scalar. -/
def readFrom (place : Place) : List Char → Mark → Folded → Reading (Folded × Cursor)
  | [], mark, folded => .ok (folded, ⟨[], mark⟩)
  | c :: rest, mark, folded =>
    let here : Cursor := ⟨c :: rest, mark⟩
    if isBreak c then readFrom place rest mark.nextLine (folded.addBreak c)
    else if isGap c then
      if c == '\t' && folded.gap.isMultiline && mark.column < place.indent then
        .fail .tabInIndentation mark .plainScalar place.start
      else readFrom place rest (mark.next c) (folded.addGap c)
    else if endsAt place folded.gap here then .ok (folded, here)
    else if isStrayColon place here then .fail .unexpectedColon mark .plainScalar place.start
    else readFrom place rest (mark.next c) (folded.addChar c)

/-- Read a plain scalar. The result also says whether a line break was passed after its last
character. -/
def read (inFlow : Bool) (indent : Nat) (cursor : Cursor) :
    Reading (String × Bool × Cursor) := do
  let place : Place := ⟨inFlow, indent, cursor.mark⟩
  let (folded, after) ← readFrom place cursor.rest cursor.mark .empty
  return (folded.text, folded.gap.isMultiline, after)

end Plain

end SingleRoot.Markup
