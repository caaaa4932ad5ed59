/-
# Quoted scalars

A quoted scalar runs to its closing quote. Between single quotes only the quote itself needs care:
it is written twice. Between double quotes a backslash begins an escape sequence: a character with
a name of its own, a code point in two, four or eight hexadecimal digits, or a line break that is
not to be read.
-/
import SingleRoot.Markup.Scalar.Folding

namespace SingleRoot.Markup.Quoted

/-- The two ways of quoting. -/
inductive Quotes where
  | single
  | double
  deriving DecidableEq, Repr

/-- The quote that closes a scalar. -/
def Quotes.mark : Quotes → Char
  | single => '\''
  | double => '"'

/-- What the character after a backslash announces. -/
inductive Escape where
  | char (c : Char)
  | codePoint (digits : Nat)
  | unknown
  deriving DecidableEq, Repr

/-- The escape sequences. -/
def Escape.ofChar : Char → Escape
  | '0' => char '\x00'
  | 'a' => char '\x07'
  | 'b' => char '\x08'
  | 't' | '\t' => char '\t'
  | 'n' => char '\n'
  | 'v' => char '\x0B'
  | 'f' => char '\x0C'
  | 'r' => char '\r'
  | 'e' => char '\x1B'
  | ' ' => char ' '
  | '"' => char '"'
  | '/' => char '/'
  | '\\' => char '\\'
  | 'N' => char '\u0085'
  | '_' => char '\u00A0'
  | 'L' => char '\u2028'
  | 'P' => char '\u2029'
  | 'x' => codePoint 2
  | 'u' => codePoint 4
  | 'U' => codePoint 8
  | _ => unknown

/-- The character of a code point, if there is one. -/
def char? (point : Nat) : Option Char :=
  if h : point.isValidChar then some (Char.ofNatAux point h) else none

/-- Read on in a quoted scalar, after its opening quote. -/
def readFrom (quotes : Quotes) (start : Mark) :
    List Char → Mark → Folded → Reading (Folded × Cursor)
  | [], mark, _ => .fail .endOfStream mark .quotedScalar start
  | c :: rest, mark, folded =>
    if isBreak c then readFrom quotes start rest mark.nextLine (folded.addBreak c)
    else if isGap c then readFrom quotes start rest (mark.next c) (folded.addGap c)
    else if (Cursor.mk (c :: rest) mark).seesDocumentIndicator then
      .fail .documentIndicator mark .quotedScalar start
    else match quotes, c, rest with
      | .single, '\'', '\'' :: rest =>
        readFrom quotes start rest (mark.after ['\'', '\'']) (folded.addChar '\'')
      | .single, '\'', rest => .ok (folded.settle, ⟨rest, mark.next c⟩)
      | .double, '"', rest => .ok (folded.settle, ⟨rest, mark.next c⟩)
      | .double, '\\', [] => .fail .unknownEscape mark .escapeSequence start
      | .double, '\\', escaped :: rest =>
        if isBreak escaped then readFrom quotes start rest mark.nextLine folded.addEscapedBreak
        else
          let after := mark.after [c, escaped]
          match Escape.ofChar escaped with
          | .char meant => readFrom quotes start rest after (folded.addChar meant)
          | .unknown => .fail .unknownEscape mark .escapeSequence start
          | .codePoint digits =>
            let numeral := rest.take digits
            match if numeral.length = digits then Text.natural? 16 numeral else none with
            | none => .fail .missingHexDigits after .escapeSequence start
            | some point =>
              match char? point with
              | none => .fail .invalidCodePoint after .escapeSequence start
              | some meant =>
                readFrom quotes start (rest.drop digits) (after.after numeral)
                  (folded.addChar meant)
      | _, c, rest => readFrom quotes start rest (mark.next c) (folded.addChar c)
termination_by text => text.length
decreasing_by all_goals simp_all <;> omega

/-- Read a quoted scalar, from its opening quote to its closing one. -/
def read (quotes : Quotes) (cursor : Cursor) : Reading (String × Cursor) := do
  let (folded, after) ←
    readFrom quotes cursor.mark (cursor.rest.drop 1) (cursor.pass 1).mark .empty
  return (folded.text, after)

end SingleRoot.Markup.Quoted
