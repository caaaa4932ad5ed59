/-
# Malformed documents

Why a text is not a document. A failure is a problem at a mark, and where the problem lies inside
a larger construct it also says which construct and where that begins. The wording of all failures
is in this module.
-/
import SingleRoot.Markup.Mark

namespace SingleRoot.Markup

/-- What is wrong with a text. -/
inductive Problem where
  -- characters
  | strayCharacter
  -- collections and keys
  | missingColon
  | entryNotAllowed
  | keyNotAllowed
  | valueNotAllowed
  | missingContent
  | missingKey
  | missingDash
  | unclosedSequence
  | unclosedMapping
  -- scalars
  | unexpectedColon
  | tabInIndentation
  | tabForIndentation
  | documentIndicator
  | endOfStream
  | unknownEscape
  | missingHexDigits
  | invalidCodePoint
  | zeroIndentation
  | missingLineEnd
  -- anchors, aliases and tags
  | missingName
  | unknownAnchor
  | undefinedHandle
  | missingExclamation
  | missingAngle
  | missingUri
  | missingOctet
  | incorrectLeadingOctet
  | incorrectTrailingOctet
  | missingBlank
  | missingBlankOrBreak
  -- directives
  | missingDirectiveName
  | nonAlphabetic
  | unknownDirective
  | missingDigitOrDot
  | longVersion
  | missingVersion
  | missingDocumentStart
  | duplicateVersion
  | incompatibleVersion
  | duplicateHandle
  deriving DecidableEq, Repr

/-- The text of a problem. -/
def Problem.text : Problem → String
  | strayCharacter => "found character that cannot start any token"
  | missingColon => "could not find expected ':'"
  | entryNotAllowed => "block sequence entries are not allowed in this context"
  | keyNotAllowed => "mapping keys are not allowed in this context"
  | valueNotAllowed => "mapping values are not allowed in this context"
  | missingContent => "did not find expected node content"
  | missingKey => "did not find expected key"
  | missingDash => "did not find expected '-' indicator"
  | unclosedSequence => "did not find expected ',' or ']'"
  | unclosedMapping => "did not find expected ',' or '\x7d'"
  | unexpectedColon => "found unexpected ':'"
  | tabInIndentation => "found a tab character that violates indentation"
  | tabForIndentation => "found a tab character where an indentation space is expected"
  | documentIndicator => "found unexpected document indicator"
  | endOfStream => "found unexpected end of stream"
  | unknownEscape => "found unknown escape character"
  | missingHexDigits => "did not find expected hexadecimal number"
  | invalidCodePoint => "found invalid Unicode character escape code"
  | zeroIndentation => "found an indentation indicator equal to 0"
  | missingLineEnd => "did not find expected comment or line break"
  | missingName => "did not find expected alphabetic or numeric character"
  | unknownAnchor => "unknown anchor"
  | undefinedHandle => "found undefined tag handle"
  | missingExclamation => "did not find expected '!'"
  | missingAngle => "did not find the expected '>'"
  | missingUri => "did not find expected tag URI"
  | missingOctet => "did not find URI escaped octet"
  | incorrectLeadingOctet => "found an incorrect leading UTF-8 octet"
  | incorrectTrailingOctet => "found an incorrect trailing UTF-8 octet"
  | missingBlank => "did not find expected whitespace"
  | missingBlankOrBreak => "did not find expected whitespace or line break"
  | missingDirectiveName => "could not find expected directive name"
  | nonAlphabetic => "found unexpected non-alphabetical character"
  | unknownDirective => "found unknown directive name"
  | missingDigitOrDot => "did not find expected digit or '.' character"
  | longVersion => "found extremely long version number"
  | missingVersion => "did not find expected version number"
  | missingDocumentStart => "did not find expected <document start>"
  | duplicateVersion => "found duplicate %YAML directive"
  | incompatibleVersion => "found incompatible YAML document"
  | duplicateHandle => "found duplicate %TAG directive"

/-- The construct inside which a problem was found. -/
inductive Construct where
  | token
  | simpleKey
  | plainScalar
  | quotedScalar
  | escapeSequence
  | blockScalar
  | anchor
  | reference
  | tag
  | tagUri
  | directive
  | versionDirective
  | handleDirective
  | handleDirectiveUri
  | directiveHandle
  | directiveHandleEnd
  | node
  | blockNode
  | flowNode
  | blockSequence
  | blockMapping
  | flowSequence
  | flowMapping
  deriving DecidableEq, Repr

/-- The text of a construct. -/
def Construct.text : Construct → String
  | token => "while scanning for the next token"
  | simpleKey => "while scanning a simple key"
  | plainScalar => "while scanning a plain scalar"
  | quotedScalar => "while scanning a quoted scalar"
  | escapeSequence => "while parsing a quoted scalar"
  | blockScalar => "while scanning a block scalar"
  | anchor => "while scanning an anchor"
  | reference => "while scanning an alias"
  | tag => "while scanning a tag"
  | tagUri => "while parsing a tag"
  | directive => "while scanning a directive"
  | versionDirective => "while scanning a %YAML directive"
  | handleDirective => "while scanning a %TAG directive"
  | handleDirectiveUri => "while parsing a %TAG directive"
  | directiveHandle => "while scanning a tag directive"
  | directiveHandleEnd => "while parsing a tag directive"
  | node => "while parsing a node"
  | blockNode => "while parsing a block node"
  | flowNode => "while parsing a flow node"
  | blockSequence => "while parsing a block collection"
  | blockMapping => "while parsing a block mapping"
  | flowSequence => "while parsing a flow sequence"
  | flowMapping => "while parsing a flow mapping"

/-- Why a text is not a document. -/
inductive Failure where
  /-- The character after so many bytes may not occur in a document at all. -/
  | controlCharacter (offset : Nat)
  /-- There is a problem at a mark, possibly inside a construct that begins at a mark of its own. -/
  | found (problem : Problem) (mark : Mark) (inside : Option (Construct × Mark))
  deriving DecidableEq, Repr

namespace Failure

/-- Whether a failure lies before a place. A character that may not occur lies before none. -/
def isBefore (failure : Failure) (place : Mark) : Bool :=
  match failure with
  | controlCharacter _ => false
  | found _ mark _ => mark.isBefore place

/-- Where a construct begins, if that is another place than the problem's. -/
def constructPlace (problem construct : Mark) : String :=
  if construct = problem then "" else construct.shown

/-- The text of a failure. -/
def message : Failure → String
  | controlCharacter offset =>
    let place := if offset = 0 then "" else " at position " ++ Text.decimal offset
    "control characters are not allowed" ++ place
  | found problem mark none => problem.text ++ mark.shown
  | found problem mark (some (construct, start)) =>
    problem.text ++ mark.shown ++ ", " ++ construct.text ++ constructPlace mark start

end Failure

/-- What reads a document or a part of it: it gives a result or says why there is none. -/
abbrev Reading (α : Type) := Except Failure α

/-- Report a problem inside a construct. -/
def Reading.fail (problem : Problem) (mark : Mark) (construct : Construct) (start : Mark) :
    Reading α :=
  .error (.found problem mark (some (construct, start)))

/-- Report a problem that lies inside no construct. -/
def Reading.failAlone (problem : Problem) (mark : Mark) : Reading α :=
  .error (.found problem mark none)

end SingleRoot.Markup
