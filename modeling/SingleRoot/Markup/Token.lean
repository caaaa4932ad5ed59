/-
# Tokens

The smallest parts of a document that mean something. Some stand for characters of the text. Others
stand for a change of indentation, or for the insight that what was read before a colon is a key;
they take up no space of their own.

A text need not be a document to the end. Its tokens are those up to the place where something is
wrong, and what comes after them says whether it is the end of the text or a failure.
-/
import SingleRoot.Markup.Directive

namespace SingleRoot.Markup

/-- A part of a document that means something. -/
inductive Token where
  | streamEnd
  | directive (directive : Directive)
  | documentStart
  | documentEnd
  | blockSequenceStart
  | blockMappingStart
  | blockEnd
  | flowSequenceStart
  | flowSequenceEnd
  | flowMappingStart
  | flowMappingEnd
  | blockEntry
  | flowEntry
  | key
  | value
  | reference (name : List Char)
  | anchor (name : List Char)
  | tag (shorthand : Tag.Shorthand)
  | scalar (text : String) (isPlain : Bool)
  deriving DecidableEq, Repr

/-- A token, the place where it begins and the place where the text after it begins. -/
structure PlacedToken where
  token : Token
  start : Mark
  stop : Mark
  deriving DecidableEq, Repr

/-- The tokens of a text. -/
inductive Tokens where
  /-- The end of the text. -/
  | finished (mark : Mark)
  /-- The place where something is wrong. -/
  | broken (failure : Failure)
  | token (first : PlacedToken) (rest : Tokens)
  deriving DecidableEq, Repr

namespace Tokens

/-- The next token. -/
def head : Tokens → Reading PlacedToken
  | finished mark => .ok ⟨.streamEnd, mark, mark⟩
  | broken failure => .error failure
  | token first _ => .ok first

/-- What comes after the next token. -/
def tail : Tokens → Tokens
  | token _ rest => rest
  | ending => ending

/-- The number of tokens before the end. -/
def length : Tokens → Nat
  | token _ rest => rest.length + 1
  | _ => 0

/-- Put tokens before others. They are given in reverse order, as a stack keeps them. -/
def after (tokens : Tokens) : List PlacedToken → Tokens
  | [] => tokens
  | last :: before => (Tokens.token last tokens).after before

end Tokens

/-- Tokens that are still being read, the last one first, with their number. -/
structure TokenStack where
  tokens : List PlacedToken
  count : Nat
  counted : tokens.length = count
  deriving Repr

namespace TokenStack

/-- No tokens. -/
def empty : TokenStack := ⟨[], 0, rfl⟩

/-- Add a token at the end. -/
def push (stack : TokenStack) (token : PlacedToken) : TokenStack :=
  ⟨token :: stack.tokens, stack.count + 1, by simp [stack.counted]⟩

/-- Add a token before the token of the given number. -/
def insert (stack : TokenStack) (number : Nat) (token : PlacedToken) : TokenStack :=
  let later := stack.count - number
  ⟨stack.tokens.take later ++ token :: stack.tokens.drop later, stack.count + 1, by
    rw [List.length_append, List.length_cons, List.length_take, List.length_drop, stack.counted]
    omega⟩

/-- The first tokens, as many as the given number, and then an ending. -/
def toTokens (stack : TokenStack) (number : Nat) (ending : Tokens) : Tokens :=
  ending.after (stack.tokens.drop (stack.count - number))

end TokenStack

end SingleRoot.Markup
