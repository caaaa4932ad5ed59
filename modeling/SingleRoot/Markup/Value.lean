/-
# What scalars mean

A plain scalar means nothing, a truth value, a number or its own text. This module reads scalars by
these rules and says how a report describes what it found.

Integers are decimal, or hexadecimal, octal or binary with a marker. Digits after a leading zero
make no number. What is too large for an integer of 128 bits may still be a fraction.
-/
import SingleRoot.Decimal.Shortest
import SingleRoot.Text.Quoted

namespace SingleRoot.Markup

/-- What a scalar means. -/
inductive Value where
  | null
  | boolean (value : Bool)
  | integer (value : Int)
  | fraction (value : Decimal.Binary64)
  | string (text : String)
  deriving DecidableEq, Repr

namespace Value

/-- Whether a text is one of the spellings of nothing. -/
def isNull (text : String) : Bool :=
  ["null", "Null", "NULL", "~"].contains text

/-- Read a truth value. -/
def boolean? (text : String) : Option Bool :=
  if ["true", "True", "TRUE"].contains text then some true
  else if ["false", "False", "FALSE"].contains text then some false
  else none

/-- What is left of some characters after one of the two signs, if one of them is there. -/
def withoutSign : List Char → List Char
  | '+' :: rest | '-' :: rest => rest
  | characters => characters

/-- What is left of some characters after a plus sign, if it is there. -/
def withoutPlus : List Char → List Char
  | '+' :: rest => rest
  | characters => characters

/-- Whether some characters are digits that make no number because of a leading zero. -/
def isPaddedDigits (characters : List Char) : Bool :=
  match withoutSign characters with
  | '0' :: rest => !rest.isEmpty && rest.all Char.isDigit
  | _ => false

/-- Read a numeral with the marker of its radix. -/
def marked? : List Char → Option Nat
  | '0' :: 'x' :: digits => Text.natural? 16 digits
  | '0' :: 'o' :: digits => Text.natural? 8 digits
  | '0' :: 'b' :: digits => Text.natural? 2 digits
  | _ => none

/-- Read a natural number in any notation. -/
def magnitude? (characters : List Char) : Option Nat :=
  (marked? characters).or
    (if isPaddedDigits characters then none else Text.natural? 10 characters)

/-- Read an integer of at most 128 bits. -/
def integer? (characters : List Char) : Option Int :=
  match characters with
  | '-' :: rest => ((magnitude? rest).filter (· ≤ Nat.pow 2 127)).map fun n => -(n : Int)
  | _ => ((magnitude? (withoutPlus characters)).filter (· < Nat.pow 2 128)).map Int.ofNat

/-- Read the exponent of a numeral, which may be left out. -/
def exponent? : List Char → Option Int
  | [] => some 0
  | c :: rest =>
    if c == 'e' || c == 'E' then
      match rest with
      | '-' :: digits => (Text.natural? 10 digits).map fun n => -(n : Int)
      | _ => (Text.natural? 10 (withoutPlus rest)).map Int.ofNat
    else none

/-- Read a decimal numeral with an optional point and an optional exponent. -/
def decimal? (characters : List Char) : Option Decimal.Binary64 := do
  let negative := characters.head? == some '-'
  let unsigned := withoutSign characters
  let whole := unsigned.takeWhile Char.isDigit
  let rest := unsigned.dropWhile Char.isDigit
  let (places, rest) := match rest with
    | '.' :: rest => (rest.takeWhile Char.isDigit, rest.dropWhile Char.isDigit)
    | _ => ([], rest)
  let digits ← Text.natural? 10 (whole ++ places)
  let exponent ← exponent? rest
  return .ofDecimal negative digits (exponent - places.length)

/-- Read a number that is no integer. Infinity and what is no number have spellings of their own,
and a numeral that is out of range is not a number. -/
def fraction? (text : String) : Option Decimal.Binary64 :=
  let infinity := [".inf", ".Inf", ".INF"]
  if infinity.contains text || (infinity.map ("+" ++ ·)).contains text then some (.infinite false)
  else if (infinity.map ("-" ++ ·)).contains text then some (.infinite true)
  else if [".nan", ".NaN", ".NAN"].contains text then some .notANumber
  else match text.toList with
    | '+' :: '+' :: _ | '+' :: '-' :: _ => none
    | characters => (decimal? characters).filter (·.isFinite)

/-- What a plain scalar means. -/
def ofPlain (text : String) : Value :=
  if text.isEmpty || isNull text then null
  else match boolean? text, integer? text.toList with
    | some value, _ => boolean value
    | none, some value => integer value
    | none, none =>
      if isPaddedDigits text.toList then string text
      else match fraction? text with
        | some value => fraction value
        | none => string text

/-- How a report names an integer. Those beyond 64 bits are named together with their size. -/
def describeInteger (value : Int) : String :=
  let (shown, size) := match value with
    | .ofNat n => (Text.decimal n, if Nat.pow 2 64 ≤ n then " as u128" else "")
    | .negSucc n => ("-" ++ Text.decimal (n + 1), if Nat.pow 2 63 ≤ n then " as i128" else "")
  "integer \x60" ++ shown ++ "\x60" ++ size

/-- How a report names a value. -/
def describe : Value → String
  | null => "unit value"
  | boolean value => "boolean \x60" ++ (if value then "true" else "false") ++ "\x60"
  | integer value => describeInteger value
  | fraction value => "floating point \x60" ++ value.text ++ "\x60"
  | string text => "string " ++ Text.quote text

end Value

end SingleRoot.Markup
