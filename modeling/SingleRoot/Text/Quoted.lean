/-
# Quoted text

How a text or a path is shown inside a message: between double quotes, with escapes for what could
not be told apart otherwise. A quote, a backslash, a tab, a line feed, a carriage return and NUL
have short escapes; every other character that is not printable is written as `\u` with its code
point in braces. A path may hold bytes that are no text, and each of these is written as `\x` and
two digits. A single quote stays as it is.
-/
import SingleRoot.Text.Utf8
import SingleRoot.Text.Printable

namespace SingleRoot.Text

/-- A character as it stands between the quotes. -/
def escapeChar (c : Char) : List Char :=
  match c with
  | '\x00' => ['\\', '0']
  | '\t' => ['\\', 't']
  | '\n' => ['\\', 'n']
  | '\r' => ['\\', 'r']
  | '"' => ['\\', '"']
  | '\\' => ['\\', '\\']
  | _ =>
    if isPrintable c then [c]
    else ['\\', 'u', '\x7b'] ++ Nat.toDigits 16 c.toNat ++ ['\x7d']

/-- A byte that belongs to no text, as it stands between the quotes. -/
def escapeByte (byte : UInt8) : List Char :=
  let digit (value : Nat) : Char := (Nat.digitChar value).toUpper
  ['\\', 'x', digit (byte.toNat / 16), digit (byte.toNat % 16)]

/-- A piece of a path as it stands between the quotes. -/
def Piece.escape : Piece → List Char
  | .char c => escapeChar c
  | .broken bytes => bytes.flatMap escapeByte

/-- A text between quotes. -/
def quote (text : String) : String :=
  String.ofList ('"' :: text.toList.flatMap escapeChar ++ ['"'])

/-- A run of bytes between quotes. -/
def quoteBytes (bytes : Bytes) : String :=
  String.ofList ('"' :: (pieces bytes).flatMap Piece.escape ++ ['"'])

end SingleRoot.Text
