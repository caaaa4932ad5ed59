/-
# Numerals

Reading and writing of whole numbers. A numeral is one or more digits of its radix and nothing
else; any number of leading zeros is allowed. A `UInt32` is written without a sign or leading
zeros and read with an optional plus sign, and a value of 2^32 or more is not one.
-/

namespace SingleRoot.Text

/-- The value of a digit, letters counting from ten in either case. -/
def digitValue? (radix : Nat) (c : Char) : Option Nat :=
  let value? :=
    if '0' ≤ c ∧ c ≤ '9' then some (c.toNat - '0'.toNat)
    else if 'a' ≤ c ∧ c ≤ 'z' then some (c.toNat - 'a'.toNat + 10)
    else if 'A' ≤ c ∧ c ≤ 'Z' then some (c.toNat - 'A'.toNat + 10)
    else none
  value?.filter (· < radix)

/-- The value of a numeral in the given radix. The empty run of digits has none. -/
def natural? (radix : Nat) : List Char → Option Nat
  | [] => none
  | digits => digits.foldlM (fun value c => (digitValue? radix c).map (value * radix + ·)) 0

/-- A count as the host writes it: an optional plus sign and a decimal numeral below 2^32. -/
def word? (characters : List Char) : Option UInt32 :=
  let digits := match characters with
    | '+' :: rest => rest
    | _ => characters
  ((natural? 10 digits).filter (· < UInt32.size)).map UInt32.ofNat

/-- The decimal numeral of a number. -/
def decimal (n : Nat) : String :=
  String.ofList (Nat.toDigits 10 n)

end SingleRoot.Text
