/-
# The shortest decimal form

A number of double precision is shown with as few digits as suffice to tell it from all others: the
digits are those of a decimal number that is nearer to it than to any other number of the format.
Of the decimal numbers with that few digits the nearest is taken, and of two that are equally near
the greater. The form is positional however long that makes it, and it always has a point.
-/
import SingleRoot.Decimal.Binary64
import SingleRoot.Text.Numeral

namespace SingleRoot.Decimal

/-- The decimal numbers that are read as one number of double precision lie between two bounds. The
bounds themselves belong to it if its significand is even. -/
structure Interval where
  lower : Fraction
  value : Fraction
  upper : Fraction
  closed : Bool
  deriving Repr

namespace Interval

/-- The interval of a significand that is not zero and an exponent. Below a power of two the
numbers of the format lie closer together than above it. -/
def ofFinite (significand : Nat) (exponent : Int) : Interval :=
  let atPower :=
    significand = Nat.pow 2 (Binary64.precision - 1) ∧ Binary64.leastExponent < exponent
  let quarters (n : Nat) : Fraction := Fraction.scale ⟨n, 1⟩ 2 (exponent - 2)
  ⟨quarters (4 * significand - if atPower then 1 else 2), quarters (4 * significand),
    quarters (4 * significand + 2), significand % 2 = 0⟩

/-- Whether a fraction lies in an interval. -/
def contains (interval : Interval) (fraction : Fraction) : Bool :=
  if interval.closed then interval.lower.le fraction && fraction.le interval.upper
  else interval.lower.lt fraction && fraction.lt interval.upper

/-- The multiple of a power of ten that lies in an interval and is nearest to its value, if there
is one. Only the two multiples next to the value can be. -/
def multiple? (interval : Interval) (exponent : Int) : Option Nat :=
  let scaled := interval.value.scale 10 (-exponent)
  let below := scaled.floor
  let isIn (n : Nat) : Bool := interval.contains (Fraction.scale ⟨n, 1⟩ 10 exponent)
  let nearerAbove := scaled.denominator ≤ 2 * (scaled.numerator % scaled.denominator)
  match isIn below, isIn (below + 1) with
  | true, true => some (if nearerAbove then below + 1 else below)
  | true, false => some below
  | false, true => some (below + 1)
  | false, false => none

/-- The digits and the exponent of the first power of ten, from a given one downwards, that has a
multiple in an interval. -/
def searchFrom (interval : Interval) : Nat → Int → Nat × Int
  | 0, exponent => ((interval.value.scale 10 (-exponent)).floor, exponent)
  | rounds + 1, exponent =>
    match interval.multiple? exponent with
    | some digits => (digits, exponent)
    | none => searchFrom interval rounds (exponent - 1)

/-- The exponent of the greatest power of ten that is not above the value of an interval. -/
def decimalExponent (interval : Interval) : Int :=
  let size (n : Nat) : Int := (Nat.toDigits 10 n).length
  interval.value.exponentFrom 10
    (size interval.value.numerator - size interval.value.denominator)

/-- The shortest decimal number of an interval, as digits times a power of ten. No number of double
precision needs more than 17 digits. -/
def shortest (interval : Interval) : Nat × Int :=
  interval.searchFrom 17 interval.decimalExponent

end Interval

/-- Some digits times a power of ten, in positional form with at least one place after the
point. -/
def positional (digits : Nat) (exponent : Int) : String :=
  let places := (-exponent).toNat
  let unit := Nat.pow 10 places
  let units := digits * Nat.pow 10 exponent.toNat
  let rest := Nat.toDigits 10 (units % unit + unit)
  let fraction := (rest.drop 1).reverse.dropWhile (· == '0') |>.reverse
  Text.decimal (units / unit) ++ "." ++ if fraction.isEmpty then "0" else String.ofList fraction

namespace Binary64

/-- The text of a number. -/
def text : Binary64 → String
  | notANumber => "NaN"
  | infinite negative => if negative then "-inf" else "inf"
  | finite negative significand exponent =>
    let (digits, power) :=
      if significand = 0 then (0, 0) else (Interval.ofFinite significand exponent).shortest
    (if negative then "-" else "") ++ positional digits power

end Binary64

end SingleRoot.Decimal
