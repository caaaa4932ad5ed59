/-
# Binary numbers of double precision

A number of this format is a significand of at most 53 bits times a power of two. This module reads
decimal numerals into the format. A numeral is a fraction of two natural numbers, and it becomes
the nearest number of the format; of two that are equally near, the one with the even significand.
All of this is exact arithmetic on natural numbers.
-/

namespace SingleRoot.Decimal

/-- A number of double precision. The value of a finite one is its significand times two to the
power of its exponent. -/
inductive Binary64 where
  | finite (negative : Bool) (significand : Nat) (exponent : Int)
  | infinite (negative : Bool)
  | notANumber
  deriving DecidableEq, Repr

namespace Binary64

/-- The number of bits of a significand. -/
def precision : Nat := 53

/-- The least exponent. -/
def leastExponent : Int := -1074

/-- The greatest exponent. -/
def greatestExponent : Int := 971

end Binary64

/-- A fraction of natural numbers. The denominator is not zero where a fraction is made. -/
structure Fraction where
  numerator : Nat
  denominator : Nat
  deriving DecidableEq, Repr

namespace Fraction

/-- Multiply by a power of a base, whose exponent may be negative. -/
def scale (fraction : Fraction) (base : Nat) (exponent : Int) : Fraction :=
  if 0 ≤ exponent then ⟨fraction.numerator * Nat.pow base exponent.toNat, fraction.denominator⟩
  else ⟨fraction.numerator, fraction.denominator * Nat.pow base (-exponent).toNat⟩

/-- Whether a fraction is at most another. -/
def le (first second : Fraction) : Bool :=
  first.numerator * second.denominator ≤ second.numerator * first.denominator

/-- Whether a fraction is less than another. -/
def lt (first second : Fraction) : Bool :=
  first.numerator * second.denominator < second.numerator * first.denominator

/-- The whole part of a fraction. -/
def floor (fraction : Fraction) : Nat := fraction.numerator / fraction.denominator

/-- The nearest natural number, and of two the even one. -/
def nearest (fraction : Fraction) : Nat :=
  let whole := fraction.floor
  let rest := 2 * (fraction.numerator % fraction.denominator)
  if rest < fraction.denominator then whole
  else if fraction.denominator < rest then whole + 1
  else whole + whole % 2

/-- The exponent of the greatest power of a base that is not above a fraction. `estimate` is that
exponent or one more. -/
def exponentFrom (fraction : Fraction) (base : Nat) (estimate : Int) : Int :=
  if (Fraction.scale ⟨1, 1⟩ base estimate).le fraction then estimate else estimate - 1

/-- The exponent of the greatest power of two that is not above a fraction. -/
def binaryExponent (fraction : Fraction) : Int :=
  fraction.exponentFrom 2 (fraction.numerator.log2 - fraction.denominator.log2 : Int)

end Fraction

namespace Binary64

/-- The number of double precision that is nearest to a fraction. -/
def ofFraction (negative : Bool) (fraction : Fraction) : Binary64 :=
  if fraction.numerator = 0 then finite negative 0 leastExponent
  else
    let exponent := max leastExponent (fraction.binaryExponent - (precision - 1))
    let significand := (fraction.scale 2 (-exponent)).nearest
    let (significand, exponent) :=
      if significand = Nat.pow 2 precision then (Nat.pow 2 (precision - 1), exponent + 1)
      else (significand, exponent)
    if greatestExponent < exponent then infinite negative
    else finite negative significand exponent

/-- The number of double precision that is nearest to some digits times a power of ten. Numbers
that are far out of range are not computed. -/
def ofDecimal (negative : Bool) (digits : Nat) (exponent : Int) : Binary64 :=
  let magnitude := exponent + (Nat.toDigits 10 digits).length
  if digits = 0 ∨ magnitude < -400 then finite negative 0 leastExponent
  else if 400 < magnitude then infinite negative
  else ofFraction negative (Fraction.scale ⟨digits, 1⟩ 10 exponent)

/-- Whether a number is finite. -/
def isFinite : Binary64 → Bool
  | finite _ _ _ => true
  | _ => false

end Binary64

end SingleRoot.Decimal
