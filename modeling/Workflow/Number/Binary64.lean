import Workflow.Number.Power

/-!
# Double-precision numbers

A double is a sign, a significand of at most 53 bits and an exponent, or one of the infinities, or
not a number.  Nothing here computes with doubles beyond rounding a fraction to the nearest one and
comparing, so the exact integers are kept instead of the machine's words, and every comparison is
exact.
-/

namespace Workflow

/-- A double-precision number; a finite one is the significand times two to the exponent. -/
inductive Binary64 where
  | nan
  | infinite (negative : Bool)
  | finite (negative : Bool) (significand : Nat) (exponent : Int)
  deriving DecidableEq, Repr

namespace Binary64

/-- The exponent of the smallest positive double. -/
def minExponent : Int := -1074

/-- The exponent of the doubles next to the largest one. -/
def maxExponent : Int := 971

/-- The first significand that needs all 53 bits. -/
def leastNormal : Nat := twoTo 52

/-- The first significand that has too many bits. -/
def significandBound : Nat := twoTo 53

/-- Zero with a sign. -/
def signedZero (negative : Bool) : Binary64 := finite negative 0 minExponent

/-- The two integers whose quotient is `numerator / denominator` divided by two to the exponent. -/
def scaleDown (numerator denominator : Nat) (exponent : Int) : Nat × Nat :=
  (numerator * twoTo (-exponent).toNat, denominator * twoTo exponent.toNat)

/-- The quotient rounded to the nearest integer, a half to the even one. -/
def roundHalfEven (numerator denominator : Nat) : Nat :=
  let quotient := numerator / denominator
  let excess := 2 * (numerator % denominator)
  if excess < denominator ∨ (excess = denominator ∧ quotient % 2 = 0) then quotient
  else quotient + 1

/-- The exponent at which the integer part of a positive fraction has 53 bits, or the smallest
exponent if that is larger. -/
def exponentFor (numerator denominator : Nat) : Int :=
  let estimate : Int := (numerator.log2 : Int) - (denominator.log2 : Int) - 53
  let (scaled, divisor) := scaleDown numerator denominator estimate
  let exponent := if scaled / divisor < significandBound then estimate else estimate + 1
  max exponent minExponent

/-- The double nearest to a fraction, of two equally near the one with the even significand; what
lies beyond the range by half a unit or more is infinite. -/
def ofFraction (negative : Bool) (numerator denominator : Nat) : Binary64 :=
  if numerator = 0 then signedZero negative
  else
    let exponent := exponentFor numerator denominator
    let (scaled, divisor) := scaleDown numerator denominator exponent
    let significand := roundHalfEven scaled divisor
    let (significand, exponent) :=
      if significand = significandBound then (leastNormal, exponent + 1)
      else (significand, exponent)
    if maxExponent < exponent then infinite negative
    else finite negative significand exponent

/-- The double nearest to an integer; none if the integer is beyond the range. -/
def ofInt? (value : Int) : Option Binary64 :=
  match ofFraction (decide (value < 0)) value.natAbs 1 with
  | infinite _ => none
  | double => some double

/-- Both zeros, and nothing else. -/
def isZero : Binary64 → Bool
  | finite _ significand _ => decide (significand = 0)
  | _ => false

/-- A finite double in units of two to an exponent that is no larger than its own. -/
def inUnits (negative : Bool) (significand : Nat) (exponent unit : Int) : Int :=
  let magnitude : Int := significand * twoTo (exponent - unit).toNat
  if negative then -magnitude else magnitude

/-- Numerical equality: the zeros are equal, and what is not a number differs from itself too. -/
def equal : Binary64 → Binary64 → Bool
  | infinite left, infinite right => left == right
  | finite left significand exponent, finite right significand' exponent' =>
    let unit := min exponent exponent'
    inUnits left significand exponent unit == inUnits right significand' exponent' unit
  | _, _ => false

/-- Exact equality with an integer, which no infinity equals. -/
def equalInt : Binary64 → Int → Bool
  | finite negative significand exponent, value =>
    let unit := min exponent 0
    inUnits negative significand exponent unit == value * twoTo (-unit).toNat
  | _, _ => false

end Binary64

end Workflow
