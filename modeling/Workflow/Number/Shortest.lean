import Workflow.Number.Binary64

/-!
# Shortest decimals

The text of a double has the fewest decimal digits that still read back as the same double, and of
those the nearest to its value.  The numbers that read back as a double form an interval around it,
which holds its two ends if the significand is even.  If some decimal with a given number of digits
lies in the interval, so does one of the two such decimals next to the double itself, hence only
those two are tried.
-/

namespace Workflow

namespace Binary64

/-- A positive decimal: an integer times ten to the exponent. -/
structure Decimal where
  digits : Nat
  exponent : Int
  deriving DecidableEq, Repr

/-- The interval around a double in units of `1 / scale`: the double, the two ends, and whether the
ends belong to it. -/
structure Neighbourhood where
  scale : Nat
  value : Nat
  low : Nat
  high : Nat
  closed : Bool

/-- The numbers that read back as the positive double.  Below a power of two the doubles lie twice
as dense, so the lower end is nearer there. -/
def neighbourhood (significand : Nat) (exponent : Int) : Neighbourhood :=
  let unit := twoTo exponent.toNat
  let below := if significand = leastNormal ∧ minExponent < exponent then 1 else 2
  { scale := 4 * twoTo (-exponent).toNat
    value := 4 * significand * unit
    low := (4 * significand - below) * unit
    high := (4 * significand + 2) * unit
    closed := significand % 2 = 0 }

/-- The number of decimal digits of an integer. -/
def digitCount (value : Nat) : Nat :=
  (Nat.toDigits 10 value).length

/-- The exponent of the first decimal digit of a positive fraction. -/
def leadingExponent (numerator denominator : Nat) : Int :=
  if denominator ≤ numerator then (digitCount (numerator / denominator) : Int) - 1
  else -(digitCount ((denominator - 1) / numerator) : Int)

/-- The decimal of the grid `10 ^ exponent` nearest to the double among the two next to it, if it
reads back as the double. -/
def Neighbourhood.onGrid? (near : Neighbourhood) (exponent : Int) : Option Decimal :=
  let up := tenTo (-exponent).toNat
  let step := near.scale * tenTo exponent.toNat
  let value := near.value * up
  let reads (digits : Nat) : Bool :=
    let point := digits * step
    if near.closed then decide (near.low * up ≤ point ∧ point ≤ near.high * up)
    else decide (near.low * up < point ∧ point < near.high * up)
  let floor := value / step
  let nearest := roundHalfEven value step
  let farther := if nearest = floor then floor + 1 else floor
  if reads nearest then some ⟨nearest, exponent⟩
  else if reads farther then some ⟨farther, exponent⟩
  else none

/-- The shortest decimal that reads back as the positive double.  Seventeen digits always do. -/
def shortest (significand : Nat) (exponent : Int) : Decimal :=
  let near := neighbourhood significand exponent
  let leading := leadingExponent near.value near.scale
  let found := (List.range 17).findSome? fun (extra : Nat) => near.onGrid? (leading - extra)
  found.getD ⟨significand, exponent⟩

/-- How the text of a double is laid out. -/
structure Layout where
  /-- The lowest exponent of the first digit that is written in positional notation. -/
  positionalFrom : Int
  /-- The first exponent above it that is not. -/
  positionalTo : Int
  /-- The least number of digits of a written exponent. -/
  exponentDigits : Nat
  /-- Whether an integer in positional notation ends in `.0`. -/
  pointZero : Bool
  nanText : String
  infinityText : String

/-- Exponents from -4 to 15 are written positionally, integers keep a zero after the point, and a
written exponent has a sign and two digits at least. -/
def layout : Layout :=
  { positionalFrom := -4
    positionalTo := 16
    exponentDigits := 2
    pointZero := true
    nanText := "nan"
    infinityText := "inf" }

/-- The digits of a decimal without the zeros at its end. -/
def significantDigits (digits : Nat) : List Char :=
  match ((Nat.toDigits 10 digits).reverse.dropWhile (· = '0')).reverse with
  | [] => ['0']
  | kept => kept

/-- A written exponent. -/
def exponentText (form : Layout) (exponent : Int) : List Char :=
  let digits := Nat.toDigits 10 exponent.natAbs
  let sign := if exponent < 0 then '-' else '+'
  'e' :: sign :: (List.replicate (form.exponentDigits - digits.length) '0' ++ digits)

/-- The text of a positive decimal, given as digits and the exponent of the first of them. -/
def decimalText (form : Layout) (digits : List Char) (leading : Int) : List Char :=
  if form.positionalFrom ≤ leading ∧ leading < form.positionalTo then
    if leading < 0 then
      '0' :: '.' :: (List.replicate (-leading - 1).toNat '0' ++ digits)
    else
      let count := leading.toNat + 1
      let whole := digits.take count ++ List.replicate (count - digits.length) '0'
      match digits.drop count with
      | [] => whole ++ (if form.pointZero then ['.', '0'] else [])
      | fraction => whole ++ '.' :: fraction
  else
    match digits with
    | first :: second :: rest => first :: '.' :: second :: rest ++ exponentText form leading
    | _ => digits ++ exponentText form leading

/-- The text of a double in a layout. -/
def textIn (form : Layout) : Binary64 → List Char
  | nan => form.nanText.toList
  | infinite negative => (if negative then ['-'] else []) ++ form.infinityText.toList
  | finite negative significand exponent =>
    let sign := if negative then ['-'] else []
    if significand = 0 then sign ++ decimalText form ['0'] 0
    else
      let decimal := shortest significand exponent
      let leading := decimal.exponent + (digitCount decimal.digits : Int) - 1
      sign ++ decimalText form (significantDigits decimal.digits) leading

/-- The text of a double: the fewest digits that read back as it. -/
def text (double : Binary64) : List Char :=
  textIn layout double

end Binary64

end Workflow
