import Workflow.Number.Binary64
import Workflow.Text.Blank
import Workflow.Text.Digit

/-!
# Numerals

How integers and doubles are read from text.  Digits of every script count, a single underscore may
stand between two digits, one sign may stand in front, and blank space around the whole is skipped.
`readInt?` reads what `Int`'s decimal text writes; `readDouble?` also knows fractions, exponents and
the names of the numbers that have no digits.
-/

namespace Workflow.Numeral

/-- The most digits that an integer may have where it is read or written. -/
def maxDigits : Nat := 4300

/-- Whether a text starts with a digit. -/
def startsWithDigit : List Char → Bool
  | c :: _ => (Text.digitValue? c).isSome
  | [] => false

/-- The values of the digits at the start of a text, with the underscores between them left out,
and the text after them.  An underscore behind a digit and not in front of one spoils the text. -/
def readDigitsFrom (afterDigit : Bool) : List Char → Option (List Nat × List Char)
  | [] => some ([], [])
  | c :: rest =>
    match Text.digitValue? c with
    | some value => (readDigitsFrom true rest).map fun (digits, left) => (value :: digits, left)
    | none =>
      if c = '_' ∧ afterDigit then
        if startsWithDigit rest then readDigitsFrom false rest else none
      else some ([], c :: rest)

/-- The digits at the start of a text and the text after them. -/
def readDigits (text : List Char) : Option (List Nat × List Char) :=
  readDigitsFrom false text

/-- The number that a list of decimal digits denotes. -/
def ofDigits (digits : List Nat) : Nat :=
  digits.foldl (fun value digit => 10 * value + digit) 0

/-- A sign in front of the rest of a text; no sign is a plus. -/
def readSign : List Char → Bool × List Char
  | '+' :: rest => (false, rest)
  | '-' :: rest => (true, rest)
  | text => (false, text)

/-- Reads a whole text as an integer. -/
def readInt? (text : List Char) : Option Int :=
  let (negative, body) := readSign (Text.trimBy Text.isNumberBlank text)
  match readDigits body with
  | some (digits, []) =>
    if digits.isEmpty ∨ maxDigits < digits.length then none
    else
      let magnitude : Int := ofDigits digits
      some (if negative then -magnitude else magnitude)
  | _ => none

/-- An exponent at the end of a numeral; no exponent is zero. -/
def readExponent? : List Char → Option Int
  | [] => some 0
  | mark :: rest =>
    if mark = 'e' ∨ mark = 'E' then
      let (negative, body) := readSign rest
      match readDigits body with
      | some (digits, []) =>
        if digits.isEmpty then none
        else
          let magnitude : Int := ofDigits digits
          some (if negative then -magnitude else magnitude)
      | _ => none
    else none

/-- The double nearest to a decimal.  A decimal whose first digit lies far beyond the range needs no
computation. -/
def nearest (negative : Bool) (digits : List Nat) (exponent : Int) : Binary64 :=
  let digits := digits.dropWhile (· = 0)
  let leading := exponent + digits.length
  if digits.isEmpty then Binary64.signedZero negative
  else if 400 < leading then .infinite negative
  else if leading < -400 then Binary64.signedZero negative
  else
    Binary64.ofFraction negative (ofDigits digits * tenTo exponent.toNat) (tenTo (-exponent).toNat)

/-- The digits after the point of a numeral, and the text after them. -/
def readFraction? : List Char → Option (List Nat × List Char)
  | '.' :: rest => readDigits rest
  | text => some ([], text)

/-- Reads a numeral without a sign: digits with a point somewhere and an exponent behind. -/
def readDecimal? (negative : Bool) (text : List Char) : Option Binary64 := do
  let (whole, afterWhole) ← readDigits text
  let (fraction, afterFraction) ← readFraction? afterWhole
  let exponent ← readExponent? afterFraction
  if whole.isEmpty && fraction.isEmpty then none
  else some (nearest negative (whole ++ fraction) (exponent - fraction.length))

/-- Whether a text is a word of the Latin alphabet, in any case. -/
def isWord (word : String) (text : List Char) : Bool :=
  text.map Char.toLower == word.toList

/-- Reads a whole text as a double. -/
def readDouble? (text : List Char) : Option Binary64 :=
  let (negative, body) := readSign (Text.trimBy Text.isNumberBlank text)
  if isWord "inf" body || isWord "infinity" body then some (.infinite negative)
  else if isWord "nan" body then some .nan
  else readDecimal? negative body

/-- The decimal text of an integer. -/
def ofInt (value : Int) : List Char :=
  let digits := Nat.toDigits 10 value.natAbs
  if value < 0 then '-' :: digits else digits

/-- Whether an integer has no more digits than may be written; its sign does not count. -/
def isWritable (value : Int) : Bool :=
  decide ((Nat.toDigits 10 value.natAbs).length ≤ maxDigits)

end Workflow.Numeral
