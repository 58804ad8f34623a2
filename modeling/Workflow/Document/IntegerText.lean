import Workflow.Number.Numeral
import Workflow.Text.Split

/-!
# Integers written as text in documents

A document may give an integer as text.  Blank space around it, one sign, zeros behind a point,
zeros in front and single underscores are taken away one after the other; what is left has to be a
plain decimal numeral.  Underscores may also stand in any number among the zeros in front, and a
minus behind those zeros counts as well, unless a minus was taken already.
-/

namespace Workflow.IntegerText

/-- Why a text is no integer. -/
inductive Fault where
  | unreadable
  | tooLong
  deriving DecidableEq, Repr

/-- Whether a text has a minus in front, and the text behind its sign.  A plus cannot be followed by
a minus. -/
def takeSign? : List Char → Option (Bool × List Char)
  | '+' :: '-' :: _ => none
  | text => some (Numeral.readSign text)

/-- Takes away a point with nothing but zeros behind it; there has to be one at least. -/
def dropFraction (text : List Char) : List Char :=
  match Text.cut '.' text with
  | some (whole, fraction) =>
    if !fraction.isEmpty && fraction.all (· == '0') then whole else text
  | none => text

/-- A character at which a number can start once its zeros are gone. -/
def isLeading (c : Char) : Bool :=
  c == '-' || (c.isDigit && c != '0')

/-- Takes away zeros and underscores behind a given character, as far as a number starts after them.
Where none does, the last character is left. -/
def dropZerosAfter (last : Char) : List Char → Option (List Char)
  | [] => some [last]
  | c :: rest =>
    if c == '0' || c == '_' then dropZerosAfter c rest
    else if isLeading c then some (c :: rest)
    else none

/-- Takes away the zeros in front of a number. -/
def dropZeros? : List Char → Option (List Char)
  | [] => none
  | c :: rest =>
    if c == '0' then dropZerosAfter c rest
    else if isLeading c then some (c :: rest)
    else none

/-- Whether every underscore stands alone between two other characters. -/
def isGrouped (text : List Char) : Bool :=
  (Text.splitAt '_' text).all fun group => !group.isEmpty

/-- Takes away the underscores that stand between characters. -/
def dropUnderscores (text : List Char) : List Char :=
  if isGrouped text then text.filter (· != '_') else text

/-- A plain decimal numeral with at most so many digits.  It has no needless zero in front. -/
def readMagnitude (limit : Nat) (text : List Char) : Except Fault Nat :=
  if text = ['0'] then .ok 0
  else
    match text with
    | [] => .error .unreadable
    | c :: _ =>
      if !c.isDigit || c == '0' then .error .unreadable
      else if limit < (text.takeWhile Char.isDigit).length then .error .tooLong
      else if text.all Char.isDigit then
        .ok (Numeral.ofDigits (text.map fun digit => digit.toNat - '0'.toNat))
      else .error .unreadable

/-- A plain decimal numeral with an optional minus, which counts as one of its digits. -/
def readPlain : List Char → Except Fault Int
  | '-' :: text =>
    (readMagnitude (Numeral.maxDigits - 1) text).map fun magnitude => -(magnitude : Int)
  | text => (readMagnitude Numeral.maxDigits text).map fun magnitude => (magnitude : Int)

/-- The plain numeral that a text amounts to, if its parts are where they may be. -/
def plain? (text : List Char) : Option (List Char) := do
  let (negative, body) ← takeSign? (Text.trimBy Text.isNumberBlank text)
  let number ← dropZeros? (dropFraction body)
  let digits := dropUnderscores number
  return if negative then '-' :: digits else digits

/-- Reads a whole text as an integer. -/
def read (text : List Char) : Except Fault Int :=
  match plain? text with
  | some plain => readPlain plain
  | none => .error .unreadable

end Workflow.IntegerText
