import Workflow.Text.CodeRange

/-!
# Blank characters and trimming

Names, tokens, keys and values are written with any amount of blank space around them, which
trimming takes away.  Text is handled as a list of characters here, because the laws of reading and
writing are laws about lists.
-/

namespace Workflow.Text

/-- The blank characters: the separators of Unicode and the controls that stand for space. -/
def blankRanges : List CodeRange :=
  [(0x09, 0x0D), (0x1C, 0x20), (0x85, 0x85), (0xA0, 0xA0), (0x1680, 0x1680), (0x2000, 0x200A),
   (0x2028, 0x2029), (0x202F, 0x202F), (0x205F, 0x205F), (0x3000, 0x3000)]

/-- A blank character is one that trimming removes at either end of a text. -/
def isBlank (c : Char) : Bool :=
  CodeRange.covers blankRanges c

/-- Blank space around a number; the four information separators are no part of it. -/
def isNumberBlank (c : Char) : Bool :=
  isBlank c && !decide (0x1C ≤ c.toNat ∧ c.toNat ≤ 0x1F)

/-- The text without the characters of a class at its start. -/
def dropStart (skip : Char → Bool) (text : List Char) : List Char :=
  text.dropWhile skip

/-- The text without the characters of a class at its end. -/
def dropEnd (skip : Char → Bool) (text : List Char) : List Char :=
  (text.reverse.dropWhile skip).reverse

/-- The text without the characters of a class at either end. -/
def trimBy (skip : Char → Bool) (text : List Char) : List Char :=
  dropEnd skip (dropStart skip text)

/-- The text without the blank space at either end. -/
def trim (text : List Char) : List Char :=
  trimBy isBlank text

/-- A text of nothing but blank space, the empty text included. -/
def isBlankText (text : List Char) : Bool :=
  text.all isBlank

/-- A text that is there and not empty. -/
def given? (text : Option String) : Option String :=
  text.filter (· != "")

end Workflow.Text
