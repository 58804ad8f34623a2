import Workflow.Text.Printable

/-!
# Quoted text

Error messages and the text form of nested values show a text between quotes, with escapes for what
a reader could not see or would take for the closing quote.  Byte strings are shown the same way
behind a leading `b`, with an escape for every byte outside of printable ASCII.
-/

namespace Workflow.Text

/-- The quote in general use. -/
def singleQuote : Char := '\x27'

/-- The quote for a text that holds the single one and not this one. -/
def doubleQuote : Char := '\x22'

/-- The character that starts an escape. -/
def backslash : Char := '\x5c'

/-- The quote that a text needs no escapes for, the single one if both would do. -/
def quoteFor (text : List Char) : Char :=
  if text.contains singleQuote && !text.contains doubleQuote then doubleQuote else singleQuote

/-- A number in hexadecimal, with zeros in front up to the width. -/
def hexadecimal (width : Nat) (value : Nat) : List Char :=
  let digits := Nat.toDigits 16 value
  List.replicate (width - digits.length) '0' ++ digits

/-- The escape of a code point by its number, in the shortest of three widths. -/
def numericEscape (code : Nat) : List Char :=
  if code < 0x100 then backslash :: 'x' :: hexadecimal 2 code
  else if code < 0x10000 then backslash :: 'u' :: hexadecimal 4 code
  else backslash :: 'U' :: hexadecimal 8 code

/-- What one character is written as between the given quotes, where `visible` tells the characters
that need no escape. -/
def escapeChar (visible : Char → Bool) (quote : Char) (c : Char) : List Char :=
  if c = quote ∨ c = backslash then [backslash, c]
  else if c = '\n' then [backslash, 'n']
  else if c = '\r' then [backslash, 'r']
  else if c = '\t' then [backslash, 't']
  else if visible c then [c]
  else numericEscape c.toNat

/-- A text between quotes. -/
def quoted (text : List Char) : List Char :=
  let quote := quoteFor text
  quote :: text.flatMap (escapeChar isPrintable quote) ++ [quote]

/-- A byte string between quotes. -/
def quotedBytes (bytes : List UInt8) : List Char :=
  let text := bytes.map fun byte => Char.ofNat byte.toNat
  let quote := quoteFor text
  let isPlain (c : Char) : Bool := decide (0x20 ≤ c.toNat ∧ c.toNat < 0x7F)
  'b' :: quote :: text.flatMap (escapeChar isPlain quote) ++ [quote]

/-- A text between quotes, as a string. -/
def quote (text : String) : String :=
  String.ofList (quoted text.toList)

/-- The items between brackets, with a comma and a space between each two. -/
def bracketed (opening : List Char) (items : List (List Char)) (closing : List Char) : List Char :=
  opening ++ (List.intersperse [',', ' '] items).flatten ++ closing

/-- A list of texts, each of them between quotes. -/
def quoteList (texts : List String) : String :=
  String.ofList (bracketed ['['] (texts.map fun text => quoted text.toList) [']'])

/-- A list of texts that may be absent. -/
def quoteList? : Option (List String) → String
  | some texts => quoteList texts
  | none => "None"

end Workflow.Text
