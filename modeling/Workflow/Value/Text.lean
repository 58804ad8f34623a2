import Workflow.Value.Basic
import Workflow.Number.Numeral
import Workflow.Number.Shortest
import Workflow.Text.Quoted

/-!
# The text of a value

A stage is shown accumulated values as text: a text as it is, everything else in the form in which
it would be written down, which is also how a text looks inside of a list or dictionary.  Integers
with very many digits are not written, so a value that is one or holds one has no text.
-/

namespace Workflow.Value

/-- The items of a tuple between parentheses; a comma marks a tuple of one item. -/
def tupleText : List (List Char) → List Char
  | [item] => '(' :: item ++ [',', ')']
  | items => Text.bracketed ['('] items [')']

mutual

/-- A value as it is written down. -/
def written : Value → List Char
  | null => "None".toList
  | bool true => "True".toList
  | bool false => "False".toList
  | int number => Numeral.ofInt number
  | float number => number.text
  | text string => Text.quoted string.toList
  | list items => Text.bracketed ['['] (writtenItems items) [']']
  | dict entries => Text.bracketed ['\x7b'] (writtenEntries entries) ['\x7d']
  | tuple items => tupleText (writtenItems items)
  | bytes octets => Text.quotedBytes octets

/-- Each item as it is written down. -/
def writtenItems : List Value → List (List Char)
  | [] => []
  | item :: items => written item :: writtenItems items

/-- Each entry as it is written down, the key before its value. -/
def writtenEntries : List (Value × Value) → List (List Char)
  | [] => []
  | (key, value) :: rest => (written key ++ ':' :: ' ' :: written value) :: writtenEntries rest

end

mutual

/-- Whether no integer in a value has more digits than may be written. -/
def isWritable : Value → Bool
  | int number => Numeral.isWritable number
  | list items => areWritable items
  | dict entries => entriesWritable entries
  | tuple items => areWritable items
  | _ => true

/-- Whether all of some values can be written down. -/
def areWritable : List Value → Bool
  | [] => true
  | item :: items => isWritable item && areWritable items

/-- Whether the keys and the values of all entries can be written down. -/
def entriesWritable : List (Value × Value) → Bool
  | [] => true
  | (key, value) :: rest => isWritable key && isWritable value && entriesWritable rest

end

/-- A value as it is written down, as a string, however many digits that takes. -/
def write (value : Value) : String :=
  String.ofList value.written

/-- A value as it is shown, however many digits that takes: a text as it is, and everything else as
it is written down. -/
def toText : Value → String
  | text string => string
  | value => value.write

/-- The text of a value, if it can be written down. -/
def toText? (value : Value) : Option String :=
  if value.isWritable then some value.toText else none

end Workflow.Value
