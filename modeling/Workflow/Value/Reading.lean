import Workflow.Value.Basic
import Workflow.Number.Numeral

/-!
# Values from text

A value that is typed in is text.  It is taken for a truth value, an integer or a double if it reads
as one, tried in this order, and stays the text it is otherwise.
-/

namespace Workflow.Value

/-- The truth value that a text names, in any case and with blank space around it. -/
def truthOf? (text : List Char) : Option Bool :=
  let word := (Text.trim text).map Char.toLower
  if word == "true".toList then some true
  else if word == "false".toList then some false
  else none

/-- The value that a text stands for. -/
def ofText (typed : String) : Value :=
  let text := typed.toList
  match truthOf? text with
  | some truth => bool truth
  | none =>
    match Numeral.readInt? text with
    | some number => int number
    | none =>
      match Numeral.readDouble? text with
      | some number => float number
      | none => .text typed

end Workflow.Value
