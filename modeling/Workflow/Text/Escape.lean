/-!
# Display escapes

Text for a terminal may carry escape sequences that set colours and weights: an escape character, an
opening bracket, parameters and a letter.  Where the output is no terminal they are left out.
-/

namespace Workflow.Text

/-- A letter that ends an escape sequence. -/
def isEscapeEnd (c : Char) : Bool :=
  c.isAlpha

/-- A character that may stand between the bracket and the letter of an escape sequence. -/
def isEscapeParameter (c : Char) : Bool :=
  c.isDigit || c == ';' || c == '?'

/-- The length of the escape sequence that a text starts with. -/
def escapeLength? : List Char → Option Nat
  | '\x1b' :: '[' :: rest =>
    match rest.dropWhile isEscapeParameter with
    | c :: _ => if isEscapeEnd c then some ((rest.takeWhile isEscapeParameter).length + 3) else none
    | [] => none
  | _ => none

/-- Leaves out a number of characters and all escape sequences behind them. -/
def withoutEscapesAfter : Nat → List Char → List Char
  | _, [] => []
  | skipped + 1, _ :: rest => withoutEscapesAfter skipped rest
  | 0, c :: rest =>
    match escapeLength? (c :: rest) with
    | some length => withoutEscapesAfter (length - 1) rest
    | none => c :: withoutEscapesAfter 0 rest

/-- A text without its escape sequences. -/
def withoutEscapes (text : String) : String :=
  String.ofList (withoutEscapesAfter 0 text.toList)

end Workflow.Text
