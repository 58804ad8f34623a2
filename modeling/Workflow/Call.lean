import Workflow.Text.Blank
import Workflow.Text.Split

/-!
# Call shape

Stages and invocations share one shape: a name, and behind it perhaps a body in parentheses.  There
is no escaping, so a text has a body only if it ends in a closing parenthesis, and the body starts
at the first opening one.
-/

namespace Workflow.Text

/-- The text without its last character, if that is the given one. -/
def dropLast? (last : Char) (text : List Char) : Option (List Char) :=
  if text.getLast? = some last then some text.dropLast else none

/-- The trimmed name and the body of a text of the shape `name(body)`. -/
def call? (text : List Char) : Option (List Char × List Char) := do
  let opened ← dropLast? ')' text
  let (name, body) ← cut '(' opened
  return (trim name, body)

end Workflow.Text
