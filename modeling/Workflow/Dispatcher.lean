import Workflow.Operation
import Workflow.Settings
import Workflow.Text.Escape

/-!
# The dispatcher

The dispatcher shows stages to the user.  It keeps the handle of every stage it was ever given,
knows which one it shows, and counts how often it was told to show nothing.  The console also
displays lines.
-/

namespace Workflow

/-- What is shown, and everything that was. -/
structure Dispatcher where
  backend : Backend := .inMemory
  /-- Whether the dispatcher knows afterwards which stage it shows. -/
  remembers : Bool := true
  handles : List (Handle Watcher) := []
  current : Option Nat := none
  deactivations : Nat := 0

namespace Dispatcher

/-- The handle of a number. -/
def handle? (dispatcher : Dispatcher) (number : Nat) : Option (Handle Watcher) :=
  dispatcher.handles[number]?

/-- Changes the handle of a number. -/
def modifyHandle (dispatcher : Dispatcher) (number : Nat)
    (change : Handle Watcher → Handle Watcher) : Dispatcher :=
  { dispatcher with handles := dispatcher.handles.modify number change }

/-- Shows a stage under a new handle. -/
def activate (dispatcher : Dispatcher) (stage : String) (arguments : Option (List String)) :
    Dispatcher :=
  { dispatcher with
    handles := dispatcher.handles ++ [Handle.ofStage stage arguments]
    current := if dispatcher.remembers then some dispatcher.handles.length else none }

/-- Shows nothing any more. -/
def deactivate (dispatcher : Dispatcher) : Dispatcher :=
  { dispatcher with current := none, deactivations := dispatcher.deactivations + 1 }

/-- The line that a console displays for a stage. -/
def stageLine (stage : String) (arguments : Option (List String)) : String :=
  let details :=
    match arguments with
    | none | some [] => ""
    | some arguments => " " ++ ", ".intercalate arguments
  Text.withoutEscapes ("[" ++ stage ++ "]" ++ details)

/-- The line that a console displays when nothing is shown any more. -/
def clearedLine : String :=
  "(display cleared)"

end Dispatcher

end Workflow
