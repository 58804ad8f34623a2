import Workflow.Engine.Behaviour

/-!
# The signup example

A signup form that redirects into an address workflow, played from start to end.  The form is
rejected once, and the user chooses to go on.
-/

namespace Workflow.Signup

/-- The acceptor of the signup, which announces the values. -/
def announce (occasion : Occasion) : Behaviour :=
  let values := (occasion.arguments.getLast?).getD .null
  match values.toText? with
  | some text => .tell (.displayed ("Signed up: " ++ text)) (.reply .null)
  | none => .fail (.value .unwritable)

/-- The programs of the example. -/
def programs : Programs :=
  { behaviour := fun _ occasion => announce occasion }

/-- The signup workflow, with an address to be asked for before the summary. -/
def signup : Registration :=
  { name := "Signup"
    plan := "Welcome;Form(name, :Your details);Summary(!name)"
    acceptor := some (.custom 0 .acceptor "announce" 0)
    redirector := some (.ready .needsAddress)
    validators := [none, some (.ready .checkSignupName), none] }

/-- The address workflow. -/
def address : Registration :=
  { name := "Address", plan := "Street(country)", acceptor := some (.ready .acceptAddress) }

/-- The outputs of the stages: the first form is rejected, then the user continues. -/
def outputs : List (Entries String Value) :=
  [[], [("name", .text "")], [("continue", .bool true)], [("name", .text "Bob")],
    [("street", .text "1 Main St"), ("country", .text "CA")], []]

/-- Completes one stage after the other. -/
def completeAll : List (Entries String Value) → Engine Unit
  | [] => return
  | output :: rest => do
    Engine.complete (programs.host Programs.depthLimit) (Value.ofEntries output)
    completeAll rest

/-- Plays the example. -/
def play : Engine Unit := do
  Engine.initial {} none
  let _ ← Engine.register signup
  let _ ← Engine.register address
  let _ ← Engine.invokeText "Signup(name=Bob)" false
  completeAll outputs

/-- What a stage was shown with. -/
def stageLine (handle : Handle Watcher) : String :=
  handle.stage ++ ": " ++ Text.quoteList? handle.arguments

/-- The lines that the example prints: what was announced, and then all stages. -/
def lines : Except Failure (List String) :=
  match play {} with
  | .ok () state =>
    .ok (state.journal.reverse.filterMap Event.line? ++ state.dispatcher.handles.map stageLine)
  | .error failure _ => .error failure

end Workflow.Signup
