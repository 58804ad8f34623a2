import Workflow.Handle

/-!
# Listeners that act on their handle

A listener may edit the subscriptions of the handle that notifies it, and may try to finish it
again. Here listeners are written down as steps that they take when they are notified.
-/

namespace Workflow

/-- A step on a handle whose listeners have names. -/
inductive HandleStep where
  | subscribe (listener : String)
  | unsubscribe (listener : String)
  | finish (output : Value)
  | raise (message : String)
  | write

/-- A handle, and what its listeners were notified of, the latest first. -/
structure HandleState where
  handle : Handle String
  received : List (String × Payload) := []

/-- A program over a handle; a failure keeps what was done before it. -/
abbrev HandleProgram := EStateM Failure HandleState

namespace HandleProgram

/-- Changes the handle. -/
def modifyHandle (change : Handle String → Handle String) : HandleProgram Unit :=
  modify fun state => { state with handle := change state.handle }

/-- A computation that does not touch the handle. -/
def lift {α : Type} : Except ValueFault α → HandleProgram α
  | .ok answer => pure answer
  | .error fault => throw (.value fault)

/-- Finishes the handle, with a way to notify a listener. -/
def finish (notify : String → Payload → HandleProgram Payload) (output : Value) :
    HandleProgram Unit := do
  let handle := (← get).handle
  match handle.finish? with
  | none => throw (.alreadyFinished handle.stage)
  | some (finished, listeners) =>
    modifyHandle fun _ => finished
    let payload ← lift (Payload.ofOutput output)
    let _ ← Handle.deliver notify listeners payload

/-- Takes a step, with a way to notify a listener; only writing the handle down has an answer. -/
def step (notify : String → Payload → HandleProgram Payload) :
    HandleStep → HandleProgram (Option String)
  | .subscribe listener => do
    modifyHandle fun handle => handle.subscribe listener
    return none
  | .unsubscribe listener => do
    modifyHandle fun handle => handle.unsubscribe listener
    return none
  | .finish output => do
    finish notify output
    return none
  | .raise message => throw (.raised message)
  | .write => return some (← get).handle.write

/-- Takes steps up to the first that fails. -/
def steps (notify : String → Payload → HandleProgram Payload) :
    List HandleStep → HandleProgram Unit
  | [] => return
  | first :: rest => do
    let _ ← step notify first
    steps notify rest

/-- Notifies a listener: it takes down what it was given, takes its steps and signs the payload.
Notifications may nest to the given depth. -/
def notify (listeners : Entries String (List HandleStep)) :
    Nat → String → Payload → HandleProgram Payload
  | 0, _, _ => throw .tooDeep
  | depth + 1, listener, payload => do
    modify fun state => { state with received := (listener, payload) :: state.received }
    steps (notify listeners depth) ((Entries.lookup listeners listener).getD [])
    lift (payload.put (.text "seen_by") (.text listener))

/-- How deeply notifications may nest.  A handle finishes once, so they never nest at all. -/
def depthLimit : Nat := 2

/-- Takes a step on a handle with the given listeners. -/
def perform (listeners : Entries String (List HandleStep)) (action : HandleStep) :
    HandleProgram (Option String) :=
  step (notify listeners depthLimit) action

end HandleProgram

end Workflow
