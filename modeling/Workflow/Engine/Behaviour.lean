import Workflow.Engine.Performance
import Workflow.Trace

/-!
# Behaviours

A custom hook is a program: it looks at the mapping that it is shown, writes to it and removes from
it, calls back into the engine and answers or fails.  Hooks that are called back call hooks
themselves; how deeply they may do so is bounded, which makes every run end.
-/

namespace Workflow

/-- What a hook does when it is called. -/
inductive Behaviour where
  | reply (answer : Value)
  | fail (failure : Failure)
  /-- Writes an entry of the mapping. -/
  | write (key value : Value) (next : Behaviour)
  /-- Removes an entry of the mapping, which has to be there. -/
  | remove (key : Value) (next : Behaviour)
  /-- Looks at the entries of the mapping. -/
  | look (next : List (Value × Value) → Behaviour)
  /-- Performs an operation and goes on with its outcome, which may be a failure. -/
  | operate (operation : Operation) (next : Except Failure Answer → Behaviour)
  /-- Adds to the journal. -/
  | tell (event : Event) (next : Behaviour)

/-- The programs of custom hooks, the modules that hooks are imported from, and how many more
workflows than were suspended may end in a row. -/
structure Programs where
  behaviour : Nat → Occasion → Behaviour := fun _ _ => .reply .null
  modules : List HookModule := []
  patience : Nat := 1000

namespace Engine

/-- The outcome of a step as a value; what the step changed before it failed stays. -/
def outcome {α : Type} (step : Engine α) : Engine (Except Failure α) := fun state =>
  let (outcome, reached) := Trace.outcomeOf step state
  .ok outcome reached

/-- Runs a behaviour, with a way to perform the operations that it asks for. -/
def follow (performing : Operation → Engine Answer) : Behaviour → Shown → Engine (Shown × Value)
  | .reply answer, shown => return (shown, answer)
  | .fail failure, _ => throw failure
  | .write key value next, shown => do follow performing next (← shown.put key value)
  | .remove key next, shown => do follow performing next (← shown.remove key)
  | .look next, shown => do follow performing (next (← shown.entries)) shown
  | .operate operation next, shown => do
    follow performing (next (← outcome (performing operation))) shown
  | .tell event next, shown => do
    note event
    follow performing next shown

end Engine

namespace Programs

/-- A host whose hooks may call back to the given depth. -/
def host (programs : Programs) : Nat → Host
  | 0 =>
    { run := fun _ _ _ => throw .tooDeep
      modules := programs.modules
      patience := programs.patience }
  | depth + 1 =>
    { run := fun program occasion shown =>
        Engine.follow (Engine.perform (programs.host depth)) (programs.behaviour program occasion)
          shown
      modules := programs.modules
      patience := programs.patience }

/-- How deeply hooks may call back. -/
def depthLimit : Nat := 300

/-- Performs an operation with these programs. -/
def perform (programs : Programs) (operation : Operation) : Engine Answer :=
  Engine.perform (programs.host depthLimit) operation

/-- Performs operations one after the other, whatever becomes of each. -/
def trace (programs : Programs) (state : State) (operations : List Operation) :
    List (Taken Operation Failure State Answer) :=
  Trace.run programs.perform state operations

/-- Performs operations up to the first that fails. -/
def performAll (programs : Programs) : List Operation → Engine Unit
  | [] => return
  | operation :: rest => do
    let _ ← programs.perform operation
    programs.performAll rest

end Programs

end Workflow
