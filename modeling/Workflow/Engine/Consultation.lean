import Workflow.Engine.Suspension
import Workflow.Hook.Import

/-!
# Consulting hooks

A hook is shown one mapping, which it may change: the output of a stage or the live values of an
instance.  Hooks without a program of their own answer at once; for the others the host is asked,
whose programs may do anything to the engine.
-/

namespace Workflow

/-- The mapping that a hook is shown. -/
inductive Shown where
  | output (payload : Payload)
  | values (inst : Nat)

/-- The circumstances under which a custom hook is called. -/
structure Occasion where
  /-- How many consultations of any hook there were before. -/
  consultation : Nat
  /-- How often this hook was called before. -/
  call : Nat
  arguments : List Value

/-- What an engine needs from outside: the programs of custom hooks, the modules that hooks are
imported from, and how many more workflows than were suspended may end in a row. -/
structure Host where
  run : Nat → Occasion → Shown → Engine (Shown × Value)
  modules : List HookModule := []
  patience : Nat := 0

/-- What a validator says about an output. -/
structure Verdict where
  valid : Bool
  error : Value

namespace Verdict

/-- The verdict in a validator's answer: a truth value, or a pair of one and a message. -/
def ofAnswer : Value → Except ValueFault Verdict
  | .bool valid => .ok ⟨valid, .text ""⟩
  | answer =>
    match answer.items? with
    | none => .error .notIterable
    | some [valid, error] => .ok ⟨valid.isTruthy, if error.isTruthy then error else .text ""⟩
    | some _ => .error .notPair

/-- The values that a valid output amounts to, or why it is rejected after all. -/
def stage (verdict : Verdict) (payload : Payload) : Except Value ValueMap :=
  if verdict.valid then
    (ValueMap.ofValue (.dict payload)).mapError fun fault => .text fault.message
  else .error verdict.error

end Verdict

namespace Shown

open Engine

/-- The entries that a hook sees. -/
def entries : Shown → Engine (List (Value × Value))
  | output payload => return payload
  | values number => return (← instanceAt number).values.entries.map fun (key, value) =>
    (.text key, value)

/-- Changes a mapping for a hook: an output as it stands, and values where they are kept. -/
def change (revise : Payload → Except ValueFault Payload) (edit : Edit Unit) :
    Shown → Engine Shown
  | output payload => do
    return output (← lift ((revise payload).mapError Failure.value))
  | values number => do
    editValues number edit
    return values number

/-- Writes an entry for a hook; only an output takes everything. -/
def put (key value : Value) (shown : Shown) : Engine Shown :=
  shown.change (·.put key value) (ValueMap.put key value)

/-- Removes an entry for a hook, which has to be there. -/
def remove (key : Value) (shown : Shown) : Engine Shown :=
  shown.change (·.remove key) (ValueMap.remove key)

/-- The output that is left when a hook has seen one. -/
def payload : Shown → Payload
  | output payload => payload
  | values _ => []

end Shown

namespace Engine

/-- Whether an event is a call of a hook. -/
def isConsultation : Event → Bool
  | .consulted _ _ _ => true
  | _ => false

/-- Whether an event is a call of the given hook. -/
def isCallOf (hook : Hook) : Event → Bool
  | .consulted other _ _ => other == hook
  | _ => false

/-- Abandons what was interrupted last if the values say not to continue. -/
def decideCancel : Shown → Engine Value
  | .output _ => throw .noEntries
  | .values number => do
    let state ← get
    let values := (← instanceAt number).values
    let answer := values.checkEquals (.text state.settings.continueKey) (.bool false)
    let declined ← lift (answer.mapError Failure.value)
    if declined && !state.suspended.isEmpty then
      let _ ← Suspension.discard
    return .null

/-- Calls a hook with arguments of which the last is the mapping that it is shown. -/
def callHook (host : Host) (hook : Hook) (asked : Option (Nat × Question))
    (arguments : List Value) (shown : Shown) : Engine (Shown × Value) := do
  if hook.arity ≠ arguments.length then throw .badCall
  let journal ← ask State.journal
  note (.consulted hook asked arguments)
  match hook with
  | .alwaysValid => return (shown, ReadyHook.verdict true (.text ""))
  | .identityAcceptor => return (shown, .null)
  | .cancelDecision => return (shown, ← decideCancel shown)
  | .ready hook => return (shown, ← lift (hook.answer arguments))
  | .custom program _ _ _ =>
    let consultation := journal.countP isConsultation
    let call := journal.countP (isCallOf hook)
    host.run program { consultation, call, arguments } shown

/-- Asks a hook a question about a mapping. -/
def consult (host : Host) (hook : Hook) (inst : Nat) (question : Question) (shown : Shown) :
    Engine (Shown × Value) := do
  let arguments := question.arguments (.dict (← shown.entries))
  callHook host hook (some (inst, question)) arguments shown

end Engine

end Workflow
