import Workflow.Failure

/-!
# Stage handles

A dispatched stage is completed through a handle, once.  Completion is delivered to those who are
subscribed at that moment, in the order of their subscriptions: whoever subscribes or unsubscribes
during the delivery changes nothing about it.
-/

namespace Workflow

/-- The output of a stage as it is delivered: entries under keys of any kind. -/
abbrev Payload := Entries Value Value

namespace Payload

/-- Writes an entry, whose key has to be one that a dictionary can have. -/
def put (payload : Payload) (key value : Value) : Except ValueFault Payload :=
  if key.isHashable then .ok (Entries.put payload key value) else .error .unhashableKey

/-- Removes the entry under a key, which has to be there. -/
def remove (payload : Payload) (key : Value) : Except ValueFault Payload :=
  if !key.isHashable then .error .unhashableKey
  else if Entries.has payload key then .ok (Entries.remove payload key)
  else .error .absentKey

/-- The entries that a list of pairs amounts to. -/
def ofItems (payload : Payload) : List Value → Except ValueFault Payload
  | [] => .ok payload
  | item :: items => do
    match item.items? with
    | none => throw .notIterable
    | some [key, value] => ofItems (← payload.put key value) items
    | some _ => throw .notPair

/-- The payload of an output: a dictionary as it is, pairs as entries, nothing for what is false. -/
def ofOutput (output : Value) : Except ValueFault Payload :=
  if output.isTruthy then
    match output with
    | .dict entries => .ok entries
    | other =>
      match other.items? with
      | some items => ofItems [] items
      | none => .error .notIterable
  else .ok []

end Payload

/-- The one-shot completion of a dispatched stage, with its subscribers in order. -/
structure Handle (ι : Type) where
  stage : String
  arguments : Option (List String)
  finished : Bool := false
  listeners : List ι := []

namespace Handle

variable {ι : Type}

/-- The handle of a stage that was just dispatched. -/
def ofStage (stage : String) (arguments : Option (List String)) : Handle ι :=
  { stage, arguments }

/-- Adds a subscription at the end. -/
def subscribe (handle : Handle ι) (listener : ι) : Handle ι :=
  { handle with listeners := handle.listeners ++ [listener] }

/-- Removes the first subscription of a listener, if it has one. -/
def unsubscribe [BEq ι] (handle : Handle ι) (listener : ι) : Handle ι :=
  { handle with listeners := handle.listeners.erase listener }

/-- Marks the handle as finished and tells who has to be notified; this works once. -/
def finish? (handle : Handle ι) : Option (Handle ι × List ι) :=
  if handle.finished then none
  else some ({ handle with finished := true }, handle.listeners)

/-- A handle can be finished exactly if it is not finished yet. -/
theorem finish?_eq_none_iff (handle : Handle ι) :
    handle.finish? = none ↔ handle.finished = true := by
  cases unfinished : handle.finished <;> simp [finish?, unfinished]

/-- The handle as it is written down. -/
def write (handle : Handle ι) : String :=
  s!"StageHandle({Text.quote handle.stage}, {Text.quoteList? handle.arguments})"

/-- Notifies listeners one after the other, each of which may edit the payload that all share, until
one fails. -/
def deliver {m : Type → Type} [Monad m] (notify : ι → Payload → m Payload) :
    List ι → Payload → m Payload
  | [], payload => pure payload
  | listener :: rest, payload => do
    let payload ← notify listener payload
    deliver notify rest payload

end Handle

end Workflow
