import Workflow.Engine.Suspension
import Workflow.Instance.Request

/-!
# Commands on suspended instances

Everything that can be asked of the stack of suspended instances from outside.  Instances are
referred to by the positions at which they were first put aside.
-/

namespace Workflow

/-- A command on the stack, or on an instance that was put aside. -/
inductive SuspensionCommand where
  | push (request : InstanceRequest)
  | pushAgain (position : Int)
  | setValue (position : Int) (key value : Value)
  | advance (position : Int)
  | pop
  | peek
  | discard
  | clear
  | list

namespace SuspensionCommand

open Engine

/-- The number of the instance at a position. -/
def numberAt (position : Int) : Engine Nat := do
  match Position.offset? (← get).instances.length position with
  | some number => if number < (← get).instances.length then return number else throw .outOfRange
  | none => throw .outOfRange

/-- The instance that an entry of the stack refers to. -/
def entryInstance : Option Nat → Engine Instance
  | some number => instanceAt number
  | none => throw .noInstance

/-- The instances of entries. -/
def entryInstances : List (Option Nat) → Engine (List Instance)
  | [] => return []
  | entry :: rest => do
    let inst ← entryInstance entry
    return inst :: (← entryInstances rest)

/-- Runs a command; the answer is the instances that it shows. -/
def run : SuspensionCommand → Engine (List Instance)
  | push request => do
    let number ← addInstance (← lift request.make)
    Suspension.push (some number)
    return []
  | pushAgain position => do
    Suspension.push (some (← numberAt position))
    return []
  | setValue position key value => do
    editValues (← numberAt position) (ValueMap.put key value)
    return []
  | advance position => do
    modifyInstance (← numberAt position) fun inst => { inst with stage := inst.stage + 1 }
    return []
  | pop => do return [← entryInstance (← Suspension.pop)]
  | peek => do return [← entryInstance (← Suspension.peek)]
  | discard => do return [← entryInstance (← Suspension.discard)]
  | clear => do
    Suspension.clear
    return []
  | list => do entryInstances (← get).suspended

end SuspensionCommand

end Workflow
