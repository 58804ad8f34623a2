import Workflow.Handle
import Workflow.Instance
import Workflow.Registry.Basic

/-!
# Operations

What can be asked of an engine from outside, as data, and what it answers.  The same operations are
open to hooks, which may call back into the engine while it waits for their answer.
-/

namespace Workflow

/-- Where the hook of a registration comes from. -/
inductive HookSource where
  /-- The default hook of the place. -/
  | default
  /-- A hook that is imported from a module. -/
  | path (path : String)
  /-- A new hook with a program of its own. -/
  | custom (program : Nat) (role : Role) (name : String)
  deriving DecidableEq, Repr

/-- A request to register a workflow, with hooks that are yet to be made. -/
structure RegistrationRequest where
  name : String
  plan : String
  acceptor : HookSource := .default
  redirector : HookSource := .default
  validators : List HookSource := []
  deriving DecidableEq, Repr

/-- What a workflow is invoked with: a text, or a name and bindings that are yet to be checked. -/
inductive InvocationSource where
  | text (text : String)
  | fields (name arguments : Value)

/-- An operation on an engine. -/
inductive Operation where
  | register (request : RegistrationRequest)
  | invoke (source : InvocationSource) (force : Bool)
  /-- Completes the stage that the dispatcher shows. -/
  | complete (output : Value)
  /-- Completes the stage that was dispatched at a position. -/
  | finish (position : Int) (output : Value)
  /-- The instance that the invocation at a position returned. -/
  | recall (position : Int)
  | listeners
  | deactivate
  | workflows
  | definition (name : String)
  | definitions
  | isRegistered (name : String)
  | stageName (name : String) (number : Int)
  /-- An attempt to give a definition another name. -/
  | rename (name : String)
  /-- Calls a hook of a registered workflow directly. -/
  | call (name : String) (role : Role) (position : Int) (arguments : List Value)
  /-- Registers the workflows of a document, in a registry of their own if it has to be fresh. -/
  | load (document : Value) (path : String) (fresh : Bool)
  /-- Registers the workflows of a document that is not there. -/
  | loadMissing

/-- The subscriber of dispatched stages. -/
inductive Watcher where
  | controller
  deriving DecidableEq, Repr

/-- What an operation answers. -/
inductive Answer where
  | done
  | label (text : String)
  | record (inst : Instance)
  | definition (definition : Definition)
  | definitions (definitions : List Definition)
  | names (names : List String)
  | name (name : Option String)
  | truth (truth : Bool)
  | value (value : Value)
  | handles (handles : List (Handle Watcher))

end Workflow
