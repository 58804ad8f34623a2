import Workflow.Engine.Consultation
import Workflow.Registry.Document

/-!
# Loading registry documents

The workflows of a document are registered one after the other.  The first that fails ends the
loading; those before it stay registered.
-/

namespace Workflow.Engine

/-- Imports the hook of a declaration; an empty path names none. -/
def importDeclared (host : Host) (path : Option String) : Except Failure (Option Hook) :=
  match Text.given? path with
  | some path => (HookModule.importHook host.modules path).map some
  | none => .ok none

/-- The registration that a declaration asks for: its hooks are imported in their order. -/
def registrationOf (host : Host) (declared : DeclaredWorkflow) : Except Failure Registration := do
  let acceptor ← importDeclared host declared.acceptor
  let redirector ← importDeclared host declared.redirector
  let validators ← declared.validators.mapM (importDeclared host)
  return { name := declared.name, plan := declared.plan, acceptor, redirector, validators }

/-- Registers declared workflows up to the first that fails. -/
def registerDeclared (host : Host) : List DeclaredWorkflow → Engine Unit
  | [] => return
  | declared :: rest => do
    let _ ← register (← lift (registrationOf host declared))
    registerDeclared host rest

/-- Registers the workflows of a document. -/
def load (host : Host) (document : Value) (path : String) : Engine Unit := do
  let declared ← lift ((DeclaredWorkflow.ofDocument document).mapError Failure.invalid)
  registerDeclared host declared
  note (.loaded declared.length path)

/-- Takes a step over another registry and puts the registry of the engine back afterwards. -/
def withRegistry {α : Type} (registry : Registry) (step : Engine α) : Engine α := fun state =>
  match step { state with registry } with
  | .ok answer reached => .ok answer { reached with registry := state.registry }
  | .error failure reached => .error failure { reached with registry := state.registry }

end Workflow.Engine
