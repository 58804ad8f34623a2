import Workflow.Engine.Loading
import Workflow.Engine.Transition

/-!
# Performing operations

What each operation does to an engine and what it answers.
-/

namespace Workflow.Engine

/-- The hook that a source stands for; a custom hook is a new one each time. -/
def hookOf (host : Host) : HookSource → Engine (Option Hook)
  | .default => return none
  | .path path => return some (← lift (HookModule.importHook host.modules path))
  | .custom program role name => do
    let stamp := (← get).stamp
    modify fun state => { state with stamp := stamp + 1 }
    return some (.custom program role name stamp)

/-- The hooks of a list of sources. -/
def hooksOf (host : Host) : List HookSource → Engine (List (Option Hook))
  | [] => return []
  | source :: sources => do
    let hook ← hookOf host source
    return hook :: (← hooksOf host sources)

/-- Registers a workflow with hooks that are made first. -/
def registerRequested (host : Host) (request : RegistrationRequest) : Engine Definition := do
  let acceptor ← hookOf host request.acceptor
  let redirector ← hookOf host request.redirector
  let validators ← hooksOf host request.validators
  register { name := request.name, plan := request.plan, acceptor, redirector, validators }

/-- The invocation in given fields. -/
def invocationOfFields (name arguments : Value) : Except Failure Invocation :=
  (Checked.zipWith Invocation.mk
    ((Field.text name).inside (.field "name"))
    ((Field.bindings? arguments).inside (.field "arguments"))).mapError Failure.invalid

/-- Starts the workflow of an invocation, whose fields are checked before anything else. -/
def invokeSource (source : InvocationSource) (force : Bool) : Engine Nat := do
  match source with
  | .text text => invokeText text force
  | .fields name arguments =>
    let invocation ← lift (invocationOfFields name arguments)
    invoke invocation force

/-- The instance that the invocation at a position returned. -/
def returnedAt (position : Int) : Engine Instance := do
  let journal ← ask State.journal
  let returned := journal.reverse.filterMap fun
    | .returned number => some number
    | _ => none
  match Position.item? returned position with
  | some number => instanceAt number
  | none => throw .outOfRange

/-- Completes the stage that was dispatched at a position. -/
def finishAt (host : Host) (position : Int) (output : Value) : Engine Unit := do
  match Position.offset? (← get).dispatcher.handles.length position with
  | some number => finishHandle host number output
  | none => throw .outOfRange

/-- A hook of a definition. -/
def hookIn (definition : Definition) (role : Role) (position : Int) : Except Failure Hook :=
  match role with
  | .acceptor => .ok definition.acceptor
  | .redirector =>
    match definition.redirector with
    | some hook => .ok hook
    | none => .error .badCall
  | .validator =>
    match definition.stage? position with
    | some stage => .ok stage.validator
    | none => .error .outOfRange

/-- Calls a hook directly; a custom hook needs a mapping as its last argument. -/
def callDirectly (host : Host) (hook : Hook) (arguments : List Value) : Engine Value := do
  match hook, arguments.getLast? with
  | _, some (.dict entries) => return (← callHook host hook none arguments (.output entries)).2
  | .custom _ _ _ _, some _ => throw .noEntries
  | _, _ => return (← callHook host hook none arguments (.output [])).2

/-- Loads a document and answers with all workflows that are registered then. -/
def loadAll (host : Host) (document : Value) (path : String) : Engine Answer := do
  load host document path
  return .definitions (← get).registry.definitions

/-- Performs an operation. -/
def perform (host : Host) : Operation → Engine Answer
  | .register request => return .definition (← registerRequested host request)
  | .invoke source force => do
    let number ← invokeSource source force
    note (.returned number)
    return .label (← instanceAt number).label
  | .complete output => do
    complete host output
    return .done
  | .finish position output => do
    finishAt host position output
    return .done
  | .recall position => return .record (← returnedAt position)
  | .listeners => return .handles (← get).dispatcher.handles
  | .deactivate => do
    deactivate
    return .done
  | .workflows => return .names (← get).registry.names
  | .definition name => return .definition (← lift (Registry.get (← get).registry name))
  | .definitions => return .definitions (← get).registry.definitions
  | .isRegistered name => return .truth (Entries.has (← get).registry name)
  | .stageName name number => do
    let definition ← lift (Registry.get (← get).registry name)
    return .name (definition.stageName? number)
  | .rename name => do
    let _ ← lift (Registry.get (← get).registry name)
    throw (.invalid [⟨[.field "name"], .frozen⟩])
  | .call name role position arguments => do
    let definition ← lift (Registry.get (← get).registry name)
    let hook ← lift (hookIn definition role position)
    return .value (← callDirectly host hook arguments)
  | .load document path fresh =>
    if fresh then withRegistry [] (loadAll host document path) else loadAll host document path
  | .loadMissing => throw .missingFile

end Workflow.Engine
