import Workflow.Engine.Consultation
import Workflow.Token

/-!
# Transitions

How an engine moves.  It is idle without a current instance, and otherwise waits for the completion
of the stage that it dispatched.  An output that is rejected suspends the workflow and opens the
built-in one that asks whether to continue; a redirect suspends it and opens the target.  When a
workflow is over, the one that was suspended last goes on with what the finished one contributes.
-/

namespace Workflow.Engine

/-- Displays a line, which only the console does. -/
def display (line : String) : Engine Unit := do
  match (← get).dispatcher.backend with
  | .inMemory => return
  | .console => note (.displayed line)

/-- Shows a stage. -/
def activate (stage : String) (arguments : Option (List String)) : Engine Unit := do
  modify fun state => { state with dispatcher := state.dispatcher.activate stage arguments }
  note (.activated stage arguments)
  display (Dispatcher.stageLine stage arguments)

/-- Shows nothing any more. -/
def deactivate : Engine Unit := do
  modify fun state => { state with dispatcher := state.dispatcher.deactivate }
  note .deactivated
  display Dispatcher.clearedLine

/-- Changes the handle of a number. -/
def modifyHandle (number : Nat) (change : Handle Watcher → Handle Watcher) : Engine Unit :=
  modify fun state => { state with dispatcher := state.dispatcher.modifyHandle number change }

/-- Waits for the completion of the stage that is shown. -/
def attach : Engine Unit := do
  match (← get).dispatcher.current with
  | none => throw .stageNotExposed
  | some number =>
    modifyHandle number fun handle => handle.subscribe .controller
    modify fun state => { state with held := some number }

/-- Waits for nothing any more. -/
def detach : Engine Unit := do
  match (← get).held with
  | none => return
  | some number =>
    modifyHandle number fun handle => handle.unsubscribe .controller
    modify fun state => { state with held := none }

/-- Dispatches the stage at which the current instance stands. -/
def startStage : Engine Unit := do
  let number ← currentNumber
  let definition ← definitionOf number
  let inst ← instanceAt number
  let stage ← stageOf definition inst.stage
  let arguments ← lift ((Token.resolveAll inst id "" stage.tokens).mapError Failure.value)
  activate stage.name arguments
  attach

/-- Refuses to go on if a workflow is running, unless it may be replaced. -/
def requireIdle (force : Bool) : Engine Unit := do
  match (← get).current with
  | none => return
  | some number => unless force do throw (.active (← instanceAt number).label)

/-- Makes an invoked workflow the current one and dispatches its first stage. -/
def start (invocation : Invocation) : Engine Nat := do
  let _ ← lift (Registry.get (← get).registry invocation.name)
  detach
  let number ← addInstance (Instance.ofInvocation invocation)
  modify fun state => { state with current := some number }
  note (.invoking number invocation)
  startStage
  return number

/-- Starts a workflow; a running one is replaced only by force. -/
def invoke (invocation : Invocation) (force : Bool) : Engine Nat := do
  requireIdle force
  start invocation

/-- Starts the workflow that a text names; the text is read only if a workflow may be started. -/
def invokeText (text : String) (force : Bool) : Engine Nat := do
  requireIdle force
  start (← lift ((Invocation.parse text).mapError Failure.binding))

/-- Puts the current instance aside. -/
def hold : Engine Unit := do
  Suspension.push (← get).current
  let number ← currentNumber
  note (.holding number (← instanceAt number).name)

/-- The message of a rejection, which has to be a text. -/
def rejectionText (error : Value) : Except Failure String :=
  let checked := (Field.text error).inside (.field cancelErrorArgument)
  (checked.inside (.field "arguments")).mapError Failure.invalid

/-- Writes a rejection into the log, unless its error cannot be written. -/
def noteRejection (number : Nat) (stageName : Option String) (error : Value) : Engine Unit :=
  if error.isWritable then do
    note (.rejected number stageName (← instanceAt number).stage error)
  else throw (.value .unwritable)

/-- Puts the current instance aside and asks the user whether to continue.  The log comes first, so
nothing is put aside for an error that cannot be written. -/
def reject (number : Nat) (stageName : Option String) (error : Value) : Engine Unit := do
  noteRejection number stageName error
  hold
  let text ← lift (rejectionText error)
  let settings ← ask State.settings
  let _ ← invoke ⟨settings.cancelWorkflow, some [(cancelErrorArgument, text)]⟩ true

/-- The invocation that a redirector's answer names, unless it declines. -/
def redirectTarget : Value → Except Failure (Option (String × Invocation))
  | .null => .ok none
  | .text target =>
    match Invocation.parse target with
    | .ok invocation => .ok (some (target, invocation))
    | .error fault => .error (.binding fault)
  | answer => .error (.targetKind answer.kind)

/-- Puts the current instance aside for the target of a redirect. -/
def redirect (number : Nat) (stageName : Option String) (target : String)
    (invocation : Invocation) : Engine Unit := do
  let _ ← lift (Registry.get (← get).registry invocation.name)
  note (.redirecting number stageName (← instanceAt number).stage target)
  hold
  let _ ← invoke invocation true

/-- Ends the current workflow and goes on with the one that was suspended last.  One that was
suspended after its last stage ends at once, so this goes on until a stage is dispatched or nothing
is suspended. -/
def exit (host : Host) : Nat → Engine Unit
  | 0 => throw .tooDeep
  | bound + 1 => do
    let number ← currentNumber
    let definition ← definitionOf number
    modifyInstance number fun inst => { inst with state := .finished }
    let finishing ← instanceAt number
    note (.exiting number finishing.name finishing.stage)
    let (_, contribution) ← consult host definition.acceptor number .accept (.values number)
    if (← get).suspended.isEmpty then
      modify fun state => { state with current := none }
      deactivate
      note .idle
    else
      let entry ← Suspension.pop
      modify fun state => { state with current := entry }
      let resumed ← currentNumber
      editValues resumed (ValueMap.merge contribution)
      let inst ← instanceAt resumed
      note (.restoring resumed inst.name inst.stage)
      let definition ← definitionOf resumed
      if definition.isCompleteAt inst.stage then exit host bound else startStage

/-- Ends the current workflow if all its stages are over. -/
def exitIfComplete (host : Host) (number : Nat) (definition : Definition) : Engine Unit := do
  let inst ← instanceAt number
  if definition.isCompleteAt inst.stage then
    exit host ((← get).suspended.length + 1 + host.patience)

/-- Moves an instance on by an accepted output. -/
def accept (host : Host) (number : Nat) (definition : Definition) (stageName : Option String)
    (staged : ValueMap) : Engine Unit := do
  note (.accepted number stageName (← instanceAt number).stage staged)
  editValues number (ValueMap.merge staged.toValue)
  modifyInstance number fun inst => { inst with stage := inst.stage + 1 }
  let reached := (← instanceAt number).stage
  let next := definition.stageName? reached
  if next.isSome then startStage
  match definition.redirector with
  | none => exitIfComplete host number definition
  | some redirector =>
    let (_, answer) ← consult host redirector number (.redirect reached next true) (.values number)
    match ← lift (redirectTarget answer) with
    | none => exitIfComplete host number definition
    | some (target, invocation) => redirect number stageName target invocation

/-- Takes the output of the stage that the engine waited for. -/
def stageFinished (host : Host) (payload : Payload) : Engine Payload := do
  detach
  let number ← currentNumber
  let definition ← definitionOf number
  let reached := (← instanceAt number).stage
  let stageName := definition.stageName? reached
  let stage ← stageOf definition reached
  let (shown, answer) ← consult host stage.validator number .validate (.output payload)
  let payload := shown.payload
  let verdict ← lift ((Verdict.ofAnswer answer).mapError Failure.value)
  match verdict.stage payload with
  | .ok staged => accept host number definition stageName staged
  | .error error => reject number stageName error
  return payload

/-- Completes a dispatched stage and tells the engine if it waits for it. -/
def finishHandle (host : Host) (number : Nat) (output : Value) : Engine Unit := do
  match (← get).dispatcher.handle? number with
  | none => throw .outOfRange
  | some handle =>
    match handle.finish? with
    | none => throw (.alreadyFinished handle.stage)
    | some (finished, listeners) =>
      modifyHandle number fun _ => finished
      let payload ← lift ((Payload.ofOutput output).mapError Failure.value)
      let _ ← Handle.deliver (fun _ payload => stageFinished host payload) listeners payload

/-- Completes the stage that is shown. -/
def complete (host : Host) (output : Value) : Engine Unit := do
  match (← get).dispatcher.current with
  | none => throw .nothingToComplete
  | some number => finishHandle host number output

/-- An engine over a registry, with the built-in workflow registered. -/
def initial (settings : ControllerSettings) (cancelContent : Option String) : Engine Unit := do
  modify fun state => { state with settings }
  let _ ← register
    { name := settings.cancelWorkflow
      plan := (Text.given? cancelContent).getD settings.cancelContent
      acceptor := some .cancelDecision }

end Workflow.Engine
