import Workflow.Proofs.Calls
import Workflow.Proofs.Completion

/-!
# An engine that keeps a tally

Hooks may call back while a completion is half done, so one operation can complete many stages on
its way.  To say how often the engine is told of each of them, the steps that call hooks are written
here for an engine that keeps a tally of the stages of whose completion it is told.  All other steps
are those of the engine, which is told of nothing in them.  Without its tally this engine is the
engine.
-/

namespace Workflow

/-! ## Parts that call no hook -/

namespace Engine

/-- Takes down the call of a hook and returns the journal before it. -/
def announce (hook : Hook) (asked : Option (Nat × Question)) (arguments : List Value) :
    Engine (List Event) := do
  if hook.arity ≠ arguments.length then throw .badCall
  let journal ← ask State.journal
  note (.consulted hook asked arguments)
  return journal

theorem callHook_eq (host : Host) (hook : Hook) (asked : Option (Nat × Question))
    (arguments : List Value) (shown : Shown) :
    callHook host hook asked arguments shown = (do
      let before ← announce hook asked arguments
      answerOf host before arguments shown hook) := by
  by_cases arity : hook.arity = arguments.length
  · simp only [callHook, announce, arity, ne_eq, not_true_eq_false, ↓reduceIte, bind_assoc,
      pure_bind]
    cases hook <;> rfl
  · simp only [callHook, announce, arity, ne_eq, not_false_eq_true, ↓reduceIte, bind_assoc]
    rfl

/-- Moves an instance on by an accepted output and dispatches the stage that it reaches. -/
def advance (number : Nat) (definition : Definition) (stageName : Option String)
    (staged : ValueMap) : Engine Int := do
  note (.accepted number stageName (← instanceAt number).stage staged)
  editValues number (ValueMap.merge staged.toValue)
  modifyInstance number fun inst => { inst with stage := inst.stage + 1 }
  let reached := (← instanceAt number).stage
  startNext definition reached
  return reached

theorem accept_advance (host : Host) (number : Nat) (definition : Definition)
    (stageName : Option String) (staged : ValueMap) :
    accept host number definition stageName staged = (do
      let reached ← advance number definition stageName staged
      let target ← advise host number definition reached
      proceed host number definition stageName target) := by
  simp only [accept_eq, advance, bind_assoc, pure_bind]

/-- Marks the current instance as finished, and names its acceptor. -/
def leave : Engine (Nat × Hook) := do
  let number ← currentNumber
  let definition ← definitionOf number
  modifyInstance number fun inst => { inst with state := .finished }
  let finishing ← instanceAt number
  note (.exiting number finishing.name finishing.stage)
  return (number, definition.acceptor)

theorem conclude_leave (host : Host) :
    conclude host = (do
      let (number, acceptor) ← leave
      let (_, contribution) ← consult host acceptor number .accept (.values number)
      return contribution) := by
  simp only [conclude, leave, bind_assoc, pure_bind]

/-- Finishes a handle, and says who has to be told what. -/
def close (number : Nat) (output : Value) : Engine (List Watcher × Payload) := do
  match (← get).dispatcher.handle? number with
  | none => throw .outOfRange
  | some handle =>
    match handle.finish? with
    | none => throw (.alreadyFinished handle.stage)
    | some (finished, listeners) =>
      modifyHandle number fun _ => finished
      let payload ← lift ((Payload.ofOutput output).mapError Failure.value)
      return (listeners, payload)

theorem finishHandle_close (host : Host) (number : Nat) (output : Value) :
    finishHandle host number output = (do
      let (listeners, payload) ← close number output
      let _ ← Handle.deliver (fun _ payload => stageFinished host payload) listeners payload) := by
  simp only [finishHandle, close, bind_assoc]
  apply bind_congr
  intro state
  cases state.dispatcher.handle? number with
  | none => rfl
  | some handle =>
      cases finished : handle.finish? with
      | none => simp only [finished]; rfl
      | some done => simp only [finished, bind_assoc, pure_bind]

/-- What a hook is shown that is called directly. -/
def presented (hook : Hook) (arguments : List Value) : Except Failure Shown :=
  match hook, arguments.getLast? with
  | _, some (.dict entries) => .ok (.output entries)
  | .custom _ _ _ _, some _ => .error .noEntries
  | _, _ => .ok (.output [])

theorem callDirectly_presented (host : Host) (hook : Hook) (arguments : List Value) :
    callDirectly host hook arguments = (do
      let shown ← lift (presented hook arguments)
      return (← callHook host hook none arguments shown).2) := by
  simp only [callDirectly, presented]
  cases arguments.getLast? with
  | none => cases hook <;> rfl
  | some value => cases value <;> cases hook <;> rfl

section Modules

variable {host other : Host} (same : host.modules = other.modules)
include same

theorem hookOf_congr (source : HookSource) : hookOf host source = hookOf other source := by
  cases source <;> simp only [hookOf, same]

theorem hooksOf_congr (sources : List HookSource) :
    hooksOf host sources = hooksOf other sources := by
  induction sources with
  | nil => rfl
  | cons source rest ih => simp only [hooksOf, hookOf_congr same, ih]

theorem registrationOf_congr (declared : DeclaredWorkflow) :
    registrationOf host declared = registrationOf other declared := by
  have imports : importDeclared host = importDeclared other := by
    funext path
    simp only [importDeclared, same]
  simp only [registrationOf, imports]

theorem registerDeclared_congr (declared : List DeclaredWorkflow) :
    registerDeclared host declared = registerDeclared other declared := by
  induction declared with
  | nil => rfl
  | cons first rest ih => simp only [registerDeclared, registrationOf_congr same, ih]

theorem loadAll_congr (document : Value) (path : String) :
    loadAll host document path = loadAll other document path := by
  simp only [loadAll, load, registerDeclared_congr same]

/-- Registering needs nothing of a host but the modules that hooks are imported from. -/
theorem registerRequested_congr (request : RegistrationRequest) :
    registerRequested host request = registerRequested other request := by
  simp only [registerRequested, hookOf_congr same, hooksOf_congr same]

end Modules

end Engine

/-! ## The steps that call hooks -/

/-- A step of an engine that keeps a tally: the numbers of the stages of whose completion it was
told, the latest first. -/
abbrev Tallied := EStateM Failure (State × List Nat)

namespace Tallied

variable {α β : Type}

/-- A step in which the engine is told of nothing. -/
def quietly (step : Engine α) : Tallied α := fun (state, tally) =>
  match step state with
  | .ok answer reached => .ok answer (reached, tally)
  | .error failure reached => .error failure (reached, tally)

/-- Enters a stage into the tally. -/
def enter (number : Nat) : Tallied Unit :=
  modify fun (state, tally) => (state, number :: tally)

/-- The outcome of a step as a value. -/
def outcome (step : Tallied α) : Tallied (Except Failure α) := fun state =>
  let (outcome, reached) := Trace.outcomeOf step state
  .ok outcome reached

/-- What runs the programs of custom hooks. -/
abbrev Runner := Nat → Occasion → Shown → Tallied (Shown × Value)

section Steps

variable (programs : Programs) (run : Runner)

/-- Calls a hook, whose program may complete other stages. -/
def callHook (hook : Hook) (asked : Option (Nat × Question)) (arguments : List Value)
    (shown : Shown) : Tallied (Shown × Value) := do
  let before ← quietly (Engine.announce hook asked arguments)
  match hook with
  | .custom program _ _ _ =>
    run program
      { consultation := before.countP Engine.isConsultation
        call := before.countP (Engine.isCallOf hook)
        arguments } shown
  | hook => quietly (Engine.answerOf (programs.host 0) before arguments shown hook)

def consult (hook : Hook) (inst : Nat) (question : Question) (shown : Shown) :
    Tallied (Shown × Value) := do
  let entries ← quietly shown.entries
  callHook programs run hook (some (inst, question)) (question.arguments (.dict entries)) shown

def judge (number : Nat) (stage : Stage) (payload : Payload) :
    Tallied (Payload × Except Value ValueMap) := do
  let (shown, answer) ← consult programs run stage.validator number .validate (.output payload)
  let verdict ← quietly (Engine.lift ((Verdict.ofAnswer answer).mapError Failure.value))
  let staged ← quietly (Engine.lift ((verdict.settle shown.payload).mapError Failure.value))
  return (shown.payload, staged)

def advise (number : Nat) (definition : Definition) (reached : Int) :
    Tallied (Option (String × Invocation)) :=
  match definition.redirector with
  | none => return none
  | some redirector => do
    let (_, answer) ← consult programs run redirector number
      (.redirect reached (definition.stageName? reached) true) (.values number)
    quietly (Engine.lift (Engine.redirectTarget answer))

def exit : Nat → Tallied Unit
  | 0 => throw .tooDeep
  | bound + 1 => do
    let (number, acceptor) ← quietly Engine.leave
    let (_, contribution) ← consult programs run acceptor number .accept (.values number)
    if (← quietly get).suspended.isEmpty then quietly Engine.comeToRest
    else if ← quietly (Engine.resume contribution) then exit bound else quietly Engine.startStage

def proceed (number : Nat) (definition : Definition) (stageName : Option String) :
    Option (String × Invocation) → Tallied Unit
  | none => do
    let inst ← quietly (Engine.instanceAt number)
    if definition.isCompleteAt inst.stage then
      exit programs run ((← quietly get).suspended.length + 1 + programs.patience)
  | some (target, invocation) => quietly (Engine.redirect number stageName target invocation)

/-- Takes the output of a stage; whoever calls this enters the stage into the tally. -/
def stageFinished (payload : Payload) : Tallied Payload := do
  let (number, definition, reached, stage) ← quietly Engine.receive
  let (left, staged) ← judge programs run number stage payload
  match staged with
  | .ok staged =>
    let stageName := definition.stageName? reached
    let reached ← quietly (Engine.advance number definition stageName staged)
    let target ← advise programs run number definition reached
    proceed programs run number definition stageName target
  | .error error => quietly (Engine.reject number (definition.stageName? reached) error)
  return left

/-- Completes a dispatched stage, which is entered into the tally each time the engine is told. -/
def finishHandle (number : Nat) (output : Value) : Tallied Unit := do
  let (listeners, payload) ← quietly (Engine.close number output)
  let _ ← Handle.deliver
    (fun _ payload => do
      enter number
      stageFinished programs run payload) listeners payload

def callDirectly (hook : Hook) (arguments : List Value) : Tallied Value := do
  let shown ← quietly (Engine.lift (Engine.presented hook arguments))
  return (← callHook programs run hook none arguments shown).2

/-- Performs an operation. -/
def perform : Operation → Tallied Answer
  | .complete output => do
    match (← quietly get).dispatcher.current with
    | none => throw .nothingToComplete
    | some number => finishHandle programs run number output
    return .done
  | .finish position output => do
    match Position.offset? (← quietly get).dispatcher.handles.length position with
    | some number => finishHandle programs run number output
    | none => throw .outOfRange
    return .done
  | .call name role position arguments => do
    let definition ← quietly do Engine.lift (Registry.get (← get).registry name)
    let hook ← quietly (Engine.lift (Engine.hookIn definition role position))
    return .value (← callDirectly programs run hook arguments)
  | operation => quietly (Engine.perform (programs.host 0) operation)

/-- Runs a behaviour. -/
def follow (performing : Operation → Tallied Answer) : Behaviour → Shown → Tallied (Shown × Value)
  | .reply answer, shown => return (shown, answer)
  | .fail failure, _ => throw failure
  | .write key value next, shown => do follow performing next (← quietly (shown.put key value))
  | .remove key next, shown => do follow performing next (← quietly (shown.remove key))
  | .look next, shown => do follow performing (next (← quietly shown.entries)) shown
  | .operate operation next, shown => do
    follow performing (next (← outcome (performing operation))) shown
  | .tell event next, shown => do
    quietly (Engine.note event)
    follow performing next shown

end Steps

/-- The programs of hooks that may call back to the given depth. -/
def runner (programs : Programs) : Nat → Runner
  | 0 => fun _ _ _ => throw .tooDeep
  | depth + 1 => fun program occasion shown =>
    follow (perform programs (runner programs depth)) (programs.behaviour program occasion) shown

end Tallied

/-! ## Without the tally -/

namespace Tallied

variable {α β : Type}

theorem bind_apply (step : Tallied α) (next : α → Tallied β) (state : State × List Nat) :
    (step >>= next) state =
      match step state with
      | .ok answer reached => next answer reached
      | .error failure reached => .error failure reached := by
  simp only [bind, EStateM.bind]
  cases step state <;> rfl

/-- A result without the tally. -/
def forget : EStateM.Result Failure (State × List Nat) α → EStateM.Result Failure State α
  | .ok answer (reached, _) => .ok answer reached
  | .error failure (reached, _) => .error failure reached

/-- A step does what another step does, and keeps a tally. -/
def Erases (tallied : Tallied α) (step : Engine α) : Prop :=
  ∀ state tally, forget (tallied (state, tally)) = step state

theorem erases_pure (answer : α) : Erases (pure answer) (pure answer) := fun _ _ => rfl

theorem erases_throw (failure : Failure) : Erases (throw failure : Tallied α) (throw failure) :=
  fun _ _ => rfl

theorem erases_enter (number : Nat) : Erases (enter number) (pure ()) := fun _ _ => rfl

theorem erases_quietly (step : Engine α) : Erases (quietly step) step := by
  intro state tally
  simp only [quietly]
  cases step state <;> rfl

theorem Erases.bind {tallied : Tallied α} {step : Engine α} {after : α → Tallied β}
    {next : α → Engine β} (erases : Erases tallied step)
    (further : ∀ answer, Erases (after answer) (next answer)) :
    Erases (tallied >>= after) (step >>= next) := by
  intro state tally
  have first := erases state tally
  rw [bind_apply, Engine.bind_apply, ← first]
  cases tallied (state, tally) with
  | ok answer reached => exact further answer reached.1 reached.2
  | error failure reached => rfl

/-- What is done quietly need not be spelt out. -/
theorem erases_quietly_bind {step : Engine α} {after : α → Tallied β} {next : α → Engine β}
    (further : ∀ answer, Erases (after answer) (next answer)) :
    Erases (quietly step >>= after) (step >>= next) :=
  (erases_quietly step).bind further

theorem Erases.outcome {tallied : Tallied α} {step : Engine α} (erases : Erases tallied step) :
    Erases (outcome tallied) (Engine.outcome step) := by
  intro state tally
  have first := erases state tally
  simp only [Tallied.outcome, Engine.outcome, Trace.outcomeOf]
  rw [← first]
  cases tallied (state, tally) <;> rfl

section Steps

variable {programs : Programs} {run : Runner} {host : Host}
  (modules : host.modules = programs.modules) (patience : host.patience = programs.patience)
  (runs : ∀ program occasion shown, Erases (run program occasion shown)
    (host.run program occasion shown))

include runs

theorem erases_callHook (hook : Hook) (asked : Option (Nat × Question)) (arguments : List Value)
    (shown : Shown) : Erases (callHook programs run hook asked arguments shown)
      (Engine.callHook host hook asked arguments shown) := by
  rw [Engine.callHook_eq]
  refine erases_quietly_bind fun before => ?_
  cases hook with
  | custom program role name stamp => exact runs _ _ _
  | alwaysValid => exact erases_quietly _
  | identityAcceptor => exact erases_quietly _
  | cancelDecision => exact erases_quietly _
  | ready hook => exact erases_quietly _

theorem erases_consult (hook : Hook) (inst : Nat) (question : Question) (shown : Shown) :
    Erases (consult programs run hook inst question shown)
      (Engine.consult host hook inst question shown) :=
  erases_quietly_bind fun _ => erases_callHook runs hook _ _ shown

theorem erases_judge (number : Nat) (stage : Stage) (payload : Payload) :
    Erases (judge programs run number stage payload) (Engine.judge host number stage payload) :=
  (erases_consult runs stage.validator number .validate (.output payload)).bind fun _ =>
    erases_quietly_bind fun _ => erases_quietly_bind fun _ => erases_pure _

theorem erases_advise (number : Nat) (definition : Definition) (reached : Int) :
    Erases (advise programs run number definition reached)
      (Engine.advise host number definition reached) := by
  simp only [advise, Engine.advise]
  cases definition.redirector with
  | none => exact erases_pure none
  | some redirector =>
      exact (erases_consult runs redirector number _ (.values number)).bind fun _ =>
        erases_quietly _

theorem erases_exit (bound : Nat) :
    Erases (exit programs run bound) (Engine.exit host bound) := by
  induction bound with
  | zero => exact erases_throw .tooDeep
  | succ bound ih =>
      rw [Engine.exit_succ, Engine.conclude_leave]
      simp only [bind_assoc, pure_bind]
      refine erases_quietly_bind fun left => (erases_consult runs _ _ _ _).bind fun answered =>
        erases_quietly_bind fun state => ?_
      split
      · exact erases_quietly _
      · refine erases_quietly_bind fun past => ?_
        split
        · exact ih
        · exact erases_quietly _

include patience in
theorem erases_proceed (number : Nat) (definition : Definition) (stageName : Option String)
    (target : Option (String × Invocation)) :
    Erases (proceed programs run number definition stageName target)
      (Engine.proceed host number definition stageName target) := by
  cases target with
  | none =>
      refine erases_quietly_bind fun inst => ?_
      split
      · rw [← patience]
        exact erases_quietly_bind fun state => erases_exit runs _
      · exact erases_pure ()
  | some target => exact erases_quietly _

include patience in
theorem erases_stageFinished (payload : Payload) :
    Erases (stageFinished programs run payload) (Engine.stageFinished host payload) := by
  rw [Engine.stageFinished_eq]
  refine erases_quietly_bind fun received => (erases_judge runs _ _ payload).bind fun judged => ?_
  obtain ⟨number, definition, reached, stage⟩ := received
  obtain ⟨left, staged⟩ := judged
  cases staged with
  | error error => exact erases_quietly_bind fun _ => erases_pure left
  | ok staged =>
      simp only [Engine.accept_advance, bind_assoc]
      exact erases_quietly_bind fun reached => (erases_advise runs _ _ _).bind fun target =>
        (erases_proceed patience runs _ _ _ target).bind fun _ => erases_pure left

include patience in
theorem erases_deliver (number : Nat) (listeners : List Watcher) (payload : Payload) :
    Erases
      (Handle.deliver (fun _ payload => do
        enter number
        stageFinished programs run payload) listeners payload)
      (Handle.deliver (fun _ payload => Engine.stageFinished host payload) listeners payload) := by
  induction listeners generalizing payload with
  | nil => exact erases_pure payload
  | cons listener rest ih =>
      refine Erases.bind ?_ fun answered => ih answered
      exact (erases_enter number).bind fun _ => erases_stageFinished patience runs payload

include patience in
theorem erases_finishHandle (number : Nat) (output : Value) :
    Erases (finishHandle programs run number output) (Engine.finishHandle host number output) := by
  rw [Engine.finishHandle_close]
  exact erases_quietly_bind fun closed =>
    (erases_deliver patience runs number closed.1 closed.2).bind fun _ => erases_pure ()

theorem erases_callDirectly (hook : Hook) (arguments : List Value) :
    Erases (callDirectly programs run hook arguments)
      (Engine.callDirectly host hook arguments) := by
  rw [Engine.callDirectly_presented]
  exact erases_quietly_bind fun shown =>
    (erases_callHook runs hook none arguments shown).bind fun _ => erases_pure _

include modules patience in
theorem erases_perform (operation : Operation) :
    Erases (perform programs run operation) (Engine.perform host operation) := by
  have same : host.modules = (programs.host 0).modules := modules
  cases operation with
  | complete output =>
      simp only [perform, Engine.perform, Engine.complete, bind_assoc]
      refine erases_quietly_bind fun state => ?_
      cases state.dispatcher.current with
      | none => exact erases_throw .nothingToComplete
      | some number =>
          exact (erases_finishHandle patience runs number output).bind fun _ => erases_pure _
  | finish position output =>
      simp only [perform, Engine.perform, Engine.finishAt, bind_assoc]
      refine erases_quietly_bind fun state => ?_
      cases Position.offset? state.dispatcher.handles.length position with
      | none => exact erases_throw .outOfRange
      | some number =>
          exact (erases_finishHandle patience runs number output).bind fun _ => erases_pure _
  | call name role position arguments =>
      have found := erases_quietly (do Engine.lift (Registry.get (← get).registry name))
      simp only [Engine.perform]
      rw [← bind_assoc]
      exact found.bind fun definition => erases_quietly_bind fun hook =>
        (erases_callDirectly runs hook arguments).bind fun _ => erases_pure _
  | register request =>
      simp only [perform, Engine.perform, Engine.registerRequested_congr same]
      exact erases_quietly _
  | load document path fresh =>
      simp only [perform, Engine.perform, Engine.loadAll_congr same]
      exact erases_quietly _
  | _ =>
      simp only [perform, Engine.perform]
      exact erases_quietly _

end Steps

theorem erases_follow {performing : Operation → Tallied Answer}
    {engine : Operation → Engine Answer}
    (performs : ∀ operation, Erases (performing operation) (engine operation))
    (behaviour : Behaviour) (shown : Shown) :
    Erases (follow performing behaviour shown) (Engine.follow engine behaviour shown) := by
  induction behaviour generalizing shown with
  | reply answer => exact erases_pure _
  | fail failure => exact erases_throw failure
  | write key value next ih => exact erases_quietly_bind fun written => ih written
  | remove key next ih => exact erases_quietly_bind fun left => ih left
  | look next ih => exact erases_quietly_bind fun entries => ih entries shown
  | operate operation next ih =>
      exact (performs operation).outcome.bind fun outcome => ih outcome shown
  | tell event next ih => exact erases_quietly_bind fun _ => ih shown

theorem modules_host (programs : Programs) (depth : Nat) :
    (programs.host depth).modules = programs.modules := by
  cases depth <;> rfl

theorem patience_host (programs : Programs) (depth : Nat) :
    (programs.host depth).patience = programs.patience := by
  cases depth <;> rfl

/-- However deeply hooks call back, what they do is what they do without a tally. -/
theorem erases_runner (programs : Programs) (depth program : Nat) (occasion : Occasion)
    (shown : Shown) : Erases (runner programs depth program occasion shown)
      ((programs.host depth).run program occasion shown) := by
  induction depth generalizing program occasion shown with
  | zero => exact erases_throw .tooDeep
  | succ depth ih =>
      exact erases_follow (erases_perform (modules_host programs depth)
        (patience_host programs depth) ih) _ shown

theorem Erases.take {performing : Operation → Tallied Answer} {engine : Operation → Engine Answer}
    {operation : Operation} (erases : Erases (performing operation) (engine operation))
    (state : State) (tally : List Nat) :
    (Trace.take performing (state, tally) operation).after.1 =
      (Trace.take engine state operation).after := by
  have same := erases state tally
  simp only [Trace.take, Trace.outcomeOf]
  rw [← same]
  cases performing operation (state, tally) <;> rfl

/-- Without its tally, the engine that keeps one is the engine. -/
theorem final_runner (programs : Programs) (depth : Nat) (state : State) (tally : List Nat)
    (operations : List Operation) :
    (Trace.final (perform programs (runner programs depth)) (state, tally) operations).1 =
      Trace.final (Engine.perform (programs.host depth)) state operations := by
  induction operations generalizing state tally with
  | nil => rfl
  | cons operation rest ih =>
      have erases := erases_perform (modules_host programs depth) (patience_host programs depth)
        (erases_runner programs depth) operation
      rw [Trace.final, Trace.final, List.foldl_cons, List.foldl_cons, ← erases.take state tally]
      exact ih _ _

end Tallied

end Workflow
