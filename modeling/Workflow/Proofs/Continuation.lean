import Workflow.Proofs.Prompt
import Workflow.Proofs.Supply

/-!
# Continuing after a rejection

A prompt that is answered without saying not to continue leaves no trace: the instance that was put
aside for it is current again, at the same stage and with the same values, and its stage is
dispatched once more.  The argument follows the prompt from stage to stage: while it is current,
nothing below it is touched, and the engine waits for its next stage.

The stage that is dispatched again is looked up again as well.  Its workflow may have been
registered anew since it was shown, and a hook may have taken away a value to which it refers.  So
everything is as it was exactly if the arguments of the stage can still be resolved.
-/

namespace Workflow

/-- No stage refers to values that were accumulated. -/
def Definition.IsSelfContained (definition : Definition) : Prop :=
  ∀ stage ∈ definition.stages, ∀ tokens, stage.tokens = some tokens → ∀ token ∈ tokens, ∀ key,
    Token.classify token ≠ .value key

namespace Definition

variable {definition : Definition} {number : Int} {stage : Stage}

theorem IsSelfContained.resolves (selfContained : definition.IsSelfContained)
    (there : definition.stage? number = some stage) (inst : Instance) :
    ∃ arguments, Token.resolveAll inst id "" stage.tokens = .ok arguments := by
  cases resolved : Token.resolveAll inst id "" stage.tokens with
  | ok arguments => exact ⟨arguments, rfl⟩
  | error fault =>
      obtain ⟨tokens, declared, token, member, key, named, -⟩ :=
        Instance.lacks_of_unresolved resolved
      have among := mem_of_stage? there
      exact absurd named (selfContained stage among tokens declared token member key)

theorem isSelfContained_of_unmarked (unmarked : ∀ stage ∈ definition.stages,
    ∀ token ∈ stage.tokens.getD [], token.toList.head? ≠ some '!') :
    definition.IsSelfContained := by
  intro stage member tokens declared token among key classified
  have plain := unmarked stage member token (by rw [declared]; exact among)
  unfold Token.classify at classified
  split at classified
  · cases classified
  · next written =>
    rw [written] at plain
    exact plain rfl
  · cases classified

theorem exists_stage? (counted : 0 ≤ number) (unfinished : definition.isCompleteAt number = false) :
    ∃ stage, definition.stage? number = some stage := by
  rw [← Option.ne_none_iff_exists', ne_eq, definition.stage?_eq_none_iff counted, unfinished]
  exact Bool.false_ne_true

end Definition

/-- An operation completes the stage under a handle, and its output amounts to values: all keys are
texts, and all values of kinds that are accumulated. -/
def Operation.Gives (operation : Operation) (place : Nat) (values : ValueMap) : Prop :=
  ∃ output payload, operation.Completes place output ∧ Payload.ofOutput output = .ok payload ∧
    ValueMap.ofValue (.dict payload) = .ok values

/-- Operations complete one stage after the other, each with an output that amounts to values. -/
inductive Operation.Answers : Nat → List Operation → List ValueMap → Prop where
  | nil {place : Nat} : Answers place [] []
  | cons {place : Nat} {operation : Operation} {operations : List Operation} {given : ValueMap}
      {gathered : List ValueMap} (gives : operation.Gives place given)
      (further : Answers (place + 1) operations gathered) :
      Answers place (operation :: operations) (given :: gathered)

namespace State

/-- The prompt is current, and the engine waits for its next stage.  So many of its stages were
answered, and it accumulated these values; what it was put on top of is as it was. -/
structure Asks (before after : State) (asked : Nat) (prompt : Definition) (answered : Nat)
    (values : ValueMap) : Prop where
  settings : after.settings = before.settings
  registry : after.registry = before.registry
  aside : after.suspended = some asked :: before.suspended
  kept : ∀ other < before.instances.length, after.instances[other]? = before.instances[other]?
  waits : ∃ inst stage handle,
    after.Waits before.instances.length inst prompt stage
      (before.dispatcher.handles.length + answered) handle ∧
      inst.name = before.settings.cancelWorkflow ∧ inst.stage = answered ∧ inst.values = values
  made : after.instances.length = before.instances.length + 1
  activations :
    after.dispatcher.handles.length = before.dispatcher.handles.length + (answered + 1)
  deactivations : after.dispatcher.deactivations = before.dispatcher.deactivations

/-- So many stages of the prompt were answered, as in `Asks`, but the next one is not dispatched. -/
structure Advances (before ready : State) (asked : Nat) (prompt : Definition) (answered : Nat)
    (inst : Instance) : Prop extends ready.Runs before.instances.length inst prompt where
  settings : ready.settings = before.settings
  registry : ready.registry = before.registry
  aside : ready.suspended = some asked :: before.suspended
  kept : ∀ other < before.instances.length, ready.instances[other]? = before.instances[other]?
  named : inst.name = before.settings.cancelWorkflow
  running : inst.state = .running
  reached : inst.stage = answered
  made : ready.instances.length = before.instances.length + 1
  activations : ready.dispatcher.handles.length = before.dispatcher.handles.length + answered
  deactivations : ready.dispatcher.deactivations = before.dispatcher.deactivations

/-- After so many stages of a prompt everything is as it was before it: the same instance is current
with the same values, the same instances are suspended, and all instances are as they were.  The
engine waits for the same stage under a new handle.  What the prompt was told is nowhere but in the
instance of the prompt. -/
structure Continues (before after : State) (number : Nat) (inst : Instance)
    (definition : Definition) (stage : Stage) (rounds : Nat) (values : ValueMap) : Prop where
  current : after.current = before.current
  suspended : after.suspended = before.suspended
  kept : ∀ other < before.instances.length, after.instances[other]? = before.instances[other]?
  prompt : ∃ asking, after.instances[before.instances.length]? = some asking ∧
    asking.name = before.settings.cancelWorkflow ∧ asking.values = values
  made : after.instances.length = before.instances.length + 1
  waits : ∃ place handle, before.dispatcher.handles.length ≤ place ∧
    after.Waits number inst definition stage place handle ∧
      Token.resolveAll inst id "" stage.tokens = .ok handle.arguments
  activations :
    after.dispatcher.handles.length = before.dispatcher.handles.length + (rounds + 1)
  deactivations : after.dispatcher.deactivations = before.dispatcher.deactivations

/-- The engine gave up waiting, and changed nothing that counts besides. -/
structure Released (before after : State) : Prop where
  settings : after.settings = before.settings
  registry : after.registry = before.registry
  current : after.current = before.current
  suspended : after.suspended = before.suspended
  instances : after.instances = before.instances
  still : after.detached.dispatcher = after.dispatcher
  activations : after.dispatcher.handles.length = before.dispatcher.handles.length
  deactivations : after.dispatcher.deactivations = before.dispatcher.deactivations

theorem released (state : State) (place : Nat) (events : List Event) :
    state.Released ((state.finishing place).detached.reporting events) where
  settings := rfl
  registry := rfl
  current := rfl
  suspended := rfl
  instances := rfl
  still := rfl
  activations := by
    simp only [reporting, finishing, detached, Dispatcher.modifyHandle]
    cases state.held <;> simp only [List.length_modify]
  deactivations := by
    simp only [reporting, finishing, detached, Dispatcher.modifyHandle]
    cases state.held <;> rfl

end State

namespace Engine

variable {host : Host} {state before : State} {number asked answered : Nat} {inst : Instance}
  {definition prompt : Definition} {stage : Stage} {values : ValueMap}

/-- While stages of the prompt are left, the next one is dispatched. -/
theorem Advances.asks {ready : State} (poised : ready.Poised)
    (advances : before.Advances ready asked prompt answered inst)
    (selfContained : prompt.IsSelfContained) (unfinished : answered < prompt.stageCount) :
    ∃ name arguments, startStage ready = .ok () (ready.dispatched name arguments) ∧
      before.Asks (ready.dispatched name arguments) asked prompt answered inst.values := by
  have counted : 0 ≤ inst.stage := advances.reached ▸ Int.natCast_nonneg answered
  have left : prompt.isCompleteAt inst.stage = false := by
    simp only [Definition.isCompleteAt, advances.reached, decide_eq_false_iff_not]
    omega
  obtain ⟨stage, there⟩ := Definition.exists_stage? counted left
  obtain ⟨arguments, resolved⟩ := selfContained.resolves there inst
  refine ⟨stage.name, arguments, ?_, ?_⟩
  · rw [startStage_apply advances.current advances.found advances.defined there poised.remembers,
      resolved]
  · have waits := State.waits_dispatched ⟨advances.toRuns, there⟩ advances.running counted arguments
    rw [advances.activations] at waits
    exact {
      settings := advances.settings
      registry := advances.registry
      aside := advances.aside
      kept := advances.kept
      waits := ⟨inst, stage, _, waits, advances.named, advances.reached, rfl⟩
      made := advances.made
      activations := by
        rw [← Nat.add_assoc, ← advances.activations]
        exact List.length_append
      deactivations := advances.deactivations }

/-- A rejection opens the prompt at its first stage. -/
theorem Rejects.asks (contained : host.Contained) (sound : state.Sound) {operation : Operation}
    (rejects : Rejects host state operation number inst definition stage)
    (known : Registry.get state.registry state.settings.cancelWorkflow = .ok prompt)
    (staged : 0 < prompt.stageCount) (selfContained : prompt.IsSelfContained) :
    (ending (perform host operation) state).1 = none ∧
      state.Asks (ending (perform host operation) state).2 number prompt 0 .empty := by
  obtain ⟨place, text, events, held, quiet, ends⟩ := rejects.prompted contained sound
  have released := state.released place events
  have poised := (poised_finishing sound held).reporting events
  rw [ends]
  generalize (state.finishing place).detached.reporting events = waiting at released poised
  let invocation : Invocation :=
    ⟨state.settings.cancelWorkflow, some [(cancelErrorArgument, text)]⟩
  have asked : Registry.get waiting.registry invocation.name = .ok prompt := by
    rw [released.registry]
    exact known
  have current : waiting.current = some number := released.current.trans rejects.current
  have found : waiting.instances[number]? = some inst := by
    rw [released.instances]
    exact rejects.found
  have diverted := poised.toSound.diverted found (poised.apart number current) asked
  have advances : state.Advances (waiting.diverted number inst invocation) number prompt 0
      (Instance.ofInvocation invocation) := {
    current := congrArg (fun instances => some (List.length instances)) released.instances
    found := by
      rw [← released.instances]
      exact List.getElem?_concat_length
    defined := asked
    settings := released.settings
    registry := released.registry
    aside := congrArg (some number :: ·) released.suspended
    kept := by
      rw [← released.instances]
      exact fun other old => List.getElem?_append_left old
    named := rfl
    running := rfl
    reached := rfl
    made := by
      rw [← released.instances]
      exact List.length_append
    activations := by
      rw [Nat.add_zero, ← released.activations, ← released.still]
      rfl
    deactivations :=
      (congrArg Dispatcher.deactivations released.still).trans released.deactivations }
  obtain ⟨name, arguments, started, asks⟩ := Advances.asks diverted advances selfContained staged
  rw [ending, started]
  exact ⟨rfl, asks⟩

/-- An output that can be stored takes an instance of the prompt one stage further. -/
theorem ending_prompt (host : Host) (sound : state.Sound) {operation : Operation} {place : Nat}
    {payload : Payload} (hears : state.Hears operation place payload)
    (stands : state.AtStage number inst prompt stage) (isPrompt : prompt.IsPrompt)
    (stored : ValueMap.ofValue (.dict payload) = .ok values) : ∃ events,
      ending (perform host operation) state =
        ending (do startNext prompt (inst.stage + 1); exitIfComplete host number prompt)
          (((state.finishing place).detached.reporting events).forwarded number
            (inst.values.merged values) []) := by
  have told : (state.finishing place).AtStage number inst prompt stage :=
    ⟨⟨stands.current, stands.found, stands.defined⟩, stands.there⟩
  have plain := isPrompt.validators stage (Definition.mem_of_stage? stands.there)
  obtain ⟨arguments, judged⟩ :=
    judge_alwaysValid host plain payload (state.finishing place).detached
  rw [stored, mapError_ok] at judged
  let name := prompt.stageName? inst.stage
  let after := (state.finishing place).detached.reporting
    [.consulted .alwaysValid (some (number, .validate)) arguments]
  have found : after.instances[number]? = some inst := stands.found
  have finished := ending_bind_pure (accept host number prompt name values)
    (fun _ => payload) after
  refine ⟨[.accepted number name inst.stage values,
    .consulted .alwaysValid (some (number, .validate)) arguments], ?_⟩
  rw [ending_hears sound hears, ending, stageFinished_apply told, bind_apply, judged]
  refine finished.trans ?_
  rw [ending, accept_apply found (ValueMap.storable_ofValue stored)]
  have advised : advise host number prompt (inst.stage + 1) = pure none := by
    rw [advise, isPrompt.redirector]
  simp only [advised, pure_bind, proceed]
  rfl

/-- An answer takes the prompt one stage further. -/
theorem Asks.advances (sound : state.Sound)
    (asks : before.Asks state asked prompt answered values) (isPrompt : prompt.IsPrompt)
    {operation : Operation} {given : ValueMap}
    (gives : operation.Gives (before.dispatcher.handles.length + answered) given) :
    ∃ ready inst, ready.Poised ∧ before.Advances ready asked prompt (answered + 1) inst ∧
      inst.values = values.merged given ∧
      ending (perform host operation) state =
        ending (do startNext prompt inst.stage; exitIfComplete host before.instances.length prompt)
          ready := by
  obtain ⟨output, payload, completes, read, stored⟩ := gives
  obtain ⟨inst, stage, handle, waits, named, reached, rfl⟩ := asks.waits
  have hears := waits.hears completes read
  obtain ⟨events, ends⟩ := ending_prompt host sound hears waits.toAtStage isPrompt stored
  have released := state.released (before.dispatcher.handles.length + answered) events
  have poised := (poised_finishing sound hears.held).reporting events
  have runs : ((state.finishing (before.dispatcher.handles.length + answered)).detached.reporting
      events).Runs before.instances.length inst prompt :=
    ⟨waits.current, waits.found, waits.defined⟩
  rw [ends]
  generalize (state.finishing (before.dispatcher.handles.length + answered)).detached.reporting
    events = waiting at released poised runs
  refine ⟨_, { inst with values := inst.values.merged given, stage := inst.stage + 1 },
    poised.forwarded _ _ _, ?_, rfl, rfl⟩
  exact {
    toRuns := runs.forwarded (inst.values.merged given) []
    settings := released.settings.trans asks.settings
    registry := released.registry.trans asks.registry
    aside := released.suspended.trans asks.aside
    kept := by
      intro other old
      rw [← asks.kept other old, ← released.instances]
      exact List.getElem?_modify_ne _ _ (Nat.ne_of_gt old)
    named
    running := waits.running
    reached := congrArg (· + 1) reached
    made := by
      rw [← asks.made, ← released.instances]
      exact List.length_modify ..
    activations := released.activations.trans asks.activations
    deactivations := released.deactivations.trans asks.deactivations }

/-- While stages are left, an answer takes the prompt to the next one. -/
theorem Asks.next (sound : state.Sound) (asks : before.Asks state asked prompt answered values)
    (isPrompt : prompt.IsPrompt) (selfContained : prompt.IsSelfContained) {operation : Operation}
    {given : ValueMap}
    (gives : operation.Gives (before.dispatcher.handles.length + answered) given)
    (further : answered + 1 < prompt.stageCount) :
    (ending (perform host operation) state).1 = none ∧
      before.Asks (ending (perform host operation) state).2 asked prompt (answered + 1)
        (values.merged given) := by
  obtain ⟨ready, inst, poised, advances, own, ends⟩ :=
    Asks.advances sound asks isPrompt gives
  obtain ⟨name, arguments, started, next⟩ :=
    Advances.asks poised advances selfContained further
  have counted : 0 ≤ inst.stage := poised.counted _ inst advances.found
  have left : prompt.isCompleteAt inst.stage = false := by
    simp only [Definition.isCompleteAt, advances.reached, decide_eq_false_iff_not]
    omega
  have present : (ready.dispatched name arguments).instances[before.instances.length]? =
      some inst := advances.found
  have ended : ending (do startNext prompt inst.stage
                          exitIfComplete host before.instances.length prompt) ready =
      (none, ready.dispatched name arguments) := by
    simp only [ending, bind_apply, startNext, prompt.isSome_stageName? counted, left,
      Bool.not_false, started, exitIfComplete, instanceAt_apply present, Bool.false_eq_true,
      ↓reduceIte, pure_apply]
  rw [ends, ended, ← own]
  exact ⟨rfl, next⟩

/-- Where all stages of the prompt are answered, it exits. -/
theorem ending_last {ready : State} (runs : ready.Runs number inst prompt)
    (counted : 0 ≤ inst.stage) (past : prompt.isCompleteAt inst.stage = true) :
    ending (do startNext prompt inst.stage; exitIfComplete host number prompt) ready =
      ending (exit host ((ready.suspended.length + host.patience) + 1)) ready := by
  have bound : ready.suspended.length + 1 + host.patience =
      (ready.suspended.length + host.patience) + 1 := by omega
  simp only [ending, bind_apply, startNext, prompt.isSome_stageName? counted, past, Bool.not_true,
    Bool.false_eq_true, ↓reduceIte, pure_apply, exitIfComplete, instanceAt_apply runs.found,
    get_apply, bound]

/-- An instance that is restored with the values that it had is as it was. -/
theorem instances_restored (rest : List (Option Nat))
    (found : state.instances[number]? = some inst) :
    (state.restored number inst rest inst.values).instances = state.instances := by
  apply List.ext_getElem?
  intro other
  by_cases same : number = other
  · subst same
    simp [State.restored, State.recalled, State.editing, State.changing, State.reporting, found]
  · simp [State.restored, State.recalled, State.editing, State.changing, State.reporting, same]

/-- An exit that resumes an instance without a contribution dispatches its stage again. -/
theorem ending_exit_resumed (contained : host.Contained) {ready decided : State}
    (poised : ready.Poised) {asking : Instance} {place : Nat} {rest : List (Option Nat)}
    (concluded : Concluded host ready place asking prompt .null decided)
    (restoring : Restoring decided .null number inst rest definition inst.values)
    (there : definition.stage? inst.stage = some stage)
    (unfinished : inst.stage < definition.stageCount) {arguments : Option (List String)}
    (resolved : Token.resolveAll inst id "" stage.tokens = .ok arguments) (bound : Nat) :
    ending (exit host (bound + 1)) ready =
      (none, (decided.restored number inst rest inst.values).dispatched stage.name arguments) := by
  have left : definition.isCompleteAt inst.stage = false := by
    simp only [Definition.isCompleteAt, decide_eq_false_iff_not]
    exact Int.not_le.mpr unfinished
  have restored := runs_restored restoring
  have remembers := (poised_round contained poised concluded restoring).remembers
  rw [exit_resumed _ concluded restoring, left, if_neg Bool.false_ne_true, ending,
    startStage_apply restored.current restored.found restored.defined there remembers, resolved]

/-- Once the last stage of the prompt is answered, and not in the negative, everything is as it was
before the prompt. -/
theorem Asks.continues (contained : host.Contained) (sound : state.Sound)
    (asks : before.Asks state number prompt answered values) (isPrompt : prompt.IsPrompt)
    {operation : Operation} {given : ValueMap}
    (gives : operation.Gives (before.dispatcher.handles.length + answered) given)
    (last : answered + 1 = prompt.stageCount)
    (continued : (values.merged given).get? before.settings.continueKey ≠ some (.bool false))
    {place : Nat} {handle : Handle Watcher}
    (waits : before.Waits number inst definition stage place handle)
    {arguments : Option (List String)}
    (resolved : Token.resolveAll inst id "" stage.tokens = .ok arguments) :
    (ending (perform host operation) state).1 = none ∧
      before.Continues (ending (perform host operation) state).2 number inst definition stage
        prompt.stageCount (values.merged given) := by
  obtain ⟨ready, asking, poised, advances, own, ends⟩ :=
    Asks.advances sound asks isPrompt gives
  have past : prompt.isCompleteAt asking.stage = true := by
    simp only [Definition.isCompleteAt, advances.reached, decide_eq_true_eq]
    omega
  obtain ⟨decided, concluded, instances, decision⟩ :=
    concluded_decision host poised.toGrounded advances.toRuns isPrompt.acceptor advances.aside
  have conclusion := concluded.conclusion contained poised.toGrounded
  have lastAside : decided.suspended = some number :: before.suspended := by
    rw [← own, ← advances.settings] at continued
    cases decision with
    | declined declines => exact absurd declines continued
    | continued keeps lastAside => exact lastAside
  have kept : ∀ other < before.instances.length,
      decided.instances[other]? = before.instances[other]? := by
    intro other old
    rw [conclusion.others other (Nat.ne_of_lt old), advances.kept other old]
  have prompted : decided.instances[before.instances.length]? =
      some { asking with state := .finished } := by
    rw [instances]
    simp [State.exiting, State.changing, State.reporting, advances.found]
  have restoring : Restoring decided .null number inst before.suspended definition inst.values := {
    lastAside
    found := (kept number (List.getElem?_eq_some_iff.mp waits.found).1).trans waits.found
    defined := by
      rw [conclusion.registry, advances.registry]
      exact waits.defined
    merged := rfl }
  have same := instances_restored before.suspended restoring.found
  have activations : decided.dispatcher.handles.length =
      before.dispatcher.handles.length + prompt.stageCount := by
    rw [conclusion.dispatcher, advances.activations, last]
  rw [ends, ending_last advances.toRuns (poised.counted _ asking advances.found) past,
    ending_exit_resumed contained poised concluded restoring waits.there waits.unfinished resolved]
  exact ⟨rfl, {
    current := waits.current.symm
    suspended := rfl
    kept := by
      intro other old
      rw [← kept other old]
      exact congrArg (·[other]?) same
    prompt := ⟨_, (congrArg (·[before.instances.length]?) same).trans prompted, advances.named, own⟩
    made := (congrArg List.length same).trans (conclusion.length.trans advances.made)
    waits := by
      exact ⟨decided.dispatcher.handles.length, _, by omega, State.waits_dispatched
        ⟨runs_restored restoring, waits.there⟩ waits.running waits.counted arguments, resolved⟩
    activations := by
      rw [← Nat.add_assoc, ← activations]
      exact List.length_append
    deactivations := (congrArg Dispatcher.deactivations conclusion.dispatcher).trans
      advances.deactivations }⟩

theorem controls_of_hears {operation : Operation} {place : Nat} {payload : Payload}
    (hears : state.Hears operation place payload) : operation.controls = true := by
  obtain ⟨output, given, -⟩ := hears.given
  cases operation <;> first | rfl | cases given

theorem controls_of_gives {operation : Operation} {place : Nat}
    (gives : operation.Gives place values) : operation.controls = true := by
  obtain ⟨output, payload, completes, -⟩ := gives
  cases completes <;> rfl

/-- Answering all stages of the prompt leads back to what was before it. -/
theorem Asks.continues_of_answers (contained : host.Contained) (isPrompt : prompt.IsPrompt)
    (selfContained : prompt.IsSelfContained) {place : Nat} {handle : Handle Watcher}
    (waits : before.Waits number inst definition stage place handle)
    {arguments : Option (List String)}
    (resolved : Token.resolveAll inst id "" stage.tokens = .ok arguments)
    {operations : List Operation} {gathered : List ValueMap} {next : Nat}
    (answers : Operation.Answers next operations gathered) (sound : state.Sound)
    (asks : before.Asks state number prompt answered values)
    (shown : next = before.dispatcher.handles.length + answered)
    (unfinished : answered < prompt.stageCount)
    (all : answered + operations.length = prompt.stageCount)
    (continued : (gathered.foldl ValueMap.merged values).get? before.settings.continueKey ≠
      some (.bool false)) :
    (∀ taken ∈ Trace.run (perform host) state operations, taken.outcome.isOk = true) ∧
      before.Continues (Trace.final (perform host) state operations) number inst definition stage
        prompt.stageCount (gathered.foldl ValueMap.merged values) := by
  induction answers generalizing state answered values with
  | nil => simp only [List.length_nil] at all; omega
  | @cons next operation operations given gathered gives further ih =>
      subst shown
      have passage := take_passage contained sound (controls_of_gives gives)
      rcases Nat.lt_or_eq_of_le (Nat.succ_le_of_lt unfinished) with more | last
      · obtain ⟨ended, asks⟩ := Asks.next sound asks isPrompt selfContained gives more
        rw [← after_take] at asks
        obtain ⟨others, continues⟩ := ih (passage.sound contained sound) asks rfl more
          (by simp only [List.length_cons] at all; omega) continued
        exact ⟨List.forall_mem_cons.mpr ⟨(outcome_take operation).mp ended, others⟩, continues⟩
      · simp only [List.length_cons] at all
        have done : operations = [] := List.length_eq_zero_iff.mp (by omega)
        subst done
        cases further with
        | nil =>
            obtain ⟨ended, continues⟩ :=
              Asks.continues contained sound asks isPrompt gives last continued waits resolved
            rw [← after_take] at continues
            exact ⟨List.forall_mem_singleton.mpr ((outcome_take operation).mp ended), continues⟩

/-- An engine waits for a stage and is given an output that is rejected.  Then all stages of its own
prompt are answered, one after the other, and not in the negative. -/
structure Reconsiders (host : Host) (state : State) (number : Nat) (inst : Instance)
    (definition : Definition) (stage : Stage) (prompt : Definition) (operation : Operation)
    (operations : List Operation) (values : ValueMap) : Prop where
  waits : ∃ place handle, state.Waits number inst definition stage place handle
  rejects : Rejects host state operation number inst definition stage
  known : Registry.get state.registry state.settings.cancelWorkflow = .ok prompt
  isPrompt : prompt.IsPrompt
  selfContained : prompt.IsSelfContained
  answers : ∃ gathered, Operation.Answers state.dispatcher.handles.length operations gathered ∧
    gathered.foldl ValueMap.merged .empty = values
  all : operations.length = prompt.stageCount
  continued : values.get? state.settings.continueKey ≠ some (.bool false)

/-- Rejecting an output and then continuing changes nothing, exactly if the arguments of the stage
can be resolved once more.  Then all operations return, the engine waits for the same stage of the
same instance after them, and everything else is as it was. -/
theorem continues_iff_resolves (contained : host.Contained) (sound : state.Sound)
    {operation : Operation} {operations : List Operation}
    (reconsiders : Reconsiders host state number inst definition stage prompt operation operations
      values) :
    ((∀ taken ∈ Trace.run (perform host) state (operation :: operations),
        taken.outcome.isOk = true) ∧
      state.Continues (Trace.final (perform host) state (operation :: operations)) number inst
        definition stage prompt.stageCount values) ↔
      ∃ arguments, Token.resolveAll inst id "" stage.tokens = .ok arguments := by
  constructor
  · rintro ⟨-, continues⟩
    obtain ⟨place, handle, -, -, resolved⟩ := continues.waits
    exact ⟨handle.arguments, resolved⟩
  · rintro ⟨arguments, resolved⟩
    obtain ⟨place, handle, waits⟩ := reconsiders.waits
    obtain ⟨gathered, answers, rfl⟩ := reconsiders.answers
    have isPrompt := reconsiders.isPrompt
    obtain ⟨ended, asks⟩ := reconsiders.rejects.asks contained sound reconsiders.known
      isPrompt.staged reconsiders.selfContained
    obtain ⟨heard, payload, shown, answer, verdict, reached, hears, -⟩ :=
      reconsiders.rejects.refused
    have passage := take_passage contained sound (controls_of_hears hears)
    rw [← after_take] at asks
    obtain ⟨others, continues⟩ := Asks.continues_of_answers contained isPrompt
      reconsiders.selfContained waits resolved answers (passage.sound contained sound) asks rfl
      isPrompt.staged ((Nat.zero_add _).trans reconsiders.all) reconsiders.continued
    exact ⟨List.forall_mem_cons.mpr ⟨(outcome_take operation).mp ended, others⟩, continues⟩

/-- A stage without a validator of its own rejects what cannot be stored. -/
theorem rejects_unstorable {place : Nat} {handle : Handle Watcher}
    (waits : state.Waits number inst definition stage place handle)
    (plain : stage.validator = .alwaysValid) {payload : Payload} (unstorable : ¬ payload.Storable) :
    Rejects host state (.complete (.dict payload)) number inst definition stage where
  toAtStage := waits.toAtStage
  refused := by
    have read : Payload.ofOutput (.dict payload) = .ok payload := by cases payload <;> rfl
    have consulted (asked : State) :
        consult host stage.validator number .validate (.output payload) asked =
          .ok (.output payload, ReadyHook.verdict true (.text ""))
            (asked.consulting .alwaysValid number .validate (.output payload)) := by
      rw [plain]
      rfl
    exact ⟨place, payload, _, _, ⟨true, .text ""⟩, _, waits.hears .shown read, consulted _, rfl,
      .inr ⟨rfl, unstorable⟩⟩

end Engine

/-- An output whose only key is a number. -/
def Payload.numbered : Payload := [(.int 1, .null)]

theorem Payload.not_storable_numbered : ¬ numbered.Storable := by
  intro storable
  obtain ⟨key, text, -⟩ := storable _ List.mem_cons_self
  cases text

namespace Detour

def prompt : Definition :=
  ⟨"__CancelRequest", [⟨"CancelRequest", some ["error"], .alwaysValid⟩], .cancelDecision, none⟩

theorem isPrompt_prompt : prompt.IsPrompt where
  acceptor := rfl
  redirector := rfl
  validators := by
    intro stage member
    cases List.mem_singleton.mp member
    rfl
  staged := by decide

theorem selfContained_prompt : prompt.IsSelfContained :=
  Definition.isSelfContained_of_unmarked (by decide)

/-- A trip of two stages, of which the first is dispatched. -/
def going : List Operation :=
  [.register { name := "Trip", plan := "Go;Return" }, .invoke (.text "Trip") false]

def trip : Definition :=
  ⟨"Trip", [⟨"Go", none, .alwaysValid⟩, ⟨"Return", none, .alwaysValid⟩], .identityAcceptor, none⟩

theorem waits_going : ∃ inst place handle,
    (Trace.final (Engine.perform host) start going).Waits 0 inst trip ⟨"Go", none, .alwaysValid⟩
      place handle := by
  have shows : (Trace.final (Engine.perform host) start going).Shows 0 "Trip" 0 trip
      ⟨"Go", none, .alwaysValid⟩ 0 := by decide +kernel
  obtain ⟨inst, handle, waits, -⟩ := shows.waits
  exact ⟨inst, 0, handle, waits⟩

/-- What the trip is told at first cannot be stored. -/
theorem rejects_going {inst : Instance} {place : Nat} {handle : Handle Watcher}
    (waits : (Trace.final (Engine.perform host) start going).Waits 0 inst trip
      ⟨"Go", none, .alwaysValid⟩ place handle) :
    Engine.Rejects host (Trace.final (Engine.perform host) start going)
      (.complete (.dict [(.int 1, .null)])) 0 inst trip ⟨"Go", none, .alwaysValid⟩ :=
  Engine.rejects_unstorable waits rfl Payload.not_storable_numbered

end Detour

/-! ## An errand

The second stage of an errand refers to what was told at the first one. -/

namespace Errand

/-- A host all of whose hooks behave alike. -/
def host (behaviour : Behaviour) : Host :=
  ({ behaviour := fun _ _ => behaviour } : Programs).host 1

theorem contained {behaviour : Behaviour} (keeps : behaviour.KeepsToMapping) :
    (host behaviour).Contained :=
  Programs.contained_host (fun _ _ => keeps) 1

/-- A redirector that declines. -/
def declining : Behaviour := .reply .null

/-- A redirector that takes away what was told, once the stage that refers to it is dispatched. -/
def forgetting : Behaviour := .remove (.text "who") (.reply .null)

/-- A validator that has the stage taken off the display before it rejects the output. -/
def meddling : Behaviour :=
  .operate .deactivate fun _ => .reply (.tuple [.bool false, .text "no"])

def told : List Operation :=
  [.register
      { name := "Errand", plan := "Ask;Go(!who)", redirector := .custom 0 .redirector "hook" },
    .invoke (.text "Errand") false, .complete (.dict [(.text "who", .text "Ann")])]

def errand : Definition :=
  ⟨"Errand", [⟨"Ask", none, .alwaysValid⟩, ⟨"Go", some ["!who"], .alwaysValid⟩],
    .identityAcceptor, some (.custom 0 .redirector "hook" 0)⟩

/-- An engine whose prompt has two stages. -/
def start : State := (Engine.ending (Engine.initial {} (some "Why(error);Sure")) {}).2

theorem built : start.FreshlyBuilt := ⟨[], {}, some "Why(error);Sure", .inMemory, 0, rfl⟩

def prompt : Definition :=
  ⟨"__CancelRequest", [⟨"Why", some ["error"], .alwaysValid⟩, ⟨"Sure", none, .alwaysValid⟩],
    .cancelDecision, none⟩

theorem isPrompt_prompt : prompt.IsPrompt where
  acceptor := rfl
  redirector := rfl
  validators := by decide
  staged := by decide

theorem selfContained_prompt : prompt.IsSelfContained :=
  Definition.isSelfContained_of_unmarked (by decide)

/-- The workflow is registered anew with a stage that refers to something, while its stage is
shown. -/
def renewed : List Operation :=
  [.register { name := "Errand", plan := "Go" }, .invoke (.text "Errand") false,
    .register { name := "Errand", plan := "Go(!who)" }]

/-- The errand has a validator of its own. -/
def watched : List Operation :=
  [.register { name := "Errand", plan := "Go", validators := [.custom 0 .validator "hook"] },
    .invoke (.text "Errand") false]

/-- An output is rejected and the prompt of one stage is answered with nothing, and yet not
everything is as it was. -/
def Lost (host : Host) (state : State) (definition : Definition) (stage : Stage)
    (output : Value) : Prop :=
  ∃ inst, Engine.Reconsiders host state 0 inst definition stage Detour.prompt (.complete output)
      [.complete (.dict [])] .empty ∧
    ¬ state.Continues (Trace.final (Engine.perform host) state
      [.complete output, .complete (.dict [])]) 0 inst definition stage 1 .empty

section Lost

variable {state : State} {inst : Instance} {definition : Definition} {stage : Stage} {place : Nat}
  {handle : Handle Watcher} (waits : state.Waits 0 inst definition stage place handle)
  (known : (Registry.get state.registry state.settings.cancelWorkflow).toOption =
    some Detour.prompt)
include waits known

theorem reconsiders {host : Host} {output : Value}
    (rejects : Engine.Rejects host state (.complete output) 0 inst definition stage) :
    Engine.Reconsiders host state 0 inst definition stage Detour.prompt (.complete output)
      [.complete (.dict [])] .empty where
  waits := ⟨place, handle, waits⟩
  rejects := rejects
  known := eq_ok_of_toOption known
  isPrompt := Detour.isPrompt_prompt
  selfContained := Detour.selfContained_prompt
  answers := ⟨[.empty], .cons ⟨.dict [], [], .shown, rfl, rfl⟩ .nil, rfl⟩
  all := rfl
  continued := nofun

/-- Where the engine waits for nothing in the end, it does not continue. -/
theorem lost_of_released (plain : stage.validator = .alwaysValid) (host : Host)
    (released : (Trace.final (Engine.perform host) state
      [.complete (.dict Payload.numbered), .complete (.dict [])]).held = none) :
    Lost host state definition stage (.dict Payload.numbered) := by
  have rejects : Engine.Rejects host state (.complete (.dict Payload.numbered)) 0 inst definition
      stage := Engine.rejects_unstorable waits plain Payload.not_storable_numbered
  refine ⟨inst, reconsiders waits known rejects, ?_⟩
  intro continues
  obtain ⟨place, handle, -, waits, -⟩ := continues.waits
  cases released.symm.trans waits.held

end Lost

theorem rejects_meddled {state : State} {inst : Instance} {definition : Definition} {place : Nat}
    {handle : Handle Watcher}
    (waits : state.Waits 0 inst definition ⟨"Go", none, .custom 0 .validator "hook" 0⟩ place
      handle) : Engine.Rejects (host meddling) state (.complete (.dict [])) 0 inst definition
        ⟨"Go", none, .custom 0 .validator "hook" 0⟩ where
  toAtStage := waits.toAtStage
  refused :=
    ⟨place, [], _, _, ⟨false, .text "no"⟩, _, waits.hears .shown rfl, rfl, rfl,
      .inl ⟨rfl, "no", rfl⟩⟩

end Errand

namespace Engine

/-- What follows a rejection is lost in three ways: a hook took away the value to which the stage
refers, the workflow was registered anew with another one, or the validator takes the stage off the
display. -/
theorem lost_errand :
    let forgetful := Errand.host Errand.forgetting
    let careless := Errand.host Errand.declining
    let meddlesome := Errand.host Errand.meddling
    let forgotten := Trace.final (perform forgetful) Detour.start Errand.told
    let renewed := Trace.final (perform careless) Detour.start Errand.renewed
    let watched := Trace.final (perform meddlesome) Detour.start Errand.watched
    (forgetful.Contained ∧ forgotten.WellFormed ∧
      Errand.Lost forgetful forgotten Errand.errand ⟨"Go", some ["!who"], .alwaysValid⟩
        (.dict Payload.numbered)) ∧
      (careless.Contained ∧ renewed.Sound ∧
        Errand.Lost careless renewed
          ⟨"Errand", [⟨"Go", some ["!who"], .alwaysValid⟩], .identityAcceptor, none⟩
          ⟨"Go", some ["!who"], .alwaysValid⟩ (.dict Payload.numbered)) ∧
      watched.suspended = [] ∧
        Errand.Lost meddlesome watched
          ⟨"Errand", [⟨"Go", none, .custom 0 .validator "hook" 0⟩], .identityAcceptor, none⟩
          ⟨"Go", none, .custom 0 .validator "hook" 0⟩ (.dict []) := by
  intro forgetful careless meddlesome forgotten renewed watched
  have forgets : forgetful.Contained := Errand.contained trivial
  have cares : careless.Contained := Errand.contained trivial
  refine ⟨⟨forgets, ?_, ?_⟩, ⟨cares, ?_, ?_⟩, by decide +kernel, ?_⟩
  · exact wellFormed_of_orderly forgets Detour.built (by decide +kernel)
  · have shows : forgotten.Shows 0 "Errand" 1 Errand.errand
        ⟨"Go", some ["!who"], .alwaysValid⟩ 1 := by decide +kernel
    obtain ⟨inst, handle, waits, -⟩ := shows.waits
    exact Errand.lost_of_released waits (by decide +kernel) rfl forgetful (by decide +kernel)
  · exact sound_final cares Detour.built.sound (by decide)
  · have shows : renewed.Shows 0 "Errand" 0
        ⟨"Errand", [⟨"Go", some ["!who"], .alwaysValid⟩], .identityAcceptor, none⟩
        ⟨"Go", some ["!who"], .alwaysValid⟩ 0 := by decide +kernel
    obtain ⟨inst, handle, waits, -⟩ := shows.waits
    exact Errand.lost_of_released waits (by decide +kernel) rfl careless (by decide +kernel)
  · have shows : watched.Shows 0 "Errand" 0
        ⟨"Errand", [⟨"Go", none, .custom 0 .validator "hook" 0⟩], .identityAcceptor, none⟩
        ⟨"Go", none, .custom 0 .validator "hook" 0⟩ 0 := by decide +kernel
    obtain ⟨inst, handle, waits, -⟩ := shows.waits
    refine ⟨inst, Errand.reconsiders waits (by decide +kernel) (Errand.rejects_meddled waits), ?_⟩
    intro continues
    have moved : (Trace.final (perform meddlesome) watched
        [.complete (.dict []), .complete (.dict [])]).dispatcher.deactivations ≠
          watched.dispatcher.deactivations := by decide +kernel
    exact moved continues.deactivations

/-- The errand goes on after its prompt was answered at both stages, and the engine shows again for
whom it is. -/
theorem continues_iff_resolves_errand :
    let host := Errand.host Errand.declining
    let state := Trace.final (perform host) Errand.start Errand.told
    ∃ inst, state.instances[0]? = some inst ∧
      Token.resolveAll inst id "" (some ["!who"]) = .ok (some ["Ann"]) ∧
      state.Continues (Trace.final (perform host) state
        [.complete (.dict Payload.numbered), .complete (.dict [(.text "why", .text "typo")]),
          .finish 3 (.dict [(.text "continue", .bool true)])]) 0 inst Errand.errand
        ⟨"Go", some ["!who"], .alwaysValid⟩ 2
          ⟨[("why", .text "typo"), ("continue", .bool true)]⟩ := by
  intro host state
  have contained : host.Contained := Errand.contained trivial
  have sound : state.Sound := sound_final contained Errand.built.sound (by decide)
  have shows : state.Shows 0 "Errand" 1 Errand.errand ⟨"Go", some ["!who"], .alwaysValid⟩ 1 := by
    decide +kernel
  obtain ⟨inst, handle, waits, -⟩ := shows.waits
  have shown : state.dispatcher.handles.length = 2 := by decide +kernel
  have named : state.settings.continueKey = "continue" := by decide +kernel
  have looked : state.instances[0]?.map
      (fun inst => (Token.resolveAll inst id "" (some ["!who"])).toOption) =
        some (some (some ["Ann"])) := by decide +kernel
  rw [waits.found, Option.map_some, Option.some.injEq] at looked
  have resolved := eq_ok_of_toOption looked
  have answers : Operation.Answers state.dispatcher.handles.length
      [.complete (.dict [(.text "why", .text "typo")]),
        .finish 3 (.dict [(.text "continue", .bool true)])]
      [⟨[("why", .text "typo")]⟩, ⟨[("continue", .bool true)]⟩] := by
    rw [shown]
    exact .cons ⟨_, _, .shown, rfl, rfl⟩ (.cons ⟨_, _, .numbered, rfl, rfl⟩ .nil)
  obtain ⟨-, continues⟩ := (continues_iff_resolves contained sound {
    waits := ⟨1, handle, waits⟩
    rejects := rejects_unstorable waits rfl Payload.not_storable_numbered
    known := eq_ok_of_toOption (by decide +kernel)
    isPrompt := Errand.isPrompt_prompt
    selfContained := Errand.selfContained_prompt
    answers := ⟨_, answers, rfl⟩
    all := rfl
    continued := by
      rw [named]
      exact nofun }).mpr ⟨_, resolved⟩
  exact ⟨inst, waits.found, resolved, continues⟩

end Engine

end Workflow
