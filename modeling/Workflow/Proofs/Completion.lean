import Workflow.Proofs.Exit
import Workflow.Proofs.Merging

/-!
# Completions of a stage

When the engine is told the output of the stage that it waited for, it judges the output, moves the
current instance on or puts it aside, and perhaps ends it.  `Completion` lists what this can come
to, so that whatever is true of every completion can be read off a few named states.
-/

namespace Workflow

/-- A stage that is counted from the first one has a name exactly if it is not past the last. -/
theorem Definition.isSome_stageName? (definition : Definition) {number : Int}
    (counted : 0 ≤ number) :
    (definition.stageName? number).isSome = !definition.isCompleteAt number := by
  have inRange : number.toNat < definition.stages.length ↔
      ¬ (definition.stages.length : Int) ≤ number := by omega
  rw [stageName?, if_pos counted, Option.isSome_map, isCompleteAt, stageCount, ← decide_not,
    Bool.eq_iff_iff, Option.isSome_iff_ne_none, ne_eq, List.getElem?_eq_none_iff, Nat.not_le,
    decide_eq_true_iff, inRange]

/-- A stage that is counted from the first one and is there is not past the last one. -/
theorem Definition.lt_stageCount {definition : Definition} {number : Int} {stage : Stage}
    (counted : 0 ≤ number) (there : definition.stage? number = some stage) :
    number < definition.stageCount := by
  simp only [stage?, Position.item?, Position.offset?, counted, ↓reduceIte,
    Option.bind_some] at there
  have inRange := (List.getElem?_eq_some_iff.mp there).1
  simp only [stageCount]
  omega

theorem Definition.mem_of_stage? {definition : Definition} {number : Int} {stage : Stage}
    (there : definition.stage? number = some stage) : stage ∈ definition.stages := by
  obtain ⟨offset, -, found⟩ := Option.bind_eq_some_iff.mp there
  exact List.mem_of_getElem? found

/-- The current instance stands at a stage that its definition has. -/
structure State.AtStage (state : State) (number : Nat) (inst : Instance) (definition : Definition)
    (stage : Stage) : Prop extends state.Runs number inst definition where
  there : definition.stage? inst.stage = some stage

/-- What dispatching the stage of the current instance can come to. -/
inductive State.Started (state : State) : Option Failure × State → Prop where
  | dispatched {number : Nat} {inst : Instance} {definition : Definition} {stage : Stage}
      {arguments : Option (List String)} (stands : state.AtStage number inst definition stage)
      (resolved : Token.resolveAll inst id "" stage.tokens = .ok arguments) :
      Started state (none, state.dispatched stage.name arguments)
  | failed {failure : Failure} : Started state (some failure, state)

theorem Event.quiet_consulted (hook : Hook) (number : Nat) {question : Question}
    (arguments : List Value) (other : question ≠ .accept) :
    Quiet [.consulted hook (some (number, question)) arguments] := by
  cases question with
  | validate => rfl
  | accept => exact absurd rfl other
  | redirect stage next valid => rfl

/-- A hook that is shown an output adds to the journal and does nothing else. -/
theorem Shown.Touched.reporting {payload : Payload} {state reached : State} {hook : Hook}
    {number : Nat} {question : Question} (other : question ≠ .accept)
    (touched : (Shown.output payload).Touched
      (state.consulting hook number question (.output payload)) reached) :
    ∃ events, Event.Quiet events ∧ reached = state.reporting events := by
  obtain ⟨edit, remarks, plain, rfl⟩ := touched
  refine ⟨remarks ++ [.consulted hook (some (number, question))
    (question.arguments (.dict ((Shown.output payload).seen state)))], ?_, ?_⟩
  · exact (Event.quiet_remarks plain).append (Event.quiet_consulted hook number _ other)
  · rw [Shown.editing, State.consulting, State.reporting, State.reporting, State.reporting,
      List.append_assoc]

/-- What a validator accepts can be stored. -/
theorem Verdict.storable_stage {verdict : Verdict} {payload : Payload} {values : ValueMap}
    (accepted : verdict.stage payload = .ok values) : values.Storable := by
  simp only [stage] at accepted
  split at accepted
  · cases built : ValueMap.ofValue (.dict payload) with
    | error fault => simp [built] at accepted
    | ok map =>
        simp only [built, Engine.mapError_ok, Except.ok.injEq] at accepted
        exact accepted ▸ ValueMap.storable_ofValue built
  · cases accepted

/-- The current instance is one stage further, and its next stage is dispatched if there is one. -/
inductive State.Forwarded (state : State) (number : Nat) (inst : Instance)
    (definition : Definition) : State → Prop where
  | last {values : ValueMap} {events : List Event} (quiet : Event.Quiet events)
      (past : definition.isCompleteAt (inst.stage + 1) = true) :
      Forwarded state number inst definition (state.forwarded number values events)
  | dispatched {values : ValueMap} {earlier later : List Event} {stage : Stage}
      {arguments : Option (List String)} (quietBefore : Event.Quiet earlier)
      (quietAfter : Event.Quiet later) (there : definition.stage? (inst.stage + 1) = some stage) :
      Forwarded state number inst definition
        (((state.forwarded number values earlier).dispatched stage.name arguments).reporting later)

/-- What the redirector leaves behind is still a state in which the instance is one stage
further. -/
theorem State.Forwarded.touched {state : State} {number : Nat} {inst : Instance}
    {definition : Definition} {advanced reached : State} {events : List Event}
    (forwarded : state.Forwarded number inst definition advanced) (quiet : Event.Quiet events)
    (touched : (Shown.values number).Touched (advanced.reporting events) reached) :
    state.Forwarded number inst definition reached := by
  obtain ⟨edit, remarks, plain, rfl⟩ := touched
  have quietAfter := (Event.quiet_remarks plain).append quiet
  cases forwarded with
  | @last values earlier quietBefore past =>
      have last : state.Forwarded number inst definition
          (state.forwarded number (edit values) (remarks ++ events ++ earlier)) :=
        .last (quietAfter.append quietBefore) past
      simpa [State.forwarded, State.changing, State.reporting, Shown.editing, State.editing,
        List.modify_modify_eq, Function.comp_def] using last
  | @dispatched values earlier later stage arguments quietBefore quietLater there =>
      have dispatched : state.Forwarded number inst definition
          (((state.forwarded number (edit values) earlier).dispatched stage.name
            arguments).reporting (remarks ++ events ++ later)) :=
        .dispatched quietBefore (quietAfter.append quietLater) there
      simpa [State.forwarded, State.changing, State.reporting, Shown.editing, State.editing,
        State.dispatched, List.modify_modify_eq, Function.comp_def] using dispatched

theorem State.Runs.forwarded {state : State} {number : Nat} {inst : Instance}
    {definition : Definition} (runs : state.Runs number inst definition) (values : ValueMap)
    (events : List Event) :
    (state.forwarded number values events).Runs number
      { inst with values, stage := inst.stage + 1 } definition where
  current := runs.current
  found := by simp [State.forwarded, State.changing, State.reporting, runs.found]
  defined := runs.defined

namespace State.Forwarded

variable {state reached : State} {number : Nat} {inst : Instance} {definition : Definition}

theorem grounded (grounded : state.Grounded)
    (forwarded : state.Forwarded number inst definition reached) : reached.Grounded := by
  cases forwarded with
  | last quiet past => exact grounded.forwarded _ _ _
  | dispatched quietBefore quietAfter there =>
      exact ((grounded.forwarded _ _ _).dispatched _ _).reporting _

theorem runs (runs : state.Runs number inst definition)
    (forwarded : state.Forwarded number inst definition reached) :
    ∃ values, reached.Runs number { inst with values, stage := inst.stage + 1 } definition := by
  cases forwarded with
  | @last values events quiet past => exact ⟨values, runs.forwarded values events⟩
  | @dispatched values earlier later stage arguments quietBefore quietAfter there =>
      obtain ⟨current, found, defined⟩ := runs.forwarded values earlier
      exact ⟨values, current, found, defined⟩

/-- An instance that is past its last stage has no next stage that was dispatched. -/
theorem last_of_over (counted : 0 ≤ inst.stage)
    (past : definition.isCompleteAt (inst.stage + 1) = true)
    (forwarded : state.Forwarded number inst definition reached) :
    ∃ values events, Event.Quiet events ∧ reached = state.forwarded number values events := by
  cases forwarded with
  | last quiet => exact ⟨_, _, quiet, rfl⟩
  | dispatched quietBefore quietAfter there =>
      have before := Definition.lt_stageCount (Int.add_nonneg counted (by decide)) there
      simp only [Definition.isCompleteAt, decide_eq_true_eq] at past
      exact absurd before (Int.not_lt.mpr past)

end State.Forwarded

/-- What a verdict amounts to once it is taken down: the values of an output, or an error that can
be written. -/
def Verdict.settle (verdict : Verdict) (payload : Payload) :
    Except ValueFault (Except Value ValueMap) :=
  match verdict.stage payload with
  | .ok values => .ok (.ok values)
  | .error error => if error.isWritable then .ok (.error error) else .error .unwritable

theorem Verdict.settle_eq_ok_iff {verdict : Verdict} {payload : Payload}
    {staged : Except Value ValueMap} : verdict.settle payload = .ok staged ↔
      verdict.stage payload = staged ∧
        ∀ error, staged = .error error → error.isWritable = true := by
  rw [settle]
  cases verdict.stage payload with
  | ok values =>
      simp only [Except.ok.injEq]
      constructor
      · rintro rfl
        exact ⟨rfl, nofun⟩
      · exact fun same => same.1
  | error error =>
      simp only
      cases writable : error.isWritable with
      | true =>
          simp only [↓reduceIte, Except.ok.injEq]
          constructor
          · rintro rfl
            exact ⟨rfl, fun other same => Except.error.inj same ▸ writable⟩
          · exact fun same => same.1
      | false =>
          simp only [Bool.false_eq_true, ↓reduceIte, reduceCtorEq, false_iff, not_and]
          rintro rfl wrote
          cases (wrote error rfl).symm.trans writable

/-- Has an output judged: the output as the validator left it, and the values that it amounts to or
the error with which it is rejected. -/
def Engine.judge (host : Host) (number : Nat) (stage : Stage) (payload : Payload) :
    Engine (Payload × Except Value ValueMap) := do
  let (shown, answer) ← consult host stage.validator number .validate (.output payload)
  let verdict ← lift ((Verdict.ofAnswer answer).mapError Failure.value)
  let staged ← lift ((verdict.settle shown.payload).mapError Failure.value)
  return (shown.payload, staged)

/-- What the completion of a stage can come to, from the state in which the engine waits for nothing
any more. -/
inductive Engine.Completion (host : Host) (state : State) : Option Failure × State → Prop where
  /-- The output is not judged. -/
  | unjudged {failure : Failure} {events : List Event} (quiet : Event.Quiet events) :
      Completion host state (some failure, state.reporting events)
  /-- The output is rejected with something that is no message. -/
  | unworded {number : Nat} {inst : Instance} {definition : Definition} {stage : Stage}
      {failure : Failure} {events : List Event}
      (stands : state.AtStage number inst definition stage) (quiet : Event.Quiet events)
      (wordless : ∃ payload left error reached, judge host number stage payload state =
        .ok (left, .error error) reached ∧ rejectionText error = .error failure) :
      Completion host state (some failure, (state.reporting events).asided number inst)
  /-- The output is rejected, and the user is asked whether to continue. -/
  | prompted {number : Nat} {inst : Instance} {definition : Definition} {stage : Stage}
      {invocation : Invocation} {events : List Event} {result : Option Failure × State}
      (stands : state.AtStage number inst definition stage) (quiet : Event.Quiet events)
      (named : invocation.name = state.settings.cancelWorkflow)
      (started : ((state.reporting events).diverted number inst invocation).Started result) :
      Completion host state result
  /-- The next stage cannot be dispatched. -/
  | stuck {number : Nat} {inst : Instance} {definition : Definition} {stage : Stage}
      {failure : Failure} {values : ValueMap} {events : List Event}
      (stands : state.AtStage number inst definition stage) (quiet : Event.Quiet events) :
      Completion host state (some failure, state.forwarded number values events)
  /-- The redirector does not answer, or names nothing that could be started. -/
  | misdirected {number : Nat} {inst : Instance} {definition : Definition} {stage : Stage}
      {failure : Failure} {reached : State} (stands : state.AtStage number inst definition stage)
      (forwarded : state.Forwarded number inst definition reached) :
      Completion host state (some failure, reached)
  /-- The redirector names another workflow. -/
  | redirected {number : Nat} {inst later : Instance} {definition target : Definition}
      {stage : Stage} {invocation : Invocation} {events : List Event} {reached : State}
      {result : Option Failure × State} (stands : state.AtStage number inst definition stage)
      (forwarded : state.Forwarded number inst definition reached)
      (found : reached.instances[number]? = some later)
      (known : Registry.get reached.registry invocation.name = .ok target)
      (quiet : Event.Quiet events)
      (started : ((reached.reporting events).diverted number later invocation).Started result) :
      Completion host state result
  /-- The workflow goes on with its next stage. -/
  | carried {number : Nat} {inst : Instance} {definition : Definition} {stage : Stage}
      {reached : State} (stands : state.AtStage number inst definition stage)
      (forwarded : state.Forwarded number inst definition reached)
      (unfinished : definition.isCompleteAt (inst.stage + 1) = false) :
      Completion host state (none, reached)
  /-- The workflow is over. -/
  | ended {number : Nat} {inst : Instance} {definition : Definition} {stage : Stage}
      {values : ValueMap} {events : List Event} {result : Option Failure × State}
      (stands : state.AtStage number inst definition stage) (quiet : Event.Quiet events)
      (past : definition.isCompleteAt (inst.stage + 1) = true)
      (exits : Exit host (state.forwarded number values events) result) :
      Completion host state result

namespace Engine

variable {host : Host} {payload : Payload} {state : State} {number : Nat} {inst : Instance}
  {definition : Definition} {stage : Stage}

/-- Dispatches the stage that was reached, if there is one. -/
def startNext (definition : Definition) (reached : Int) : Engine Unit :=
  if (definition.stageName? reached).isSome then startStage else pure ()

/-- Asks the redirector, if there is one, for another workflow. -/
def advise (host : Host) (number : Nat) (definition : Definition) (reached : Int) :
    Engine (Option (String × Invocation)) :=
  match definition.redirector with
  | none => return none
  | some redirector => do
    let (_, answer) ← consult host redirector number
      (.redirect reached (definition.stageName? reached) true) (.values number)
    lift (redirectTarget answer)

/-- Goes on as the redirector said, or ends the workflow if it is over. -/
def proceed (host : Host) (number : Nat) (definition : Definition) (stageName : Option String) :
    Option (String × Invocation) → Engine Unit
  | none => exitIfComplete host number definition
  | some (target, invocation) => redirect number stageName target invocation

theorem startStage_ending (grounded : state.Grounded)
    (runs : state.Runs number inst definition) : state.Started (ending startStage state) := by
  cases there : definition.stage? inst.stage with
  | none =>
      rw [ending, startStage_outOfRange runs.current runs.found runs.defined there]
      exact .failed
  | some stage =>
      rw [ending, startStage_apply runs.current runs.found runs.defined there grounded.remembers]
      cases resolved : Token.resolveAll inst id "" stage.tokens with
      | error fault => exact .failed
      | ok arguments => exact .dispatched ⟨runs, there⟩ resolved

/-- An output is judged exactly if the validator answers with a verdict, and an error with which it
is rejected can be written. -/
theorem judge_eq_ok_iff {left : Payload} {staged : Except Value ValueMap} {reached : State} :
    judge host number stage payload state = .ok (left, staged) reached ↔
      ∃ shown answer verdict,
        consult host stage.validator number .validate (.output payload) state =
          .ok (shown, answer) reached ∧ Verdict.ofAnswer answer = .ok verdict ∧
        shown.payload = left ∧ verdict.stage left = staged ∧
          ∀ error, staged = .error error → error.isWritable = true := by
  simp only [judge, bind_apply]
  constructor
  · intro judged
    cases consulted : consult host stage.validator number .validate (.output payload) state with
    | error failure after => simp [consulted] at judged
    | ok answered after =>
        obtain ⟨shown, answer⟩ := answered
        cases said : Verdict.ofAnswer answer with
        | error fault => simp [consulted, said] at judged
        | ok verdict =>
            cases settled : verdict.settle shown.payload with
            | error fault => simp [consulted, said, settled] at judged
            | ok other =>
                simp only [consulted, said, settled, mapError_ok, lift_ok, pure_apply,
                  EStateM.Result.ok.injEq, Prod.mk.injEq] at judged
                obtain ⟨⟨rfl, rfl⟩, rfl⟩ := judged
                exact ⟨shown, answer, verdict, rfl, said, rfl, Verdict.settle_eq_ok_iff.mp settled⟩
  · rintro ⟨shown, answer, verdict, consulted, said, rfl, staged⟩
    simp only [consulted, said, Verdict.settle_eq_ok_iff.mpr staged, mapError_ok, lift_ok,
      pure_apply]

theorem writable_of_judge {left : Payload} {error : Value} {reached : State}
    (judged : judge host number stage payload state = .ok (left, .error error) reached) :
    error.isWritable = true := by
  obtain ⟨-, -, -, -, -, -, -, writable⟩ := judge_eq_ok_iff.mp judged
  exact writable error rfl

/-- A message can always be written. -/
theorem writable_of_rejectionText {error : Value} {text : String}
    (worded : rejectionText error = .ok text) : error.isWritable = true := by
  cases error with
  | null | bool | float | text | bytes => rfl
  | int | list | dict | tuple => cases worded

theorem noteRejection_apply {name : Option String} {error : Value}
    (writable : error.isWritable = true) (found : state.instances[number]? = some inst) :
    noteRejection number name error state =
      .ok () (state.reporting [.rejected number name inst.stage error]) := by
  rw [noteRejection, if_pos writable, bind_apply, instanceAt_apply found]
  rfl

/-- An error that cannot be written rejects nothing. -/
theorem reject_unwritable {name : Option String} {error : Value}
    (unwritable : error.isWritable = false) :
    reject number name error state = .error (.value .unwritable) state := by
  simp only [reject, bind_apply, noteRejection, unwritable, Bool.false_eq_true, ↓reduceIte,
    throw_apply]

/-- Whether an error can be written may be asked when the verdict is taken down, since nothing
happens between that and the rejection. -/
theorem stage_bind_settle {α : Type} (verdict : Verdict) (payload : Payload) (number : Nat)
    (name : Option String) (accepts : ValueMap → Engine α) (next : Unit → Engine α) :
    (match verdict.stage payload with
      | .ok staged => accepts staged
      | .error error => reject number name error >>= next) =
    (do
      match ← lift ((verdict.settle payload).mapError Failure.value) with
      | .ok staged => accepts staged
      | .error error => reject number name error >>= next : Engine α) := by
  funext state
  cases staged : verdict.stage payload with
  | ok values => simp only [Verdict.settle, staged, mapError_ok, bind_apply, lift_ok]
  | error error =>
      cases writable : error.isWritable with
      | true => simp only [Verdict.settle, staged, writable, ↓reduceIte, mapError_ok, bind_apply,
          lift_ok]
      | false =>
          simp only [Verdict.settle, staged, writable, Bool.false_eq_true, ↓reduceIte,
            mapError_error, bind_apply, lift_error, reject_unwritable writable]

/-- Takes in that the stage of the current instance is completed. -/
def receive : Engine (Nat × Definition × Int × Stage) := do
  detach
  let number ← currentNumber
  let definition ← definitionOf number
  let reached := (← instanceAt number).stage
  let stage ← stageOf definition reached
  return (number, definition, reached, stage)

theorem stageFinished_eq (host : Host) (payload : Payload) :
    stageFinished host payload = (do
      let (number, definition, reached, stage) ← receive
      let (left, staged) ← judge host number stage payload
      match staged with
      | .ok staged => accept host number definition (definition.stageName? reached) staged
      | .error error => reject number (definition.stageName? reached) error
      return left) := by
  simp only [stageFinished, receive, judge, bind_assoc, pure_bind]
  apply bind_congr
  intro detached
  apply bind_congr
  intro number
  apply bind_congr
  intro definition
  apply bind_congr
  intro inst
  apply bind_congr
  intro stage
  apply bind_congr
  intro answered
  apply bind_congr
  intro verdict
  exact stage_bind_settle verdict answered.1.payload number (definition.stageName? inst.stage)
    (fun staged => do
      accept host number definition (definition.stageName? inst.stage) staged
      return answered.1.payload)
    fun _ => pure answered.1.payload

theorem stageFinished_apply (stands : state.AtStage number inst definition stage) :
    stageFinished host payload state =
      (do
        let (payload, staged) ← judge host number stage payload
        match staged with
        | .ok staged =>
          accept host number definition (definition.stageName? inst.stage) staged
        | .error error => reject number (definition.stageName? inst.stage) error
        return payload : Engine Payload) state.detached := by
  have found : state.detached.instances[number]? = some inst := stands.found
  have defined : Registry.get state.detached.registry inst.name = .ok definition := stands.defined
  have current : state.detached.current = some number := stands.current
  simp only [stageFinished_eq, receive, bind_apply, detach_apply, currentNumber_apply current,
    definitionOf_apply found, defined, lift_ok, instanceAt_apply found, stageOf, stands.there,
    pure_apply]

/-- A workflow that is started by force is current, and its first stage is next. -/
theorem invoke_force_apply {invocation : Invocation}
    (defined : Registry.get state.registry invocation.name = .ok definition) :
    (do let _ ← invoke invocation true : Engine Unit) state =
      startStage (state.detached.begun invocation) := by
  have started : invoke invocation true state =
      (do startStage; return state.instances.length : Engine Nat)
        (state.detached.begun invocation) := by
    simp only [invoke, bind_apply, requireIdle_force, start_apply defined]
  rw [bind_apply, started, bind_apply]
  cases startStage (state.detached.begun invocation) <;> rfl

/-- A rejection of the output of one instance puts whatever is current aside. -/
theorem reject_current_apply {name : Option String} {error : Value} {top : Nat} {aside : Instance}
    (writable : error.isWritable = true)
    (found : state.instances[number]? = some inst) (current : state.current = some top)
    (there : state.instances[top]? = some aside)
    (defined : Registry.get state.registry state.settings.cancelWorkflow = .ok definition) :
    reject number name error state =
      match rejectionText error with
      | .error failure =>
        .error failure
          ((state.reporting [.rejected number name inst.stage error]).asided top aside)
      | .ok text =>
        startStage ((state.reporting [.rejected number name inst.stage error]).diverted top aside
          ⟨state.settings.cancelWorkflow, some [(cancelErrorArgument, text)]⟩) := by
  have held : hold (state.reporting [.rejected number name inst.stage error]) =
      .ok () ((state.reporting [.rejected number name inst.stage error]).asided top aside) :=
    hold_apply current there
  simp only [reject, bind_apply, noteRejection_apply writable found, held]
  cases rejectionText error with
  | error failure => rfl
  | ok text =>
      let invocation : Invocation :=
        ⟨state.settings.cancelWorkflow, some [(cancelErrorArgument, text)]⟩
      have diverted : (do let _ ← invoke invocation true : Engine Unit)
          ((state.reporting [.rejected number name inst.stage error]).asided top aside) =
          startStage ((state.reporting [.rejected number name inst.stage error]).diverted top
            aside invocation) :=
        invoke_force_apply defined
      rw [bind_apply] at diverted
      exact diverted

theorem reject_apply {name : Option String} {error : Value} (writable : error.isWritable = true)
    (current : state.current = some number) (found : state.instances[number]? = some inst)
    (defined : Registry.get state.registry state.settings.cancelWorkflow = .ok definition) :
    reject number name error state =
      match rejectionText error with
      | .error failure =>
        .error failure
          ((state.reporting [.rejected number name inst.stage error]).asided number inst)
      | .ok text =>
        startStage ((state.reporting [.rejected number name inst.stage error]).diverted number inst
          ⟨state.settings.cancelWorkflow, some [(cancelErrorArgument, text)]⟩) :=
  reject_current_apply writable found current found defined

/-- Whatever is current is put aside for the target of a redirect. -/
theorem redirect_current_apply {name : Option String} {target : String} {invocation : Invocation}
    {top : Nat} {aside : Instance} (found : state.instances[number]? = some inst)
    (current : state.current = some top) (there : state.instances[top]? = some aside)
    (defined : Registry.get state.registry invocation.name = .ok definition) :
    redirect number name target invocation state =
      startStage ((state.reporting [.redirecting number name inst.stage target]).diverted top aside
        invocation) := by
  have held : hold (state.reporting [.redirecting number name inst.stage target]) =
      .ok () ((state.reporting [.redirecting number name inst.stage target]).asided top aside) :=
    hold_apply current there
  have diverted : (do let _ ← invoke invocation true : Engine Unit)
      ((state.reporting [.redirecting number name inst.stage target]).asided top aside) =
      startStage ((state.reporting [.redirecting number name inst.stage target]).diverted top aside
        invocation) :=
    invoke_force_apply defined
  simp only [redirect, bind_apply, get_apply, defined, lift_ok, instanceAt_apply found,
    note_eq_reporting, held]
  rw [bind_apply] at diverted
  exact diverted

theorem redirect_apply {name : Option String} {target : String} {invocation : Invocation}
    (current : state.current = some number) (found : state.instances[number]? = some inst)
    (defined : Registry.get state.registry invocation.name = .ok definition) :
    redirect number name target invocation state =
      startStage ((state.reporting [.redirecting number name inst.stage target]).diverted number
        inst invocation) :=
  redirect_current_apply found current found defined

theorem accept_eq (host : Host) (number : Nat) (definition : Definition) (name : Option String)
    (staged : ValueMap) :
    accept host number definition name staged = (do
      note (.accepted number name (← instanceAt number).stage staged)
      editValues number (ValueMap.merge staged.toValue)
      modifyInstance number fun inst => { inst with stage := inst.stage + 1 }
      let reached ← instanceAt number
      startNext definition reached.stage
      let target ← advise host number definition reached.stage
      proceed host number definition name target) := by
  simp only [accept, advise, startNext]
  apply bind_congr
  intro inst
  apply bind_congr
  intro noted
  apply bind_congr
  intro merged
  apply bind_congr
  intro moved
  apply bind_congr
  intro reached
  cases definition.redirector with
  | none => split <;> simp only [pure_bind, proceed]
  | some redirector =>
      have proceeds (answer : Shown × Value) :
          (lift (redirectTarget answer.2) >>= fun target =>
            match target with
            | none => exitIfComplete host number definition
            | some (target, invocation) => redirect number name target invocation) =
          lift (redirectTarget answer.2) >>= proceed host number definition name := by
        apply bind_congr
        intro target
        cases target <;> rfl
      split
      · simp only [bind_assoc]
        apply bind_congr
        intro started
        apply bind_congr
        intro answer
        exact proceeds answer
      · simp only [pure_bind, bind_assoc]
        apply bind_congr
        intro answer
        exact proceeds answer

/-- An accepted output is merged into the values of the instance, which is one stage further
then. -/
theorem accept_apply {name : Option String} {staged : ValueMap}
    (found : state.instances[number]? = some inst) (storable : staged.Storable) :
    accept host number definition name staged state =
      (do
        startNext definition (inst.stage + 1)
        let target ← advise host number definition (inst.stage + 1)
        proceed host number definition name target : Engine Unit)
        (state.forwarded number (inst.values.merged staged)
          [.accepted number name inst.stage staged]) := by
  have merged := ValueMap.merge_toValue storable inst.values
  have noted : (state.reporting [.accepted number name inst.stage staged]).instances[number]? =
    some inst := found
  have moved : (state.forwarded number (inst.values.merged staged)
      [.accepted number name inst.stage staged]).instances[number]? =
    some { inst with values := inst.values.merged staged, stage := inst.stage + 1 } := by
    simp [State.forwarded, State.changing, State.reporting, found]
  have further : (do
      let reached ← instanceAt number
      startNext definition reached.stage
      let target ← advise host number definition reached.stage
      proceed host number definition name target : Engine Unit)
      (state.forwarded number (inst.values.merged staged)
        [.accepted number name inst.stage staged]) =
    (do
      startNext definition (inst.stage + 1)
      let target ← advise host number definition (inst.stage + 1)
      proceed host number definition name target : Engine Unit)
      (state.forwarded number (inst.values.merged staged)
        [.accepted number name inst.stage staged]) := by
    rw [bind_apply, instanceAt_apply moved]
  rw [← further]
  simp only [accept_eq, bind_apply, instanceAt_apply found, note_eq_reporting,
    editValues_apply noted, merged, modifyInstance_apply, List.modify_modify_eq, Function.comp_def]
  rfl

/-- Judging an output changes nothing, and what is accepted can be stored. -/
theorem judge_reporting (contained : host.Contained) (grounded : state.Grounded) (number : Nat)
    (stage : Stage) (payload : Payload) :
    ∃ events, Event.Quiet events ∧
      match judge host number stage payload state with
      | .ok (_, staged) reached =>
        reached = state.reporting events ∧ ∀ values, staged = .ok values → values.Storable
      | .error _ reached => reached = state.reporting events := by
  have outcome := consultation_consult contained grounded.toNumbered stage.validator number
    .validate (.output payload) (by intro other same; cases same)
  simp only [judge, bind_apply]
  generalize consult host stage.validator number .validate (.output payload) state = result
    at outcome
  cases outcome with
  | refused => exact ⟨[], rfl, rfl⟩
  | failed touched =>
      obtain ⟨events, quiet, rfl⟩ := touched.reporting (by decide)
      exact ⟨events, quiet, rfl⟩
  | declined single declines =>
      obtain ⟨other, inst, same, -⟩ := declines.2.2
      cases same
  | @answered other answer reached touched keeps =>
      obtain ⟨events, quiet, rfl⟩ := touched.reporting (by decide)
      refine ⟨events, quiet, ?_⟩
      simp only
      cases Verdict.ofAnswer answer with
      | error fault => rfl
      | ok verdict =>
          cases settled : verdict.settle other.payload with
          | error fault => simp only [settled, mapError_ok, mapError_error, lift_ok, lift_error]
          | ok staged =>
              simp only [settled, mapError_ok, lift_ok, pure_apply, true_and]
              rintro values rfl
              exact Verdict.storable_stage (Verdict.settle_eq_ok_iff.mp settled).1

/-- The next stage is dispatched if there is one, and else the instance is past its last stage. -/
theorem startNext_forwarded (grounded : state.Grounded)
    (runs : state.Runs number inst definition) (values : ValueMap) {events : List Event}
    (quiet : Event.Quiet events) :
    match startNext definition (inst.stage + 1) (state.forwarded number values events) with
    | .ok _ advanced => state.Forwarded number inst definition advanced
    | .error _ reached => reached = state.forwarded number values events := by
  have counted : 0 ≤ inst.stage + 1 :=
    Int.add_nonneg (grounded.counted number inst runs.found) (by decide)
  rw [startNext, definition.isSome_stageName? counted]
  cases past : definition.isCompleteAt (inst.stage + 1) with
  | true => exact .last quiet past
  | false =>
      have moved := runs.forwarded values events
      have started := startStage_ending (grounded.forwarded number values events) moved
      simp only [ending] at started
      simp only [Bool.not_false, ↓reduceIte]
      generalize startStage (state.forwarded number values events) = result at started ⊢
      cases result with
      | ok answer advanced =>
          cases started with
          | dispatched stands =>
              obtain ⟨rfl, rfl, rfl⟩ := moved.unique stands.toRuns
              have silent : Event.Quiet [] := rfl
              exact .dispatched quiet silent stands.there
      | error failure reached =>
          cases started with
          | failed => rfl

/-- A redirector changes no more than the values of the instance. -/
theorem advise_forwarded (contained : host.Contained) {advanced : State}
    (grounded : advanced.Grounded) (inRange : number < advanced.instances.length)
    (forwarded : state.Forwarded number inst definition advanced) (stage : Int) :
    state.Forwarded number inst definition
      (ending (advise host number definition stage) advanced).2 := by
  simp only [advise]
  cases definition.redirector with
  | none => exact forwarded
  | some redirector =>
      have outcome := consultation_consult contained grounded.toNumbered redirector number
        (.redirect stage (definition.stageName? stage) true) (.values number)
        (by intro other same; cases same; exact inRange)
      simp only [ending, bind_apply]
      generalize consult host redirector number _ (.values number) advanced = result at outcome ⊢
      have quiet (arguments : List Value) : Event.Quiet [.consulted redirector
          (some (number, .redirect stage (definition.stageName? stage) true)) arguments] :=
        Event.quiet_consulted redirector number arguments nofun
      cases outcome with
      | refused => exact forwarded
      | failed touched => exact forwarded.touched (quiet _) touched
      | declined single => cases single
      | @answered other answer reached touched =>
          have kept := forwarded.touched (quiet _) touched
          simp only
          cases redirectTarget answer with
          | error failure => exact kept
          | ok target => exact kept

theorem diverted_started (grounded : state.Grounded) {invocation : Invocation}
    {target : Definition} (found : state.instances[number]? = some inst)
    (known : Registry.get state.registry invocation.name = .ok target) :
    (state.diverted number inst invocation).Started
      (ending startStage (state.diverted number inst invocation)) := by
  have diverted := grounded.diverted found known
  obtain ⟨began, definition, runs⟩ := diverted.runs rfl
  exact startStage_ending diverted runs

theorem proceed_completion (contained : host.Contained) (grounded : state.Grounded)
    (stands : state.AtStage number inst definition stage) {reached : State}
    (forwarded : state.Forwarded number inst definition reached) (name : Option String)
    (target : Option (String × Invocation)) :
    Completion host state (ending (proceed host number definition name target) reached) := by
  have reachedGrounded := forwarded.grounded grounded
  obtain ⟨values, runs⟩ := forwarded.runs stands.toRuns
  cases target with
  | none =>
      simp only [ending, proceed, exitIfComplete, bind_apply, instanceAt_apply runs.found]
      cases past : definition.isCompleteAt (inst.stage + 1) with
      | false => exact .carried stands forwarded past
      | true =>
          have enough :
              reached.suspended.length < reached.suspended.length + 1 + host.patience := by
            omega
          have exits := exit_ending contained reachedGrounded runs.current enough
          have counted := grounded.counted number inst stands.found
          obtain ⟨later, events, quiet, rfl⟩ := forwarded.last_of_over counted past
          exact .ended stands quiet past exits
  | some answer =>
      obtain ⟨text, invocation⟩ := answer
      cases known : Registry.get reached.registry invocation.name with
      | error failure =>
          simp only [ending, proceed, redirect, bind_apply, get_apply, known, lift_error]
          exact .misdirected stands forwarded
      | ok target =>
          rw [ending, proceed, redirect_apply runs.current runs.found known]
          exact .redirected stands forwarded runs.found known (by rfl)
            (diverted_started (reachedGrounded.reporting _) runs.found known)

theorem accept_completion (contained : host.Contained) (grounded : state.Grounded)
    (stands : state.AtStage number inst definition stage) {events : List Event}
    (quiet : Event.Quiet events) (name : Option String) {staged : ValueMap}
    (storable : staged.Storable) :
    Completion host state
      (ending (accept host number definition name staged) (state.reporting events)) := by
  have found : (state.reporting events).instances[number]? = some inst := stands.found
  have quietAccepted : Event.Quiet (.accepted number name inst.stage staged :: events) := quiet
  have started := startNext_forwarded grounded stands.toRuns (inst.values.merged staged)
    quietAccepted
  rw [ending, accept_apply found storable]
  have same : (state.reporting events).forwarded number (inst.values.merged staged)
      [.accepted number name inst.stage staged] =
    state.forwarded number (inst.values.merged staged)
      (.accepted number name inst.stage staged :: events) := rfl
  rw [same, bind_apply]
  generalize startNext definition (inst.stage + 1) (state.forwarded number _ _) = result
    at started ⊢
  cases result with
  | error failure reached =>
      simp only at started ⊢
      rw [started]
      exact .stuck stands quietAccepted
  | ok answer advanced =>
      simp only at started ⊢
      have advancedGrounded := started.grounded grounded
      have advised := advise_forwarded contained advancedGrounded
        (by obtain ⟨values, runs⟩ := started.runs stands.toRuns
            exact advancedGrounded.current_lt number runs.current) started (inst.stage + 1)
      rw [bind_apply]
      rw [ending] at advised
      generalize advise host number definition (inst.stage + 1) advanced = result at advised ⊢
      cases result with
      | error failure reached => exact .misdirected stands advised
      | ok target reached =>
          exact proceed_completion contained grounded stands advised name target

theorem reject_completion (grounded : state.Grounded)
    (stands : state.AtStage number inst definition stage) {events : List Event}
    (quiet : Event.Quiet events) (name : Option String) {left : Payload} {error : Value}
    {reached : State}
    (judged : judge host number stage payload state = .ok (left, .error error) reached) :
    Completion host state (ending (reject number name error) (state.reporting events)) := by
  obtain ⟨cancel, known⟩ := grounded.cancel_known
  have quietRejected : Event.Quiet (.rejected number name inst.stage error :: events) := quiet
  have found : (state.reporting events).instances[number]? = some inst := stands.found
  have current : (state.reporting events).current = some number := stands.current
  have named : Registry.get (state.reporting events).registry
      (state.reporting events).settings.cancelWorkflow = .ok cancel := known
  rw [ending, reject_apply (writable_of_judge judged) current found named]
  cases worded : rejectionText error with
  | error failure =>
      exact .unworded stands quietRejected ⟨payload, left, error, reached, judged, worded⟩
  | ok text =>
      let invocation : Invocation :=
        ⟨state.settings.cancelWorkflow, some [(cancelErrorArgument, text)]⟩
      have asked : Registry.get state.registry invocation.name = .ok cancel := known
      have started := diverted_started
        (grounded.reporting (.rejected number name inst.stage error :: events)) found asked
      exact .prompted stands quietRejected rfl started

theorem stageFinished_outOfRange (runs : state.Runs number inst definition)
    (missing : definition.stage? inst.stage = none) :
    stageFinished host payload state = .error .outOfRange state.detached := by
  have found : state.detached.instances[number]? = some inst := runs.found
  have defined : Registry.get state.detached.registry inst.name = .ok definition := runs.defined
  have current : state.detached.current = some number := runs.current
  simp only [stageFinished, bind_apply, detach_apply, currentNumber_apply current,
    definitionOf_apply found, defined, lift_ok, instanceAt_apply found, stageOf, missing,
    throw_apply]

/-- What the engine does with the output of the stage at which the current instance stands: the
output is not judged, or it is rejected, or accepted as values that can be stored. -/
inductive Judged (host : Host) (state : State) (number : Nat) (inst : Instance)
    (definition : Definition) (stage : Stage) (payload : Payload) : Option Failure × State → Prop
    where
  | unjudged {failure : Failure} {events : List Event} (quiet : Event.Quiet events) :
      Judged host state number inst definition stage payload
        (some failure, state.reporting events)
  | rejected {left : Payload} {error : Value} {events : List Event} (quiet : Event.Quiet events)
      (judged : judge host number stage payload state =
        .ok (left, .error error) (state.reporting events)) :
      Judged host state number inst definition stage payload
        (ending (reject number (definition.stageName? inst.stage) error) (state.reporting events))
  | accepted {left : Payload} {staged : ValueMap} {events : List Event}
      (quiet : Event.Quiet events) (storable : staged.Storable)
      (judged : judge host number stage payload state =
        .ok (left, .ok staged) (state.reporting events)) :
      Judged host state number inst definition stage payload
        (ending (accept host number definition (definition.stageName? inst.stage) staged)
          (state.reporting events))

theorem stageFinished_judged (contained : host.Contained) (grounded : state.Grounded)
    (stands : state.AtStage number inst definition stage) (payload : Payload) :
    Judged host state.detached number inst definition stage payload
      (ending (stageFinished host payload) state) := by
  obtain ⟨events, quiet, kept⟩ :=
    judge_reporting contained grounded.detached number stage payload
  rw [ending, stageFinished_apply stands, bind_apply]
  cases judged : judge host number stage payload state.detached with
  | error failure reached =>
      rw [judged] at kept
      simp only at kept ⊢
      rw [kept]
      exact .unjudged quiet
  | ok answer reached =>
      obtain ⟨left, staged⟩ := answer
      rw [judged] at kept
      obtain ⟨rfl, storable⟩ := kept
      simp only
      cases staged with
      | error error =>
          have rejected : Judged host state.detached number inst definition stage payload _ :=
            .rejected quiet judged
          rw [← ending_bind_pure _ fun _ => left] at rejected
          exact rejected
      | ok staged =>
          have accepted : Judged host state.detached number inst definition stage payload _ :=
            .accepted quiet (storable staged rfl) judged
          rw [← ending_bind_pure _ fun _ => left] at accepted
          exact accepted

/-- Completing the stage that the engine waited for has no other outcomes than `Completion`
lists. -/
theorem stageFinished_completion (contained : host.Contained) (grounded : state.Grounded)
    (current : state.current = some number) (payload : Payload) :
    Completion host state.detached (ending (stageFinished host payload) state) := by
  obtain ⟨inst, definition, runs⟩ := grounded.runs current
  have detached := grounded.detached
  cases there : definition.stage? inst.stage with
  | none =>
      rw [ending, stageFinished_outOfRange runs there]
      have silent : Event.Quiet [] := rfl
      exact .unjudged silent
  | some stage =>
      have stands : state.AtStage number inst definition stage := ⟨runs, there⟩
      have waiting : state.detached.AtStage number inst definition stage :=
        ⟨⟨runs.current, runs.found, runs.defined⟩, there⟩
      have judged := stageFinished_judged contained grounded stands payload
      generalize ending (stageFinished host payload) state = result at judged ⊢
      cases judged with
      | unjudged quiet => exact .unjudged quiet
      | rejected quiet judged => exact reject_completion detached waiting quiet _ judged
      | accepted quiet storable judged =>
          exact accept_completion contained detached waiting quiet _ storable

end Engine

end Workflow
