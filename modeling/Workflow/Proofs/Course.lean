import Workflow.Proofs.Prompt
import Workflow.Proofs.Resolution

/-!
# The course of a completion

`Completion` lists the states in which the completion of a stage can end.  `Course` says how it gets
there: what the validator said of the output, what the redirector answered, and which part failed
with what.  Whatever depends on the cause of a failure, or on what exactly was accepted, is read off
the course.
-/

namespace Workflow

theorem Registry.get_error {registry : Registry} {name : String} {failure : Failure}
    (unknown : get registry name = .error failure) : ∃ name, failure = .unknownWorkflow name := by
  simp only [get] at unknown
  split at unknown
  · cases unknown
  · exact ⟨name, (Except.error.inj unknown).symm⟩

theorem Registry.mem_definitions {registry : Registry} {name : String} {definition : Definition}
    (known : get registry name = .ok definition) : definition ∈ registry.definitions := by
  simp only [get] at known
  split at known
  · next found =>
    cases known
    obtain ⟨entry, there, rfl⟩ := Option.map_eq_some_iff.mp found
    exact List.mem_map_of_mem (List.mem_of_find?_eq_some there)
  · cases known

/-- A verdict stages what an output amounts to, if it says that the output is valid. -/
theorem Verdict.stage_eq_ok_iff {verdict : Verdict} {payload : Payload} {staged : ValueMap} :
    verdict.stage payload = .ok staged ↔
      verdict.valid = true ∧ ValueMap.ofValue (.dict payload) = .ok staged := by
  cases valid : verdict.valid with
  | false => simp [stage, valid]
  | true => cases built : ValueMap.ofValue (.dict payload) <;> simp [stage, valid, built]

/-- A verdict rejects an output with its own error, or with the text of a fault. -/
theorem Verdict.error_of_stage {verdict : Verdict} {payload : Payload} {error : Value}
    (rejected : verdict.stage payload = .error error) :
    (verdict.valid = false ∧ verdict.error = error) ∨
      ∃ fault : ValueFault, error = .text fault.message := by
  simp only [stage] at rejected
  split at rejected
  · cases built : ValueMap.ofValue (.dict payload) with
    | ok values => simp [built] at rejected
    | error fault =>
        simp only [built, Engine.mapError_error, Except.error.injEq] at rejected
        exact .inr ⟨fault, rejected.symm⟩
  · next invalid => exact .inl ⟨Bool.eq_false_iff.mpr invalid, Except.error.inj rejected⟩

theorem State.AtStage.unique {state : State} {number other : Nat} {inst again : Instance}
    {definition same : Definition} {stage another : Stage}
    (stands : state.AtStage number inst definition stage)
    (also : state.AtStage other again same another) :
    number = other ∧ inst = again ∧ definition = same ∧ stage = another := by
  obtain ⟨rfl, rfl, rfl⟩ := stands.toRuns.unique also.toRuns
  cases stands.there.symm.trans also.there
  exact ⟨rfl, rfl, rfl, rfl⟩

/-- What dispatching the stage of the current instance comes to, and why it fails if it does. -/
inductive State.Dispatch (state : State) (number : Nat) (inst : Instance)
    (definition : Definition) : Option Failure × State → Prop where
  | missing (absent : definition.stage? inst.stage = none) :
      Dispatch state number inst definition (some .outOfRange, state)
  | unsupplied {stage : Stage} {fault : ValueFault}
      (there : definition.stage? inst.stage = some stage) (lacks : inst.Lacks stage fault) :
      Dispatch state number inst definition (some (.value fault), state)
  | dispatched {stage : Stage} {arguments : Option (List String)}
      (there : definition.stage? inst.stage = some stage) :
      Dispatch state number inst definition (none, state.dispatched stage.name arguments)

namespace State

/-- An operation invokes a workflow, and is let in. -/
def letsIn (state : State) : Operation → Bool
  | .invoke source force => (state.admitted source force).isOk
  | _ => false

theorem admitted_of_letsIn {state : State} {operation : Operation}
    (starts : state.letsIn operation = true) : ∃ source force invocation,
      operation = .invoke source force ∧ state.admitted source force = .ok invocation := by
  cases operation with
  | invoke source force =>
      cases admitted : state.admitted source force with
      | ok invocation => exact ⟨source, force, invocation, rfl, admitted⟩
      | error failure => simp [letsIn, admitted, Except.isOk, Except.toBool] at starts
  | _ => cases starts

/-- What runs, what is suspended and the instances are as they were. -/
structure Still (before after : State) : Prop where
  current : after.current = before.current
  suspended : after.suspended = before.suspended
  instances : after.instances = before.instances

end State

namespace Engine

variable {host : Host} {state : State} {number : Nat} {inst : Instance} {definition : Definition}
  {stage : Stage} {payload : Payload}

theorem redirectTarget_error {answer : Value} {failure : Failure}
    (failed : redirectTarget answer = .error failure) :
    (∃ fault, failure = .binding fault) ∨ ∃ kind, failure = .targetKind kind := by
  cases answer with
  | null => cases failed
  | text target =>
      simp only [redirectTarget] at failed
      cases read : Invocation.parse target with
      | ok invocation => simp [read] at failed
      | error fault =>
          simp only [read, Except.error.injEq] at failed
          exact .inl ⟨fault, failed.symm⟩
  | _ => exact .inr ⟨_, (Except.error.inj failed).symm⟩

/-- An operation that starts nothing and is not heard leaves all instances where they are. -/
theorem Passage.still {operation : Operation} {result : Option Failure × State}
    (passage : Passage host state operation result) (shut : ¬ state.letsIn operation = true)
    (deaf : ∀ place payload, ¬ state.Hears operation place payload) : state.Still result.2 := by
  cases passage with
  | refused refusal => exact ⟨rfl, rfl, rfl⟩
  | registered quiet kept => exact ⟨rfl, rfl, rfl⟩
  | invoked admitted started =>
      simp [State.letsIn, admitted, Except.isOk, Except.toBool] at shut
  | stranded admitted =>
      simp [State.letsIn, admitted, Except.isOk, Except.toBool] at shut
  | unheard completed unheld unread => exact ⟨rfl, rfl, rfl⟩
  | completed completed held completion told =>
      obtain ⟨output, payload, given, read, -⟩ := told
      exact absurd ⟨held, completed, output, given, read⟩ (deaf _ payload)

/-- An operation that is let in starts its workflow, or fails to dispatch its first stage. -/
theorem Passage.of_admitted {source : InvocationSource} {force : Bool}
    {result : Option Failure × State} (passage : Passage host state (.invoke source force) result)
    {invocation : Invocation} (admitted : state.admitted source force = .ok invocation) :
    (∃ reached, (state.detached.begun invocation).Started (none, reached) ∧
        result = (none, reached.reporting [.returned state.instances.length])) ∨
      ∃ failure, result = (some failure, state.detached.begun invocation) := by
  cases passage with
  | refused refusal => simp [State.refusal?, admitted] at refusal
  | invoked also started =>
      cases admitted.symm.trans also
      exact .inl ⟨_, started, rfl⟩
  | stranded also =>
      cases admitted.symm.trans also
      exact .inr ⟨_, rfl⟩
  | unheard completed unheld unread => cases completed
  | completed completed held completion told => cases completed

theorem startStage_dispatch (grounded : state.Grounded)
    (runs : state.Runs number inst definition) :
    state.Dispatch number inst definition (ending startStage state) := by
  cases there : definition.stage? inst.stage with
  | none =>
      rw [ending, startStage_outOfRange runs.current runs.found runs.defined there]
      exact .missing there
  | some stage =>
      rw [ending, startStage_apply runs.current runs.found runs.defined there grounded.remembers]
      cases resolved : Token.resolveAll inst id "" stage.tokens with
      | ok arguments => exact .dispatched there
      | error fault => exact .unsupplied there (Instance.lacks_of_unresolved resolved)

theorem begun_dispatch {invocation : Invocation}
    (grounded : (state.begun invocation).Grounded)
    (known : Registry.get state.registry invocation.name = .ok definition) :
    (state.begun invocation).Dispatch state.instances.length (Instance.ofInvocation invocation)
      definition (ending startStage (state.begun invocation)) :=
  startStage_dispatch grounded ⟨rfl, List.getElem?_concat_length, known⟩

/-- The next stage is asked for only if there is one, so it is dispatched unless it refers to a
value of which there is no text. -/
theorem startNext_error (grounded : state.Grounded) (runs : state.Runs number inst definition)
    {values : ValueMap} {events : List Event} {failure : Failure} {reached : State}
    (failed : startNext definition (inst.stage + 1) (state.forwarded number values events) =
      .error failure reached) :
    ∃ next fault, definition.stage? (inst.stage + 1) = some next ∧
      Instance.Lacks { inst with values, stage := inst.stage + 1 } next fault ∧
      failure = .value fault := by
  have counted : 0 ≤ inst.stage + 1 :=
    Int.add_nonneg (grounded.counted number inst runs.found) (by decide)
  rw [startNext, definition.isSome_stageName? counted] at failed
  cases past : definition.isCompleteAt (inst.stage + 1) with
  | true =>
      rw [past] at failed
      cases failed
  | false =>
      have dispatch := startStage_dispatch (grounded.forwarded number values events)
        (runs.forwarded values events)
      simp only [past, Bool.not_false, ↓reduceIte] at failed
      rw [ending, failed] at dispatch
      cases dispatch with
      | missing absent =>
          cases past.symm.trans ((definition.stage?_eq_none_iff counted).mp absent)
      | unsupplied there lacks => exact ⟨_, _, there, lacks, rfl⟩

/-- The output of the stage at which the current instance stands is accepted.  In `moved` the
instance is one stage further and has taken over what its validator left of the output. -/
structure Accepts (host : Host) (state : State) (payload : Payload) (number : Nat)
    (inst : Instance) (definition : Definition) (stage : Stage) (left : Payload)
    (staged : ValueMap) (moved : State) : Prop
    extends state.AtStage number inst definition stage where
  judged : ∃ events, Event.Quiet events ∧
    judge host number stage payload state = .ok (left, .ok staged) (state.reporting events) ∧
      moved = state.forwarded number (inst.values.merged staged)
        (.accepted number (definition.stageName? inst.stage) inst.stage staged :: events)

/-- The output is accepted, and the next stage is dispatched in `advanced` if there is one. -/
structure Advanced (host : Host) (state : State) (payload : Payload) (number : Nat)
    (inst : Instance) (definition : Definition) (stage : Stage) (left : Payload)
    (staged : ValueMap) (advanced : State) : Prop
    extends state.AtStage number inst definition stage where
  accepted : ∃ moved, Accepts host state payload number inst definition stage left staged moved ∧
    startNext definition (inst.stage + 1) moved = .ok () advanced

/-- How the completion of a stage goes, from the state in which the engine waits for nothing any
more. -/
inductive Course (host : Host) (state : State) (payload : Payload) :
    Option Failure × State → Prop where
  /-- The definition does not have the stage at which the current instance stands. -/
  | missing {number : Nat} {inst : Instance} {definition : Definition}
      (runs : state.Runs number inst definition) (absent : definition.stage? inst.stage = none) :
      Course host state payload (some .outOfRange, state)
  /-- The validator does not answer, or not with a verdict, or it rejects the output with an error
  that cannot be written. -/
  | unjudged {number : Nat} {inst : Instance} {definition : Definition} {stage : Stage}
      {failure : Failure} {events : List Event}
      (stands : state.AtStage number inst definition stage)
      (failed : judge host number stage payload state = .error failure (state.reporting events)) :
      Course host state payload (some failure, state.reporting events)
  /-- The output is rejected with something that is no message. -/
  | unworded {number : Nat} {inst : Instance} {definition : Definition} {stage : Stage}
      {left : Payload} {error : Value} {failure : Failure} {events : List Event}
      (stands : state.AtStage number inst definition stage)
      (judged : judge host number stage payload state =
        .ok (left, .error error) (state.reporting events))
      (wordless : rejectionText error = .error failure) :
      Course host state payload (some failure,
        ((state.reporting events).reporting
          [.rejected number (definition.stageName? inst.stage) inst.stage error]).asided
            number inst)
  /-- The output is rejected, and the user is asked whether to continue. -/
  | prompted {number : Nat} {inst : Instance} {definition : Definition} {stage : Stage}
      {left : Payload} {error : Value} {text : String} {events : List Event}
      (stands : state.AtStage number inst definition stage)
      (judged : judge host number stage payload state =
        .ok (left, .error error) (state.reporting events))
      (worded : rejectionText error = .ok text) :
      Course host state payload (ending startStage
        (((state.reporting events).reporting
          [.rejected number (definition.stageName? inst.stage) inst.stage error]).diverted number
            inst ⟨state.settings.cancelWorkflow, some [(cancelErrorArgument, text)]⟩))
  /-- The next stage refers to a value of which there is no text. -/
  | stuck {number : Nat} {inst : Instance} {definition : Definition} {stage next : Stage}
      {left : Payload} {staged : ValueMap} {moved : State} {fault : ValueFault}
      (accepted : Accepts host state payload number inst definition stage left staged moved)
      (there : definition.stage? (inst.stage + 1) = some next)
      (lacks : Instance.Lacks
        { inst with values := inst.values.merged staged, stage := inst.stage + 1 } next fault)
      (failed : startNext definition (inst.stage + 1) moved = .error (.value fault) moved) :
      Course host state payload (some (.value fault), moved)
  /-- The redirector does not answer, or not with a target. -/
  | unadvised {number : Nat} {inst : Instance} {definition : Definition} {stage : Stage}
      {left : Payload} {staged : ValueMap} {advanced reached : State} {failure : Failure}
      (accepted : Advanced host state payload number inst definition stage left staged advanced)
      (failed : advise host number definition (inst.stage + 1) advanced = .error failure reached) :
      Course host state payload (some failure, reached)
  /-- The redirector names a workflow that is not registered. -/
  | unknown {number : Nat} {inst : Instance} {definition : Definition} {stage : Stage}
      {left : Payload} {staged : ValueMap} {advanced reached : State} {target : String}
      {invocation : Invocation} {failure : Failure}
      (accepted : Advanced host state payload number inst definition stage left staged advanced)
      (advised : advise host number definition (inst.stage + 1) advanced =
        .ok (some (target, invocation)) reached)
      (absent : Registry.get reached.registry invocation.name = .error failure) :
      Course host state payload (some failure, reached)
  /-- The redirector names another workflow, which is started. -/
  | redirected {number : Nat} {inst later : Instance} {definition other : Definition}
      {stage : Stage} {left : Payload} {staged : ValueMap} {advanced reached : State}
      {target : String} {invocation : Invocation}
      (accepted : Advanced host state payload number inst definition stage left staged advanced)
      (advised : advise host number definition (inst.stage + 1) advanced =
        .ok (some (target, invocation)) reached)
      (known : Registry.get reached.registry invocation.name = .ok other)
      (found : reached.instances[number]? = some later) :
      Course host state payload (ending startStage
        ((reached.reporting [.redirecting number (definition.stageName? inst.stage) later.stage
          target]).diverted number later invocation))
  /-- The workflow goes on with its next stage. -/
  | carried {number : Nat} {inst : Instance} {definition : Definition} {stage : Stage}
      {left : Payload} {staged : ValueMap} {advanced reached : State}
      (accepted : Advanced host state payload number inst definition stage left staged advanced)
      (advised : advise host number definition (inst.stage + 1) advanced = .ok none reached)
      (unfinished : definition.isCompleteAt (inst.stage + 1) = false) :
      Course host state payload (none, reached)
  /-- The workflow is over. -/
  | ended {number : Nat} {inst : Instance} {definition : Definition} {stage : Stage}
      {left : Payload} {staged values : ValueMap} {advanced reached : State} {events : List Event}
      {result : Option Failure × State}
      (accepted : Advanced host state payload number inst definition stage left staged advanced)
      (advised : advise host number definition (inst.stage + 1) advanced = .ok none reached)
      (past : definition.isCompleteAt (inst.stage + 1) = true) (quiet : Event.Quiet events)
      (stops : reached = state.forwarded number values events) (exits : Exit host reached result) :
      Course host state payload result

theorem Accepts.storable {left : Payload} {staged : ValueMap} {moved : State}
    (accepts : Accepts host state payload number inst definition stage left staged moved)
    (contained : host.Contained) (grounded : state.Grounded) : staged.Storable := by
  obtain ⟨events, -, judged, -⟩ := accepts.judged
  obtain ⟨others, -, kept⟩ := judge_reporting contained grounded number stage payload
  rw [judged] at kept
  exact kept.2 staged rfl

namespace Advanced

variable {left : Payload} {staged : ValueMap} {advanced : State}
  (accepted : Advanced host state payload number inst definition stage left staged advanced)
include accepted

theorem forwarded (grounded : state.Grounded) :
    state.Forwarded number inst definition advanced := by
  obtain ⟨moved, accepts, started⟩ := accepted.accepted
  obtain ⟨events, quiet, -, rfl⟩ := accepts.judged
  have quietAccepted : Event.Quiet
      (.accepted number (definition.stageName? inst.stage) inst.stage staged :: events) := quiet
  have next := startNext_forwarded grounded accepted.toRuns (inst.values.merged staged)
    quietAccepted
  rw [started] at next
  exact next

/-- Whatever the redirector does, the instance is one stage further when it is done. -/
theorem advised (contained : host.Contained) (grounded : state.Grounded) :
    state.Forwarded number inst definition
      (ending (advise host number definition (inst.stage + 1)) advanced).2 := by
  have forwarded := accepted.forwarded grounded
  have advancedGrounded := forwarded.grounded grounded
  obtain ⟨values, runs⟩ := forwarded.runs accepted.toRuns
  exact advise_forwarded contained advancedGrounded
    (advancedGrounded.current_lt number runs.current) forwarded (inst.stage + 1)

theorem reaches (contained : host.Contained) (grounded : state.Grounded) {reached : State}
    (ends : (ending (advise host number definition (inst.stage + 1)) advanced).2 = reached) :
    state.Forwarded number inst definition reached :=
  ends ▸ accepted.advised contained grounded

/-- Whatever the redirector does, nothing is current afterwards that is suspended. -/
theorem reaches_sound (contained : host.Contained) (poised : state.Poised) {reached : State}
    (ends : (ending (advise host number definition (inst.stage + 1)) advanced).2 = reached) :
    reached.Sound ∧ reached.Apart := by
  have present : state.current ≠ none := by
    rw [accepted.current]
    exact nofun
  exact sound_forwarded poised present (accepted.reaches contained poised.toGrounded ends)

end Advanced

/-- Once the redirector answered, the engine does as it says. -/
theorem proceed_course (contained : host.Contained) (grounded : state.Grounded) {left : Payload}
    {staged : ValueMap} {advanced reached : State} {target : Option (String × Invocation)}
    (accepted : Advanced host state payload number inst definition stage left staged advanced)
    (advised : advise host number definition (inst.stage + 1) advanced = .ok target reached) :
    Course host state payload
      (ending (proceed host number definition (definition.stageName? inst.stage) target)
        reached) := by
  have forwarded := accepted.reaches contained grounded (by rw [ending, advised])
  obtain ⟨values, runs⟩ := forwarded.runs accepted.toRuns
  cases target with
  | none =>
      simp only [ending, proceed, exitIfComplete, bind_apply, instanceAt_apply runs.found]
      cases past : definition.isCompleteAt (inst.stage + 1) with
      | false => exact .carried accepted advised past
      | true =>
          have enough :
              reached.suspended.length < reached.suspended.length + 1 + host.patience := by
            omega
          have counted := grounded.counted number inst accepted.found
          obtain ⟨later, events, quiet, stops⟩ := forwarded.last_of_over counted past
          exact .ended accepted advised past quiet stops
            (exit_ending contained (forwarded.grounded grounded) runs.current enough)
  | some answer =>
      obtain ⟨text, invocation⟩ := answer
      cases known : Registry.get reached.registry invocation.name with
      | error failure =>
          simp only [ending, proceed, redirect, bind_apply, get_apply, known, lift_error]
          exact .unknown accepted advised known
      | ok other =>
          rw [ending, proceed, redirect_apply runs.current runs.found known]
          exact .redirected accepted advised known runs.found

theorem accept_course (contained : host.Contained) (grounded : state.Grounded)
    (stands : state.AtStage number inst definition stage) {left : Payload} {staged : ValueMap}
    {events : List Event} (quiet : Event.Quiet events) (storable : staged.Storable)
    (judged : judge host number stage payload state =
      .ok (left, .ok staged) (state.reporting events)) :
    Course host state payload
      (ending (accept host number definition (definition.stageName? inst.stage) staged)
        (state.reporting events)) := by
  have found : (state.reporting events).instances[number]? = some inst := stands.found
  let moved := state.forwarded number (inst.values.merged staged)
    (.accepted number (definition.stageName? inst.stage) inst.stage staged :: events)
  have accepts : Accepts host state payload number inst definition stage left staged moved :=
    ⟨stands, events, quiet, judged, rfl⟩
  have quietAccepted : Event.Quiet
      (.accepted number (definition.stageName? inst.stage) inst.stage staged :: events) := quiet
  have next := startNext_forwarded grounded stands.toRuns (inst.values.merged staged)
    quietAccepted
  rw [ending, accept_apply found storable]
  have same : (state.reporting events).forwarded number (inst.values.merged staged)
      [.accepted number (definition.stageName? inst.stage) inst.stage staged] = moved := rfl
  rw [same, bind_apply]
  cases started : startNext definition (inst.stage + 1) moved with
  | error failure reached =>
      rw [started] at next
      simp only at next ⊢
      subst next
      obtain ⟨following, fault, there, lacks, rfl⟩ :=
        startNext_error grounded stands.toRuns started
      exact .stuck accepts there lacks started
  | ok done advanced =>
      have accepted : Advanced host state payload number inst definition stage left staged
          advanced := ⟨stands, moved, accepts, started⟩
      simp only [bind_apply]
      cases advised : advise host number definition (inst.stage + 1) advanced with
      | error failure reached => exact .unadvised accepted advised
      | ok target reached => exact proceed_course contained grounded accepted advised

theorem reject_course (grounded : state.Grounded)
    (stands : state.AtStage number inst definition stage) {left : Payload} {error : Value}
    {events : List Event}
    (judged : judge host number stage payload state =
      .ok (left, .error error) (state.reporting events)) :
    Course host state payload
      (ending (reject number (definition.stageName? inst.stage) error)
        (state.reporting events)) := by
  obtain ⟨cancel, known⟩ := grounded.cancel_known
  have found : (state.reporting events).instances[number]? = some inst := stands.found
  have current : (state.reporting events).current = some number := stands.current
  have named : Registry.get (state.reporting events).registry
      (state.reporting events).settings.cancelWorkflow = .ok cancel := known
  rw [ending, reject_apply (writable_of_judge judged) current found named]
  cases worded : rejectionText error with
  | error failure => exact .unworded stands judged worded
  | ok text => exact .prompted stands judged worded

/-- Completing the stage that the engine waited for takes one of the courses. -/
theorem stageFinished_course (contained : host.Contained) (grounded : state.Grounded)
    (current : state.current = some number) (payload : Payload) :
    Course host state.detached payload (ending (stageFinished host payload) state) := by
  obtain ⟨inst, definition, runs⟩ := grounded.runs current
  have detached := grounded.detached
  have waiting : state.detached.Runs number inst definition :=
    ⟨runs.current, runs.found, runs.defined⟩
  cases there : definition.stage? inst.stage with
  | none =>
      rw [ending, stageFinished_outOfRange runs there]
      exact .missing waiting there
  | some stage =>
      have stands : state.detached.AtStage number inst definition stage := ⟨waiting, there⟩
      obtain ⟨events, quiet, kept⟩ := judge_reporting contained detached number stage payload
      rw [ending, stageFinished_apply ⟨runs, there⟩, bind_apply]
      cases judged : judge host number stage payload state.detached with
      | error failure reached =>
          rw [judged] at kept
          simp only at kept ⊢
          subst kept
          exact .unjudged stands judged
      | ok answer reached =>
          obtain ⟨left, staged⟩ := answer
          rw [judged] at kept
          obtain ⟨rfl, storable⟩ := kept
          simp only
          cases staged with
          | error error =>
              have rejected := reject_course detached stands judged
              rw [← ending_bind_pure _ fun _ => left] at rejected
              exact rejected
          | ok staged =>
              have accepted :=
                accept_course contained detached stands quiet (storable staged rfl) judged
              rw [← ending_bind_pure _ fun _ => left] at accepted
              exact accepted

/-- An operation that completes the stage that the engine waits for takes one of the courses. -/
theorem course_of_hears (contained : host.Contained) (sound : state.Sound) {operation : Operation}
    {place : Nat} (hears : state.Hears operation place payload) :
    Course host (state.finishing place).detached payload
      (ending (perform host operation) state) := by
  obtain ⟨current, running⟩ := Option.ne_none_iff_exists'.mp (sound.runs_held place hears.held)
  rw [ending_hears sound hears]
  exact stageFinished_course contained (grounded_finishing sound.toGrounded place) running payload

/-- An invocation that fails is not let in, or the first stage of its workflow cannot be
dispatched. -/
theorem invoke_failed (sound : state.Sound) {source : InvocationSource} {force : Bool}
    {failure : Failure}
    (failed : (ending (perform host (.invoke source force)) state).1 = some failure) :
    state.admitted source force = .error failure ∨ ∃ invocation definition,
      state.admitted source force = .ok invocation ∧
        Registry.get state.registry invocation.name = .ok definition ∧
        (state.detached.begun invocation).Dispatch state.instances.length
          (Instance.ofInvocation invocation) definition
          (some failure, (ending (perform host (.invoke source force)) state).2) := by
  simp only [ending, perform, bind_apply, invokeSource_apply sound.toNumbered] at failed ⊢
  cases admitted : state.admitted source force with
  | error other =>
      rw [admitted] at failed
      exact .inl (congrArg Except.error (Option.some.inj failed))
  | ok invocation =>
      obtain ⟨definition, known⟩ := known_of_admitted admitted
      have dispatch := begun_dispatch (sound.detached.begun rfl known).toGrounded known
      refine .inr ⟨invocation, definition, rfl, known, ?_⟩
      simp only [admitted] at failed ⊢
      rw [ending] at dispatch
      cases started : startStage (state.detached.begun invocation) with
      | error other reached =>
          simp only [started] at failed dispatch ⊢
          cases failed
          exact dispatch
      | ok done reached =>
          have found : (reached.reporting [.returned state.instances.length]).instances[
              state.instances.length]? = some (Instance.ofInvocation invocation) := by
            rw [started] at dispatch
            cases dispatch with
            | dispatched there => exact List.getElem?_concat_length
          simp only [started, note_eq_reporting, pure_apply, instanceAt_apply found] at failed
          cases failed

end Engine

end Workflow
