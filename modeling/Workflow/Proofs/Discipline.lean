import Workflow.Proofs.Account
import Workflow.Proofs.Calls
import Workflow.Proofs.Course

/-!
# The discipline of hooks

Hooks are called when an output is delivered to the engine and at no other time.  The validator of
the stage comes first.  If it accepts the output, the redirector is asked once the instance has
moved on, and acceptors are called last, for workflows that are over.
-/

namespace Workflow

/-- The call of the validator of a stage about an output. -/
def Event.validating (stage : Stage) (number : Nat) (payload : Payload) : Event :=
  .consulted stage.validator (some (number, .validate)) [.dict payload]

/-- The call of an acceptor about an instance with the given values. -/
def Event.accepting (definition : Definition) (number : Nat) (values : ValueMap) : Event :=
  .consulted definition.acceptor (some (number, .accept)) [values.toValue]

/-- The call of the redirector of a definition, if it has one, about an instance that has reached a
stage with the given values. -/
def Definition.redirecting (definition : Definition) (number : Nat) (reached : Int)
    (values : ValueMap) : List Event :=
  definition.redirector.toList.map fun redirector =>
    .consulted redirector (some (number, .redirect reached (definition.stageName? reached) true))
      [.int reached, ((definition.stageName? reached).map Value.text).getD .null, .bool true,
        values.toValue]

namespace State

variable {before after : State}

theorem calls_remarks (state : State) {remarks : List Event}
    (plain : ∀ event ∈ remarks, event.isRemark = true) :
    (state.reporting remarks).calls = state.calls := by
  refine (state.calm_reporting ?_).calls
  apply List.filter_eq_nil_iff.mpr
  intro event member
  have remark := plain event member
  cases event <;> first | exact Bool.false_ne_true | cases remark

theorem calls_touched {shown : Shown} (touched : shown.Touched before after) :
    after.calls = before.calls := by
  obtain ⟨edit, remarks, plain, rfl⟩ := touched
  rw [calls_remarks _ plain]
  cases shown <;> rfl

end State

namespace Engine

variable {host : Host} {state : State} {number : Nat} {inst : Instance} {definition : Definition}
  {stage : Stage} {payload : Payload}

/-- A hook of a contained host that answers was called once, and has called no other. -/
theorem calls_consult (contained : host.Contained) (numbered : state.Numbered) {hook : Hook}
    {question : Question} {shown : Shown}
    (there : ∀ number, shown = .values number → number < state.instances.length)
    {answer : Shown × Value} {reached : State}
    (answered : consult host hook number question shown state = .ok answer reached) :
    reached.calls = .consulted hook (some (number, question))
      (question.arguments (.dict (shown.seen state))) :: state.calls := by
  have outcome := consultation_consult contained numbered hook number question shown there
  rw [answered] at outcome
  cases outcome with
  | answered touched keeps => exact State.calls_touched touched
  | declined single declines lastAside found => rfl

theorem calls_judge (contained : host.Contained) (numbered : state.Numbered)
    {judged : Payload × Except Value ValueMap} {reached : State}
    (ends : judge host number stage payload state = .ok judged reached) :
    reached.calls = .validating stage number payload :: state.calls := by
  obtain ⟨shown, answer, verdict, consulted, -⟩ := judge_eq_ok_iff.mp ends
  exact calls_consult contained numbered (by intro other same; cases same) consulted

theorem calls_advise (contained : host.Contained) (numbered : state.Numbered)
    (found : state.instances[number]? = some inst) {reached : Int}
    {target : Option (String × Invocation)} {after : State}
    (advised : advise host number definition reached state = .ok target after) :
    after.calls = definition.redirecting number reached inst.values ++ state.calls := by
  simp only [advise] at advised
  cases redirector : definition.redirector with
  | none =>
      simp only [redirector, pure_apply, EStateM.Result.ok.injEq] at advised
      rw [Definition.redirecting, redirector, ← advised.2]
      rfl
  | some hook =>
      simp only [redirector, bind_apply] at advised
      cases consulted : consult host hook number
          (.redirect reached (definition.stageName? reached) true) (.values number) state with
      | error failure later => simp [consulted] at advised
      | ok answer later =>
          have there : ∀ other, Shown.values number = .values other →
              other < state.instances.length := by
            intro other same
            cases same
            exact (List.getElem?_eq_some_iff.mp found).1
          have called := calls_consult contained numbered there consulted
          rw [consulted] at advised
          cases target? : redirectTarget answer.2 with
          | error failure => simp [target?] at advised
          | ok target =>
              simp only [target?, lift_ok, EStateM.Result.ok.injEq] at advised
              rw [Definition.redirecting, redirector, ← advised.2, called]
              simp only [Question.arguments, Shown.seen, found]
              rfl

theorem Conclusion.calls {answered : State} {contribution : Value} (contained : host.Contained)
    (grounded : state.Grounded)
    (concluded : Concluded host state number inst definition contribution answered) :
    answered.calls = .accepting definition number inst.values :: state.calls := by
  obtain ⟨other, asked⟩ := concluded.asked
  have exiting := grounded.exiting number inst
  have called := calls_consult contained exiting.toNumbered (by
    intro other same
    cases same
    exact exiting.current_lt number concluded.current) asked
  rw [called]
  simp [Question.arguments, Shown.seen, State.exiting, State.changing, State.reporting,
    concluded.found, Event.accepting, State.calls, isConsultation]
  rfl

/-- An instance that is not in progress is not what a round resumes. -/
theorem others_concluded (contained : host.Contained) (poised : state.Poised) {answered : State}
    {contribution : Value}
    (concluded : Concluded host state number inst definition contribution answered) {other : Nat}
    (absent : other ∉ state.inProgress) :
    number ≠ other ∧ answered.instances[other]? = state.instances[other]? ∧
      some other ∉ answered.suspended := by
  have conclusion := concluded.conclusion contained poised.toGrounded
  have different : number ≠ other := by
    rintro rfl
    exact absent (State.mem_inProgress.mpr (.inl concluded.current))
  have fewer := (conclusion.unwound (poised.apart number concluded.current)).sublist
  refine ⟨different, conclusion.others other different.symm, ?_⟩
  intro aside
  exact absent (State.mem_inProgress.mpr (.inr (fewer.mem aside)))

theorem restored_others {answered : State} {top other : Nat} (resumed : Instance)
    (rest : List (Option Nat)) (values : ValueMap) (different : top ≠ other) :
    (answered.restored top resumed rest values).instances[other]? =
      answered.instances[other]? := by
  simp [State.restored, State.recalled, State.editing, State.changing, State.reporting, different]

theorem restored_calls {answered : State} (top : Nat) (resumed : Instance)
    (rest : List (Option Nat)) (values : ValueMap) :
    (answered.restored top resumed rest values).calls = answered.calls := rfl

theorem absent_restored {answered : State} {top other : Nat} {rest : List (Option Nat)}
    (lastAside : answered.suspended = some top :: rest) (absent : some other ∉ answered.suspended)
    (resumed : Instance) (values : ValueMap) :
    top ≠ other ∧ other ∉ (answered.restored top resumed rest values).inProgress := by
  rw [lastAside, List.mem_cons, not_or] at absent
  have different : top ≠ other := fun same => absent.1 (congrArg some same.symm)
  refine ⟨different, ?_⟩
  rw [State.mem_inProgress]
  rintro (current | aside)
  · exact different (Option.some.inj current)
  · exact absent.2 aside

/-- An exit concerns nothing but what is current or suspended. -/
theorem Exit.others (contained : host.Contained) {result : Option Failure × State}
    (exits : Exit host state result) (poised : state.Poised) {other : Nat}
    (absent : other ∉ state.inProgress) :
    result.2.instances[other]? = state.instances[other]? := by
  induction exits with
  | @unanswered state number inst definition failure reached runs asked =>
      have different : number ≠ other := by
        rintro rfl
        exact absent (State.mem_inProgress.mpr (.inl runs.current))
      obtain ⟨edit, events, rfl⟩ := unanswered_reached contained poised.toGrounded runs asked
      simp [State.reporting, State.editing, State.changing, State.exiting, different]
  | rested concluded empty =>
      exact (others_concluded contained poised concluded absent).2.1
  | @unmerged state answered number top inst resumed definition contribution rest fault values
      concluded lastAside there merged =>
      obtain ⟨-, kept, below⟩ := others_concluded contained poised concluded absent
      have different := (absent_restored lastAside below resumed values).1
      rw [← kept]
      simp [State.recalled, State.editing, State.changing, different]
  | @continued state answered number top inst resumed definition next contribution rest values
      result concluded restoring past further ih =>
      obtain ⟨-, kept, below⟩ := others_concluded contained poised concluded absent
      obtain ⟨different, gone⟩ := absent_restored restoring.lastAside below resumed values
      rw [ih (poised_round contained poised concluded restoring) gone,
        restored_others resumed rest values different, kept]
  | @dispatched state answered number top inst resumed definition next contribution rest values
      concluded restoring unfinished =>
      obtain ⟨-, kept, below⟩ := others_concluded contained poised concluded absent
      obtain ⟨different, gone⟩ := absent_restored restoring.lastAside below resumed values
      have started := started_round contained poised concluded restoring
      rw [(started_keeps started).2, restored_others resumed rest values different, kept]

end Engine

/-- An instance that was in progress and had all stages of its definition behind it is finished. -/
structure State.Leaves (before after : State) (number : Nat) (inst : Instance)
    (definition : Definition) : Prop where
  inProgress : number ∈ before.inProgress
  found : before.instances[number]? = some inst
  defined : Registry.get before.registry inst.name = .ok definition
  past : inst.stage = definition.stageCount
  finished : ∃ values,
    after.instances[number]? = some { inst with state := .finished, values := values }

/-- The acceptor of an instance that leaves was called about the values of the instance. -/
def Event.Concludes (before after : State) (call : Event) : Prop :=
  ∃ number inst definition values, before.Leaves after number inst definition ∧
    call = .accepting definition number values

namespace Engine

variable {host : Host} {state : State} {number : Nat} {inst : Instance} {definition : Definition}

/-- A current instance that is over leaves once its acceptor has answered. -/
theorem Concluded.leaves (contained : host.Contained) (grounded : state.Grounded)
    {answered after : State} {contribution : Value}
    (concluded : Concluded host state number inst definition contribution answered)
    (past : inst.stage = definition.stageCount)
    (kept : after.instances[number]? = answered.instances[number]?) :
    state.Leaves after number inst definition where
  inProgress := State.mem_inProgress.mpr (.inl concluded.current)
  found := concluded.found
  defined := concluded.defined
  past := past
  finished := by
    rw [kept]
    exact (concluded.conclusion contained grounded).own

section Round

variable {answered after : State} {top : Nat} {resumed : Instance} {next : Definition}
  {contribution : Value} {rest : List (Option Nat)} {values : ValueMap}

/-- The instance that is concluded is in progress no more. -/
theorem gone_restored (contained : host.Contained) (poised : state.Poised)
    (concluded : Concluded host state number inst definition contribution answered)
    (restoring : Restoring answered contribution top resumed rest next values) :
    top ≠ number ∧ number ∉ (answered.restored top resumed rest values).inProgress := by
  have conclusion := concluded.conclusion contained poised.toGrounded
  have apart := poised.apart number concluded.current
  have fewer := (conclusion.unwound apart).sublist
  exact absent_restored restoring.lastAside (fun member => apart (fewer.mem member)) resumed values

/-- Whatever leaves after a round was in progress before it. -/
theorem leaves_restored (contained : host.Contained) (poised : state.Poised)
    (concluded : Concluded host state number inst definition contribution answered)
    (restoring : Restoring answered contribution top resumed rest next values) {call : Event}
    (accepts : call.Concludes (answered.restored top resumed rest values) after) :
    call.Concludes state after := by
  obtain ⟨other, later, departing, shown, leaves, rfl⟩ := accepts
  have conclusion := concluded.conclusion contained poised.toGrounded
  have below := conclusion.unwound (poised.apart number concluded.current)
  have aside : some other ∈ answered.suspended := by
    rw [restoring.lastAside]
    rcases State.mem_inProgress.mp leaves.inProgress with current | member
    · cases current
      exact List.mem_cons_self
    · exact List.mem_cons_of_mem _ member
  have inProgress := State.mem_inProgress.mpr (.inr (below.sublist.mem aside))
  have defined := leaves.defined
  have kept := below.kept other aside
  rw [show (answered.restored top resumed rest values).registry = state.registry from
    conclusion.registry] at defined
  by_cases same : top = other
  · subst same
    have found : (answered.restored top resumed rest values).instances[top]? =
        some { resumed with values } := (runs_restored restoring).found
    cases found.symm.trans leaves.found
    exact ⟨top, resumed, departing, shown,
      ⟨inProgress, kept.symm.trans restoring.found, defined, leaves.past, leaves.finished⟩, rfl⟩
  · have found := leaves.found
    rw [restored_others resumed rest values same, kept] at found
    exact ⟨other, later, departing, shown,
      ⟨inProgress, found, defined, leaves.past, leaves.finished⟩, rfl⟩

end Round

/-- An exit that comes to its end has called the acceptors of workflows that are over, and no other
hook. -/
theorem Exit.calls (contained : host.Contained) {result : Option Failure × State}
    (exits : Exit host state result) (poised : state.Poised) (resumable : state.Resumable)
    (full : ∀ number inst definition, state.Runs number inst definition →
      inst.stage = definition.stageCount) (returned : result.1 = none) :
    ∃ accepts, result.2.calls = accepts ++ state.calls ∧
      ∀ call ∈ accepts, call.Concludes state result.2 := by
  induction exits with
  | unanswered runs asked => cases returned
  | @rested state answered number inst definition contribution concluded empty =>
      have leaves : state.Leaves answered.rested number inst definition :=
        concluded.leaves contained poised.toGrounded (full _ _ _ concluded.toRuns) rfl
      have rested : answered.rested.calls = answered.calls := by
        have calm := calm_comeToRest answered
        rw [ending, comeToRest_apply] at calm
        exact calm.calls
      refine ⟨[.accepting definition number inst.values], ?_, ?_⟩
      · rw [rested, Conclusion.calls contained poised.toGrounded concluded]
        rfl
      · rw [List.forall_mem_singleton]
        exact ⟨number, inst, definition, inst.values, leaves, rfl⟩
  | unmerged concluded lastAside there merged => cases returned
  | @continued state answered number top inst resumed definition next contribution rest values
      result concluded restoring past further ih =>
      have conclusion := concluded.conclusion contained poised.toGrounded
      have round := unwound_round contained poised concluded restoring
      have reached := poised_round contained poised concluded restoring
      obtain ⟨accepts, calls, each⟩ := ih reached
        (resumable.unwound round conclusion.registry) (by
          intro other present runsBy runs
          have ended := full_restored contained poised resumable concluded restoring past
          obtain ⟨rfl, rfl, rfl⟩ := (runs_restored restoring).unique runs
          exact ended) returned
      obtain ⟨different, gone⟩ := gone_restored contained poised concluded restoring
      have kept := further.others contained reached gone
      rw [restored_others resumed rest values different] at kept
      refine ⟨accepts ++ [.accepting definition number inst.values], ?_, ?_⟩
      · rw [calls, restored_calls, Conclusion.calls contained poised.toGrounded concluded,
          List.append_assoc]
        rfl
      · intro call member
        rcases List.mem_append.mp member with later | first
        · exact leaves_restored contained poised concluded restoring (each call later)
        · rw [List.mem_singleton.mp first]
          exact ⟨number, inst, definition, inst.values, concluded.leaves contained
            poised.toGrounded (full _ _ _ concluded.toRuns) kept, rfl⟩
  | @dispatched state answered number top inst resumed definition next contribution rest values
      concluded restoring unfinished =>
      obtain ⟨different, gone⟩ := gone_restored contained poised concluded restoring
      have started := started_round contained poised concluded restoring
      have kept := congrArg (·[number]?) (started_keeps started).2
      simp only [restored_others resumed rest values different] at kept
      refine ⟨[.accepting definition number inst.values], ?_, ?_⟩
      · rw [(calm_startStage _).calls, restored_calls,
          Conclusion.calls contained poised.toGrounded concluded]
        rfl
      · rw [List.forall_mem_singleton]
        exact ⟨number, inst, definition, inst.values, concluded.leaves contained
          poised.toGrounded (full _ _ _ concluded.toRuns) kept, rfl⟩

/-- The output of the stage at which an instance stands is accepted, and the redirector is asked in
`advanced`: the validator was called and nothing else, the instance has taken over the output and is
one stage further, and the engine waits for the next stage if there is one.  In `reached` the
redirector has answered. -/
structure Advises (host : Host) (state : State) (payload : Payload) (number : Nat) (inst : Instance)
    (definition : Definition) (stage : Stage) (left : Payload) (staged : ValueMap)
    (advanced : State) (target : Option (String × Invocation)) (reached : State) : Prop
    extends Advanced host state.detached payload number inst definition stage left staged advanced
    where
  called : advanced.calls = .validating stage number payload :: state.calls
  moved : advanced.Runs number
    { inst with values := inst.values.merged staged, stage := inst.stage + 1 } definition
  waits : ∀ next, definition.stage? (inst.stage + 1) = some next → ∃ place handle,
    advanced.Waits number
      { inst with values := inst.values.merged staged, stage := inst.stage + 1 } definition next
      place handle
  continues : ending (stageFinished host payload) state =
    ending (do
      let target ← advise host number definition (inst.stage + 1)
      proceed host number definition (definition.stageName? inst.stage) target) advanced
  advised : advise host number definition (inst.stage + 1) advanced = .ok target reached

/-- Which hooks are called when an output is delivered and the engine gets to its end with it.  The
validator is called once, about the output.  If and only if it is accepted, the redirector is asked
once, if there is one.  Acceptors are called only if no other workflow is opened. -/
inductive Hearing (host : Host) (state : State) (payload : Payload) (after : State) : Prop where
  | rejected {number : Nat} {inst : Instance} {definition : Definition} {stage : Stage}
      {left : Payload} {error : Value} {judged : State}
      (stands : state.AtStage number inst definition stage)
      (refused : judge host number stage payload state.detached = .ok (left, .error error) judged)
      (calls : after.calls = .validating stage number payload :: state.calls)
  | accepted {number : Nat} {inst : Instance} {definition : Definition} {stage : Stage}
      {left : Payload} {staged : ValueMap} {advanced reached : State}
      {target : Option (String × Invocation)} {accepts : List Event}
      (advises : Advises host state payload number inst definition stage left staged advanced target
        reached)
      (calls : after.calls = accepts ++
        (definition.redirecting number (inst.stage + 1) (inst.values.merged staged) ++
          .validating stage number payload :: state.calls))
      (acceptors : ∀ call ∈ accepts, call.Concludes reached after)
      (ended : accepts ≠ [] → target = none ∧ definition.isCompleteAt (inst.stage + 1) = true)

section Delivery

variable {stage : Stage} {payload left : Payload} {staged : ValueMap} {advanced : State}

/-- Once the next stage is dispatched, what remains is to ask the redirector and to do as it
says. -/
theorem Advanced.continues (stands : state.AtStage number inst definition stage)
    (contained : host.Contained) (grounded : state.detached.Grounded)
    (accepted : Advanced host state.detached payload number inst definition stage left staged
      advanced) :
    ending (stageFinished host payload) state =
      ending (do
        let target ← advise host number definition (inst.stage + 1)
        proceed host number definition (definition.stageName? inst.stage) target) advanced := by
  obtain ⟨moved, accepts, started⟩ := accepted.accepted
  have storable := accepts.storable contained grounded
  obtain ⟨events, quiet, judged, rfl⟩ := accepts.judged
  have found : (state.detached.reporting events).instances[number]? = some inst := stands.found
  have told := ending_bind_pure
    (accept host number definition (definition.stageName? inst.stage) staged) (fun _ => left)
    (state.detached.reporting events)
  rw [ending, stageFinished_apply stands, bind_apply, judged]
  refine told.trans ?_
  have same : (state.detached.reporting events).forwarded number (inst.values.merged staged)
      [.accepted number (definition.stageName? inst.stage) inst.stage staged] =
    state.detached.forwarded number (inst.values.merged staged)
      (.accepted number (definition.stageName? inst.stage) inst.stage staged :: events) := rfl
  rw [ending, accept_apply found storable, same, bind_apply, started]
  rfl

/-- Dispatching the next stage leaves the instance as it is, and the engine waits for it. -/
theorem startNext_waits (grounded : state.Grounded) (runs : state.Runs number inst definition)
    (running : inst.state = .running)
    (started : startNext definition inst.stage state = .ok () advanced) :
    advanced.Runs number inst definition ∧ ∀ next, definition.stage? inst.stage = some next →
      ∃ place handle, advanced.Waits number inst definition next place handle := by
  have counted := grounded.counted number inst runs.found
  rw [startNext, definition.isSome_stageName? counted] at started
  cases past : definition.isCompleteAt inst.stage with
  | true =>
      simp only [past, Bool.not_true, Bool.false_eq_true, ↓reduceIte, pure_apply,
        EStateM.Result.ok.injEq, true_and] at started
      subst started
      refine ⟨runs, ?_⟩
      intro next there
      cases there.symm.trans ((definition.stage?_eq_none_iff counted).mpr past)
  | false =>
      have next := startStage_ending grounded runs
      simp only [past, Bool.not_false, ↓reduceIte] at started
      rw [ending, started] at next
      cases next with
      | @dispatched other again same stage arguments stands =>
          obtain ⟨rfl, rfl, rfl⟩ := runs.unique stands.toRuns
          refine ⟨⟨runs.current, runs.found, runs.defined⟩, ?_⟩
          intro next there
          cases there.symm.trans stands.there
          exact ⟨_, _, State.waits_dispatched stands running counted arguments⟩

/-- Up to here the validator was called and nothing else. -/
theorem Advanced.called (contained : host.Contained) (grounded : state.Grounded)
    (accepted : Advanced host state payload number inst definition stage left staged advanced) :
    advanced.calls = .validating stage number payload :: state.calls := by
  obtain ⟨moved, accepts, started⟩ := accepted.accepted
  obtain ⟨events, quiet, judged, rfl⟩ := accepts.judged
  have calm := calm_startNext definition (inst.stage + 1) (state.forwarded number
    (inst.values.merged staged)
    (.accepted number (definition.stageName? inst.stage) inst.stage staged :: events))
  rw [ending, started] at calm
  have called := calls_judge contained grounded.toNumbered judged
  exact calm.calls.trans called

/-- Once the output is accepted, the redirector is asked in a state in which the instance has moved
on. -/
theorem Advanced.advises (stands : state.AtStage number inst definition stage)
    (contained : host.Contained) (grounded : state.detached.Grounded)
    (running : inst.state = .running)
    (accepted : Advanced host state.detached payload number inst definition stage left staged
      advanced) {target : Option (String × Invocation)} {reached : State}
    (advised : advise host number definition (inst.stage + 1) advanced = .ok target reached) :
    Advises host state payload number inst definition stage left staged advanced target
      reached := by
  have continues := accepted.continues stands contained grounded
  have called := accepted.called contained grounded
  obtain ⟨moved, accepts, started⟩ := accepted.accepted
  obtain ⟨events, quiet, judged, rfl⟩ := accepts.judged
  have runs := accepted.toRuns.forwarded (inst.values.merged staged)
    (.accepted number (definition.stageName? inst.stage) inst.stage staged :: events)
  obtain ⟨runsAdvanced, waits⟩ :=
    startNext_waits (grounded.forwarded number _ _) runs running started
  exact {
    toAdvanced := accepted
    called
    moved := runsAdvanced
    waits
    continues
    advised }

theorem Advises.calls (contained : host.Contained) (grounded : state.detached.Grounded)
    {target : Option (String × Invocation)} {reached : State}
    (advises : Advises host state payload number inst definition stage left staged advanced target
      reached) :
    reached.calls = definition.redirecting number (inst.stage + 1) (inst.values.merged staged) ++
      .validating stage number payload :: state.calls := by
  have numbered := ((advises.toAdvanced.forwarded grounded).grounded grounded).toNumbered
  rw [calls_advise contained numbered advises.moved.found advises.advised, advises.called]

/-- Where no workflow ends, no acceptor is called. -/
theorem Advises.hearing (contained : host.Contained) (grounded : state.detached.Grounded)
    {target : Option (String × Invocation)} {reached after : State}
    (advises : Advises host state payload number inst definition stage left staged advanced target
      reached) (same : after.calls = reached.calls) : Hearing host state payload after := by
  have calls : after.calls = [] ++ (definition.redirecting number (inst.stage + 1)
      (inst.values.merged staged) ++ .validating stage number payload :: state.calls) :=
    same.trans (advises.calls contained grounded)
  exact .accepted advises calls nofun (absurd rfl)

/-- An instance that is past its last stage has all stages of its definition behind it. -/
theorem full_forwarded (grounded : state.Grounded)
    (stands : state.AtStage number inst definition stage)
    (past : definition.isCompleteAt (inst.stage + 1) = true) (values : ValueMap)
    (events : List Event) {other : Nat} {again : Instance} {same : Definition}
    (runs : (state.forwarded number values events).Runs other again same) :
    again.stage = same.stageCount := by
  have before := Definition.lt_stageCount (grounded.counted number inst stands.found) stands.there
  obtain ⟨rfl, rfl, rfl⟩ := (stands.toRuns.forwarded values events).unique runs
  simp only [Definition.isCompleteAt, decide_eq_true_eq] at past
  exact Int.le_antisymm before past

/-- A completion that comes to its end has called hooks as it should. -/
theorem stageFinished_hearing (contained : host.Contained) (sound : state.Sound)
    (poised : state.detached.Poised) (resumable : state.Resumable)
    (stands : state.AtStage number inst definition stage) (running : inst.state = .running)
    (returned : (ending (stageFinished host payload) state).1 = none) :
    Hearing host state payload (ending (stageFinished host payload) state).2 := by
  have waiting : state.detached.AtStage number inst definition stage :=
    ⟨⟨stands.current, stands.found, stands.defined⟩, stands.there⟩
  have grounded := poised.toGrounded
  have course := stageFinished_course contained sound.toGrounded stands.current payload
  generalize ending (stageFinished host payload) state = result at course returned ⊢
  cases course with
  | missing runs absent => cases returned
  | unjudged stands failed => cases returned
  | unworded stands judged wordless => cases returned
  | stuck accepted there lacks failed => cases returned
  | unadvised accepted failed => cases returned
  | unknown accepted advised absent => cases returned
  | prompted also judged worded =>
      obtain ⟨rfl, rfl, rfl, rfl⟩ := waiting.unique also
      have called := calls_judge contained grounded.toNumbered judged
      exact .rejected stands judged ((calm_startStage _).calls.trans called)
  | redirected accepted advised known found =>
      obtain ⟨rfl, rfl, rfl, rfl⟩ := waiting.unique accepted.toAtStage
      have advises := accepted.advises stands contained grounded running advised
      exact advises.hearing contained grounded (calm_startStage _).calls
  | carried accepted advised unfinished =>
      obtain ⟨rfl, rfl, rfl, rfl⟩ := waiting.unique accepted.toAtStage
      have advises := accepted.advises stands contained grounded running advised
      exact advises.hearing contained grounded rfl
  | @ended _ _ _ _ _ _ values _ _ events _ accepted advised past quiet stops exits =>
      obtain ⟨rfl, rfl, rfl, rfl⟩ := waiting.unique accepted.toAtStage
      have advises := accepted.advises stands contained grounded running advised
      have called := advises.calls contained grounded
      have unwound := State.unwound_forwarded (poised.apart number waiting.current) values events
      subst stops
      have resumableThen : (state.detached.forwarded number values events).Resumable :=
        State.Resumable.unwound resumable ⟨unwound.fewer, unwound.kept⟩ rfl
      obtain ⟨accepts, calls, each⟩ := exits.calls contained (poised.forwarded number values events)
        resumableThen (fun _ _ _ runs => full_forwarded grounded waiting past values events runs)
        returned
      rw [called] at calls
      exact .accepted advises calls each fun _ => ⟨rfl, past⟩

end Delivery

/-- Where nothing is delivered to the engine, no hook is called. -/
theorem calls_unheard (contained : host.Contained) (sound : state.Sound) {operation : Operation}
    (controls : operation.controls = true)
    (unheard : ∀ place payload, ¬ state.Hears operation place payload) :
    (Trace.take (perform host) state operation).after.calls = state.calls := by
  have completing (output : Value) (given : operation.output? = some output) :
      (ending (perform host operation) state).2.calls = state.calls := by
    have passage := completing_passage contained sound given
    generalize ending (perform host operation) state = result at passage
    cases passage with
    | completed completed held completion told =>
        obtain ⟨output, payload, given, read, -⟩ := told
        exact absurd ⟨held, completed, output, given, read⟩ (unheard _ payload)
    | registered quiet kept => cases given
    | invoked admitted started => cases given
    | _ => rfl
  rw [after_take]
  cases operation with
  | register request => exact (calm_perform_register host request state).calls
  | invoke source force => exact (calm_perform_invoke host source force state).calls
  | complete output => exact completing output rfl
  | finish position output => exact completing output rfl
  | _ => cases controls

theorem wellFormed_of_mem_run (contained : host.Contained) (wellFormed : state.WellFormed)
    {operations : List Operation}
    (orderly : ∀ taken ∈ Trace.run (perform host) state operations, taken.Orderly) :
    ∀ taken ∈ Trace.run (perform host) state operations,
      taken = Trace.take (perform host) taken.before taken.command ∧ taken.before.WellFormed := by
  intro taken member
  induction operations generalizing state with
  | nil => cases member
  | cons operation rest ih =>
      rcases List.mem_cons.mp member with first | later
      · rw [first]
        exact ⟨rfl, wellFormed⟩
      · have reached := take_wellFormed contained wellFormed (orderly _ List.mem_cons_self)
        exact ih reached (fun other also => orderly other (List.mem_cons_of_mem _ also)) later

/-- What is heard in an orderly run comes to its end. -/
theorem returned_of_hears {operation : Operation} {place : Nat} {payload : Payload}
    (orderly : (Trace.take (perform host) state operation).Orderly)
    (hears : state.Hears operation place payload) :
    (ending (perform host operation) state).1 = none := by
  have completed := output_of_completed hears.completed
  rcases orderly.ended with returned | refused | registers
  · exact (outcome_take operation).mpr returned
  · have same : state.refusal? operation = none := completed.2
    rw [show (Trace.take (perform host) state operation).before.refusal?
      (Trace.take (perform host) state operation).command = none from same] at refused
    cases refused
  · obtain ⟨output, given, -⟩ := hears.given
    cases operation with
    | register request => cases given
    | _ => cases registers

/-- Where an output is delivered to an engine that waits, hooks are called as they should. -/
theorem hearing_of_hears (contained : host.Contained) (wellFormed : state.WellFormed)
    {operation : Operation} {place : Nat} {payload : Payload}
    (hears : state.Hears operation place payload)
    (returned : (ending (stageFinished host payload) (state.finishing place)).1 = none) :
    Hearing host (state.finishing place) payload
      (ending (stageFinished host payload) (state.finishing place)).2 := by
  rcases wellFormed.standing with idle | active
  · cases idle.held.symm.trans hears.held
  · obtain ⟨number, inst, definition, stage, waited, handle, waits⟩ := active
    have stands : (state.finishing place).AtStage number inst definition stage :=
      ⟨⟨waits.current, waits.found, waits.defined⟩, waits.there⟩
    exact stageFinished_hearing contained (sound_finishing wellFormed.toSound place)
      (poised_finishing wellFormed.toSound hears.held) wellFormed.resumable stands waits.running
      returned

/-- In an orderly run hooks are called when an output is delivered to the engine, in their order,
and at no other time: neither starting a workflow nor dispatching a stage calls one. -/
theorem hearing_of_orderly (contained : host.Contained) {start : State}
    (fresh : start.FreshlyBuilt) {operations : List Operation}
    (orderly : ∀ taken ∈ Trace.run (perform host) start operations, taken.Orderly) :
    (∀ taken ∈ Trace.run (perform host) start operations,
      (∀ place payload, taken.before.Hears taken.command place payload →
        ending (perform host taken.command) taken.before =
            ending (stageFinished host payload) (taken.before.finishing place) ∧
          Hearing host (taken.before.finishing place) payload taken.after) ∧
      ((∀ place payload, ¬ taken.before.Hears taken.command place payload) →
        taken.after.calls = taken.before.calls) ∧
      ∀ source force, taken.command = .invoke source force →
        taken.after.calls = taken.before.calls) ∧
    ∀ state : State, (ending startStage state).2.calls = state.calls := by
  refine ⟨?_, fun state => (calm_startStage state).calls⟩
  intro taken member
  have orderlyTaken := orderly taken member
  obtain ⟨same, wellFormed⟩ :=
    wellFormed_of_mem_run contained (wellFormed_freshlyBuilt fresh) orderly taken member
  obtain ⟨command, before, outcome, after⟩ := taken
  have reached : after = (ending (perform host command) before).2 := by
    rw [← after_take]
    exact congrArg Taken.after same
  have orderlyTake : (Trace.take (perform host) before command).Orderly := same ▸ orderlyTaken
  subst reached
  refine ⟨?_, ?_, ?_⟩
  · intro place payload hears
    have returned := returned_of_hears orderlyTake hears
    rw [ending_hears wellFormed.toSound hears] at returned ⊢
    exact ⟨rfl, hearing_of_hears contained wellFormed hears returned⟩
  · intro unheard
    rw [← after_take]
    exact calls_unheard contained wellFormed.toSound orderlyTaken.controls unheard
  · rintro source force rfl
    exact (calm_perform_invoke host source force before).calls

/-- Along the detour the redirector of the trip is asked after each of its stages, and the visit
that is over tells its acceptor. -/
theorem hearing_of_orderly_detour :
    let operations := Detour.operations ++ [.complete .null, .complete .null]
    (∀ taken ∈ Trace.run (perform Detour.host) Detour.start operations, taken.Orderly) ∧
      ((Trace.final (perform Detour.host) Detour.start operations).calls.filterMap fun
        | .consulted _ asked _ => asked
        | _ => none) =
        [(0, .redirect 2 none true), (0, .validate), (1, .accept), (1, .validate),
          (0, .redirect 1 (some "Return") true), (0, .validate)] ∧
      ∀ taken ∈ Trace.run (perform Detour.host) Detour.start operations,
        ∀ place payload, taken.before.Hears taken.command place payload →
          Hearing Detour.host (taken.before.finishing place) payload taken.after := by
  intro operations
  have orderly : ∀ taken ∈ Trace.run (perform Detour.host) Detour.start operations,
      taken.Orderly := by decide +kernel
  have discipline := (hearing_of_orderly Detour.contained Detour.built orderly).1
  refine ⟨orderly, by decide +kernel, ?_⟩
  intro taken member place payload hears
  exact ((discipline taken member).1 place payload hears).2

end Engine

end Workflow
