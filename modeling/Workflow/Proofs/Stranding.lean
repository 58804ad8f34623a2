import Workflow.Proofs.Course
import Workflow.Proofs.Registering

/-!
# What a failure leaves behind

Between two operations an engine is idle or waits for the stage of its current instance.  As long as
the hooks of all workflows do what they are for, that is still so after an operation that failed,
with one exception: a stage that refers to a value of which there is no text, because it is missing
or cannot be written down, is never dispatched, and the instance is stranded before it.
-/

namespace Workflow

/-- A verdict as a validator gives it: a truth value, or a pair of one and a message, if any. -/
inductive Value.IsVerdict : Value → Prop where
  | bare (valid : Bool) : IsVerdict (.bool valid)
  | silent (valid : Bool) : IsVerdict (.tuple [.bool valid, .null])
  | worded (valid : Bool) (message : String) : IsVerdict (.tuple [.bool valid, .text message])

/-- The validator always answers, and with a verdict. -/
def Host.Judges (host : Host) (validator : Hook) : Prop :=
  ∀ (state : State) (number : Nat) (payload : Payload), ∃ other answer answered,
    Engine.consult host validator number .validate (.output payload) state =
      .ok (other, answer) answered ∧ answer.IsVerdict

/-- The redirector always answers, and with the text of a target or with nothing. -/
def Host.Advises (host : Host) (redirector : Hook) : Prop :=
  ∀ (state : State) (number : Nat) (stage : Int) (next : Option String), state.Numbered →
    number < state.instances.length → ∃ other answer answered,
      Engine.consult host redirector number (.redirect stage next true) (.values number) state =
        .ok (other, answer) answered ∧ (answer = .null ∨ ∃ target, answer = .text target)

/-- All hooks of a definition do what they are for. -/
structure Definition.Documented (definition : Definition) (host : Host) : Prop where
  validators : ∀ stage ∈ definition.stages, host.Judges stage.validator
  acceptor : host.Contributes definition.acceptor
  redirector : ∀ redirector ∈ definition.redirector, host.Advises redirector

namespace State

/-- The hooks of all registered workflows do what they are for. -/
def Documented (state : State) (host : Host) : Prop :=
  ∀ name definition, Registry.get state.registry name = .ok definition →
    definition.Documented host

/-- The current instance stands at a stage that refers to a value of which there is no text, which
is why an operation failed, and the engine waits for nothing. -/
def Stranded (state : State) (failure : Failure) : Prop :=
  state.held = none ∧ ∃ number inst definition stage fault,
    state.AtStage number inst definition stage ∧ inst.Lacks stage fault ∧ failure = .value fault

/-- The completion of the last stage of a workflow failed because nothing can be started that its
redirector named. -/
def MisledAtEnd (state : State) (operation : Operation) (failure : Failure) : Prop :=
  (∃ place payload, state.Hears operation place payload) ∧
    (∃ number inst definition, state.Runs number inst definition ∧
      definition.redirector ≠ none ∧ inst.stage + 1 = definition.stageCount) ∧
    ((∃ fault, failure = .binding fault) ∨ ∃ name, failure = .unknownWorkflow name)

end State

/-- A verdict always comes with a message that can be passed on. -/
theorem Verdict.worded_of_isVerdict {answer : Value} (documented : answer.IsVerdict) :
    ∃ verdict text, ofAnswer answer = .ok verdict ∧
      Engine.rejectionText verdict.error = .ok text := by
  cases documented with
  | bare valid => exact ⟨⟨valid, .text ""⟩, "", rfl, rfl⟩
  | silent valid => exact ⟨⟨valid, .text ""⟩, "", by cases valid <;> rfl, rfl⟩
  | worded valid message =>
      have said : ofAnswer (.tuple [.bool valid, .text message]) =
          .ok ⟨valid, if (Value.text message).isTruthy then .text message else .text ""⟩ := by
        cases valid <;> rfl
      refine ⟨_, if (Value.text message).isTruthy then message else "", said, ?_⟩
      dsimp only
      split <;> rfl

/-- A stage that is there is dispatched, unless it refers to a value of which there is no text. -/
theorem State.Dispatch.stranded {state : State} {number : Nat} {inst : Instance}
    {definition : Definition} {result : Option Failure × State}
    (dispatch : state.Dispatch number inst definition result)
    (runs : state.Runs number inst definition) (released : state.held = none)
    (there : ∃ stage, definition.stage? inst.stage = some stage) {failure : Failure}
    (failed : result.1 = some failure) : result.2.Stranded failure := by
  cases dispatch with
  | missing absent =>
      obtain ⟨stage, there⟩ := there
      cases absent.symm.trans there
  | unsupplied found lacks =>
      cases failed
      exact ⟨released, number, inst, definition, _, _, ⟨runs, found⟩, lacks, rfl⟩
  | dispatched found => cases failed

namespace Engine

variable {host : Host} {state : State} {number : Nat} {inst : Instance} {definition : Definition}
  {stage : Stage} {payload : Payload} {invocation : Invocation}

/-- An output is always judged, and a rejection has a message. -/
theorem judge_documented (judges : host.Judges stage.validator) (number : Nat) (payload : Payload)
    (state : State) : ∃ left staged reached,
      judge host number stage payload state = .ok (left, staged) reached ∧
        ∀ error, staged = .error error → ∃ text, rejectionText error = .ok text := by
  obtain ⟨shown, answer, reached, consulted, documented⟩ := judges state number payload
  obtain ⟨verdict, text, said, worded⟩ := Verdict.worded_of_isVerdict documented
  have told : ∀ error, verdict.stage shown.payload = .error error →
      ∃ text, rejectionText error = .ok text := by
    intro error rejected
    rcases Verdict.error_of_stage rejected with ⟨-, rfl⟩ | ⟨fault, rfl⟩
    · exact ⟨text, worded⟩
    · exact ⟨fault.message, rfl⟩
  refine ⟨shown.payload, verdict.stage shown.payload, reached,
    judge_eq_ok_iff.mpr ⟨shown, answer, verdict, consulted, said, rfl, rfl, ?_⟩, told⟩
  intro error rejected
  obtain ⟨message, worded⟩ := told error rejected
  exact writable_of_rejectionText worded

/-- A redirector that is asked fails only by naming a target that cannot be read. -/
theorem advise_documented (advises : ∀ redirector ∈ definition.redirector, host.Advises redirector)
    (numbered : state.Numbered) (inRange : number < state.instances.length) {position : Int}
    {failure : Failure} {reached : State}
    (failed : advise host number definition position state = .error failure reached) :
    definition.redirector ≠ none ∧ ∃ fault, failure = .binding fault := by
  simp only [advise] at failed
  cases declared : definition.redirector with
  | none =>
      rw [declared] at failed
      cases failed
  | some redirector =>
      refine ⟨Option.some_ne_none redirector, ?_⟩
      obtain ⟨other, answer, answered, consulted, documented⟩ := advises redirector declared state
        number position (definition.stageName? position) numbered inRange
      simp only [declared, bind_apply, consulted] at failed
      cases named : redirectTarget answer with
      | ok target => simp [named] at failed
      | error fault =>
          simp only [named, lift_error] at failed
          cases failed
          rcases redirectTarget_error named with binding | ⟨kind, rfl⟩
          · exact binding
          · rcases documented with rfl | ⟨target, rfl⟩
            · cases named
            · cases read : Invocation.parse target <;> simp [redirectTarget, read] at named

/-- A redirector that names a target is there. -/
theorem redirector_of_advise {position : Int} {target : String × Invocation} {reached : State}
    (advised : advise host number definition position state = .ok (some target) reached) :
    definition.redirector ≠ none := by
  intro none
  simp only [advise, none] at advised
  cases advised

/-- Where the first stage of a new workflow cannot be dispatched, its instance is stranded. -/
theorem begun_stranded (grounded : (state.begun invocation).Grounded) (released : state.held = none)
    (filled : state.registry.Filled)
    (known : Registry.get state.registry invocation.name = .ok definition) {failure : Failure}
    (failed : (ending startStage (state.begun invocation)).1 = some failure) :
    (ending startStage (state.begun invocation)).2.Stranded failure :=
  (begun_dispatch grounded known).stranded ⟨rfl, List.getElem?_concat_length, known⟩ released
    (filled.first_stage known) failed

/-- An exit whose acceptors contribute fails only where the stage of a resumed instance refers to a
value of which there is no text. -/
theorem Exit.stranded (contained : host.Contained) {result : Option Failure × State}
    (exits : Exit host state result) (poised : state.Poised) (documented : state.Documented host)
    {failure : Failure} (failed : result.1 = some failure) : result.2.Stranded failure := by
  induction exits with
  | @unanswered state number inst definition other reached runs asked =>
      have exiting := poised.toGrounded.exiting number inst
      obtain ⟨shown, answer, answered, answers, -⟩ := (documented _ _ runs.defined).acceptor
        (state.exiting number inst) number exiting.toNumbered
          (exiting.current_lt number runs.current)
      cases asked.symm.trans answers
  | rested concluded empty => cases failed
  | @unmerged state answered number top inst resumed definition contribution rest fault values
      concluded lastAside there merged =>
      have exiting := poised.toGrounded.exiting number inst
      obtain ⟨shown, answer, after, answers, contributes⟩ :=
        (documented _ _ concluded.defined).acceptor (state.exiting number inst) number
          exiting.toNumbered (exiting.current_lt number concluded.current)
      obtain ⟨other, asked⟩ := concluded.asked
      cases asked.symm.trans answers
      cases (ValueMap.merge_contribution contributes resumed.values).symm.trans merged
  | @continued state answered number top inst resumed definition next contribution rest values
      result concluded restoring past further ih =>
      have registry := (concluded.conclusion contained poised.toGrounded).registry
      refine ih (poised_round contained poised concluded restoring) ?_ failed
      intro name other known
      exact documented name other (registry ▸ known)
  | @dispatched state answered number top inst resumed definition next contribution rest values
      concluded restoring unfinished =>
      have round := poised_round contained poised concluded restoring
      have runs := runs_restored restoring
      refine (startStage_dispatch round.toGrounded runs).stranded runs round.released ?_ failed
      cases there : next.stage? resumed.stage with
      | some stage => exact ⟨stage, rfl⟩
      | none =>
          have counted := round.counted top _ runs.found
          cases unfinished.symm.trans ((next.stage?_eq_none_iff counted).mp there)

/-- An instance that was moved on and is not over waits for its next stage. -/
theorem active_of_forwarded (stands : state.AtStage number inst definition stage)
    (counted : 0 ≤ inst.stage) (running : inst.state = .running) {reached : State}
    (forwarded : state.Forwarded number inst definition reached)
    (unfinished : definition.isCompleteAt (inst.stage + 1) = false) : reached.Active := by
  cases forwarded with
  | last quiet past => cases unfinished.symm.trans past
  | @dispatched values earlier later next arguments quietBefore quietAfter there =>
      have standsNext : (state.forwarded number values earlier).AtStage number
          { inst with values, stage := inst.stage + 1 } definition next :=
        ⟨stands.toRuns.forwarded values earlier, there⟩
      have active := State.active_dispatched standsNext running
        (Int.add_nonneg counted (by decide)) arguments
      exact active.reporting later

/-- A redirector that names nothing that could be started leaves the engine waiting for the next
stage, if there is one. -/
theorem active_or_last (poised : state.Poised)
    (stands : state.AtStage number inst definition stage) (running : inst.state = .running)
    {reached : State} (forwarded : state.Forwarded number inst definition reached) :
    reached.Active ∨ inst.stage + 1 = definition.stageCount := by
  have counted := poised.counted number inst stands.found
  cases past : definition.isCompleteAt (inst.stage + 1) with
  | false => exact .inl (active_of_forwarded stands counted running forwarded past)
  | true =>
      have before := Definition.lt_stageCount counted stands.there
      simp only [Definition.isCompleteAt, decide_eq_true_eq] at past
      exact .inr (by omega)

/-- What the completion of a stage leaves behind if it fails: the engine waits for the next stage,
an instance is stranded, or the workflow is over and its redirector names nothing that could be
started. -/
theorem Course.leaves (contained : host.Contained) (poised : state.Poised)
    (filled : state.registry.Filled) (documented : state.Documented host)
    {result : Option Failure × State} (course : Course host state payload result)
    (stands : state.AtStage number inst definition stage) (running : inst.state = .running)
    {failure : Failure} (failed : result.1 = some failure) :
    result.2.Active ∨ result.2.Stranded failure ∨
      (definition.redirector ≠ none ∧ inst.stage + 1 = definition.stageCount ∧
        ((∃ fault, failure = .binding fault) ∨ ∃ name, failure = .unknownWorkflow name)) := by
  cases course with
  | missing runs absent =>
      obtain ⟨rfl, rfl, rfl⟩ := runs.unique stands.toRuns
      cases absent.symm.trans stands.there
  | @unjudged other inst definition stage failure events also refused =>
      have judges := (documented _ _ also.defined).validators _
        (Definition.mem_of_stage? also.there)
      obtain ⟨left, staged, reached, judged, -⟩ := judge_documented judges other payload state
      cases refused.symm.trans judged
  | @unworded other inst definition stage left error failure events also judged wordless =>
      have judges := (documented _ _ also.defined).validators _
        (Definition.mem_of_stage? also.there)
      obtain ⟨left, staged, reached, again, worded⟩ := judge_documented judges other payload state
      cases judged.symm.trans again
      obtain ⟨text, said⟩ := worded error rfl
      cases wordless.symm.trans said
  | @prompted other inst definition stage left error text events also judged worded =>
      obtain ⟨cancel, known⟩ := poised.cancel_known
      let invocation : Invocation :=
        ⟨state.settings.cancelWorkflow, some [(cancelErrorArgument, text)]⟩
      have asked : Registry.get state.registry invocation.name = .ok cancel := known
      have grounded := (poised.toGrounded.reporting events).reporting
        [.rejected other (definition.stageName? inst.stage) inst.stage error]
      exact .inr (.inl
        (begun_stranded (grounded.diverted also.found asked) rfl filled asked failed))
  | @stuck other inst definition stage next left staged moved fault accepted there lacks =>
      cases failed
      obtain ⟨events, -, -, rfl⟩ := accepted.judged
      have runs := accepted.toRuns.forwarded (inst.values.merged staged)
        (.accepted other (definition.stageName? inst.stage) inst.stage staged :: events)
      exact .inr (.inl ⟨poised.released, _, _, _, next, fault, ⟨runs, there⟩, lacks, rfl⟩)
  | @unadvised other inst definition stage left staged advanced reached failure accepted refused =>
      cases failed
      obtain ⟨rfl, rfl, rfl, rfl⟩ := stands.unique accepted.toAtStage
      have forwarded := accepted.forwarded poised.toGrounded
      have grounded := forwarded.grounded poised.toGrounded
      obtain ⟨values, runs⟩ := forwarded.runs stands.toRuns
      obtain ⟨asked, unread⟩ := advise_documented (documented _ _ stands.defined).redirector
        grounded.toNumbered (grounded.current_lt _ runs.current) refused
      rcases active_or_last poised stands running
        (accepted.reaches contained poised.toGrounded (by rw [ending, refused])) with active | last
      · exact .inl active
      · exact .inr (.inr ⟨asked, last, .inl unread⟩)
  | @unknown other inst definition stage left staged advanced reached target invocation failure
      accepted advised absent =>
      cases failed
      obtain ⟨rfl, rfl, rfl, rfl⟩ := stands.unique accepted.toAtStage
      rcases active_or_last poised stands running
        (accepted.reaches contained poised.toGrounded (by rw [ending, advised])) with active | last
      · exact .inl active
      · exact .inr (.inr ⟨redirector_of_advise advised, last, .inr (Registry.get_error absent)⟩)
  | @redirected other inst later definition target stage left staged advanced reached text
      invocation accepted advised known found =>
      have forwarded : state.Forwarded other inst definition reached :=
        accepted.reaches contained poised.toGrounded (by rw [ending, advised])
      have grounded := (forwarded.grounded poised.toGrounded).reporting
        [.redirecting other (definition.stageName? inst.stage) later.stage text]
      have filledAfter : reached.registry.Filled := by
        rw [Forwarded.registry forwarded]
        exact filled
      exact .inr (.inl
        (begun_stranded (grounded.diverted found known) rfl filledAfter known failed))
  | carried accepted advised unfinished => cases failed
  | @ended other inst definition stage left staged values advanced reached events result accepted
      advised past quiet stops exits =>
      subst stops
      exact .inr (.inl (exits.stranded contained (poised.forwarded other values events) documented
        failed))

/-- An engine that waits hears every output that can be read. -/
theorem hears_of_active (active : state.Active) {output : Value} {payload : Payload}
    (read : Payload.ofOutput output = .ok payload) :
    ∃ place, state.Hears (.complete output) place payload := by
  obtain ⟨number, inst, definition, stage, place, handle, waits⟩ := active
  exact ⟨place, waits.hears .shown read⟩

/-- What a heard completion leaves behind if it fails. -/
theorem leaves_of_hears (contained : host.Contained) (sound : state.Sound)
    (filled : state.registry.Filled) (documented : state.Documented host)
    (ready : state.Idle ∨ state.Active) {operation : Operation} {place : Nat}
    (hears : state.Hears operation place payload) {failure : Failure}
    (failed : (ending (perform host operation) state).1 = some failure)
    (led : ¬ state.MisledAtEnd operation failure) :
    (ending (perform host operation) state).2.Active ∨
      (ending (perform host operation) state).2.Stranded failure := by
  rcases ready with idle | ⟨number, inst, definition, stage, shown, handle, waits⟩
  · cases idle.held.symm.trans hears.held
  · have stands : (state.finishing place).detached.AtStage number inst definition stage :=
      ⟨⟨waits.current, waits.found, waits.defined⟩, waits.there⟩
    rcases (course_of_hears contained sound hears).leaves contained
      (poised_finishing sound hears.held) filled documented stands waits.running failed with
      active | stranded | ⟨asked, last, cause⟩
    · exact .inl active
    · exact .inr stranded
    · exact absurd ⟨⟨place, payload, hears⟩, ⟨number, inst, definition, waits.toRuns, asked, last⟩,
        cause⟩ led

/-- What an operation leaves behind if it fails: the engine is as it was or waits for a stage, or an
instance is stranded. -/
theorem leaves_of_failed (contained : host.Contained) (sound : state.Sound)
    (filled : state.registry.Filled) (documented : state.Documented host)
    (ready : state.Idle ∨ state.Active) {operation : Operation}
    (controls : operation.controls = true) (operates : operation.registers? = none)
    (readable : operation.isUnreadable = false) {failure : Failure}
    (failed : (ending (perform host operation) state).1 = some failure)
    (led : ¬ state.MisledAtEnd operation failure) :
    (ending (perform host operation) state).2 = state ∨
      (ending (perform host operation) state).2.Active ∨
        (ending (perform host operation) state).2.Stranded failure := by
  have completes {output : Value} (given : operation.output? = some output) :
      (ending (perform host operation) state).2 = state ∨
        (ending (perform host operation) state).2.Active ∨
          (ending (perform host operation) state).2.Stranded failure := by
    have completing : Completing host state operation output := perform_completing given
    cases completing with
    | refused closed ends =>
        rw [ends]
        exact .inl rfl
    | @finished number handle opened found unfinished ends =>
        cases read : Payload.ofOutput output with
        | error fault => simp [Operation.isUnreadable, given, read, Except.toBool] at readable
        | ok payload =>
            by_cases held : state.held = some number
            · exact .inr (leaves_of_hears contained sound filled documented ready
                ⟨held, opened, output, given, read⟩ failed led)
            · have listeners := sound.wired.listeners number handle found
              rw [if_neg held] at listeners
              rw [ends, finishHandle_ending found unfinished, read, listeners] at failed
              cases failed
  cases operation with
  | register request => cases operates
  | invoke source force =>
      rcases invoke_failed sound failed with
        refused | ⟨invocation, definition, admitted, known, dispatch⟩
      · have passage : Passage host state (.invoke source force) _ :=
          perform_passage contained sound rfl
        have refusal : state.refusal? (.invoke source force) = some failure := by
          simp only [State.refusal?, refused]
        rw [passage.of_refusal refusal]
        exact .inl rfl
      · exact .inr (.inr (dispatch.stranded ⟨rfl, List.getElem?_concat_length, known⟩ rfl
          (filled.first_stage known) rfl))
  | complete output => exact completes rfl
  | finish position output => exact completes rfl
  | _ => cases controls

/-- After an operation that failed an engine is idle or hears the next completion, or an instance is
stranded before a stage that refers to a value of which there is no text. -/
theorem ready_of_failed (contained : host.Contained) {start : State} (fresh : start.FreshlyBuilt)
    (filled : start.registry.Filled) {operations : List Operation}
    (controls : ∀ operation ∈ operations, operation.controls = true)
    (documented : (Trace.final (perform host) start operations).Documented host)
    (ready : (Trace.final (perform host) start operations).Idle ∨
      (Trace.final (perform host) start operations).Active) {operation : Operation}
    (control : operation.controls = true) (operates : operation.registers? = none)
    (readable : operation.isUnreadable = false) {failure : Failure}
    (led : ¬ (Trace.final (perform host) start operations).MisledAtEnd operation failure) :
    let taken := Trace.take (perform host) (Trace.final (perform host) start operations) operation
    taken.outcome = .error failure →
      taken.after.Idle ∨
        (taken.after.Active ∧ ∀ output payload, Payload.ofOutput output = .ok payload →
          ∃ place, taken.after.Hears (.complete output) place payload) ∨
        taken.after.Stranded failure := by
  intro taken failed
  have sound := sound_final contained fresh.sound controls
  have filled := filled_final contained fresh.sound controls filled
  rw [failure_take] at failed
  have leaves := leaves_of_failed contained sound filled documented ready control operates readable
    failed led
  rw [← after_take] at leaves
  rcases leaves with same | active | stranded
  · rcases ready with idle | active
    · exact .inl (same ▸ idle)
    · exact .inr (.inl ⟨same ▸ active, fun output payload read =>
        hears_of_active (same ▸ active) read⟩)
  · exact .inr (.inl ⟨active, fun output payload read => hears_of_active active read⟩)
  · exact .inr (.inr stranded)

theorem judges_alwaysValid (host : Host) : host.Judges .alwaysValid := by
  intro state number payload
  exact ⟨_, _, _, rfl, .worded true ""⟩

/-- A hook that always replies with the same target advises. -/
theorem advises_custom {programs : Programs} {depth program stamp : Nat} {name target : String}
    (replies : ∀ occasion, programs.behaviour program occasion = .reply (.text target)) :
    (programs.host (depth + 1)).Advises (.custom program .redirector name stamp) := by
  intro state number stage next numbered inRange
  have asked := consult_apply (programs.host (depth + 1)) (.custom program .redirector name stamp)
    number (.redirect stage next true) (.values number) (by
      intro other same
      cases same
      exact inRange)
  have arity (mapping : Value) : (Hook.custom program .redirector name stamp).arity =
      ((Question.redirect stage next true).arguments mapping).length := rfl
  rw [if_pos (arity _)] at asked
  simp only [answerOf, Programs.host, replies] at asked
  exact ⟨_, _, _, asked, .inr ⟨target, rfl⟩⟩

end Engine

/-! ## Operations that go astray

A trip is led to a place that is not there.  A greeting refers to a name that was never told. -/

namespace Astray

def programs : Programs :=
  { behaviour := fun _ _ => .reply (.text "Nowhere") }

def host : Host := programs.host 1

theorem keepsToMapping (program : Nat) (occasion : Occasion) :
    (programs.behaviour program occasion).KeepsToMapping :=
  trivial

theorem contained : host.Contained :=
  Programs.contained_host keepsToMapping 1

/-- The redirector has the stage taken off the display before it answers. -/
def meddling : Host :=
  ({ behaviour := fun _ _ => .operate .deactivate fun _ => .reply (.text "Nowhere") } :
    Programs).host 1

def trip (plan : String) : List Operation :=
  [.register { name := "Trip", plan, redirector := .custom 0 .redirector "astray" },
    .invoke (.text "Trip") false]

/-- The state in which the trip waits for its first stage. -/
def going : State := Trace.final (Engine.perform host) Detour.start (trip "Go;Return")

theorem documented_going : going.Documented host := by
  have plain : ∀ definition ∈ going.registry.definitions,
      (∀ stage ∈ definition.stages, stage.validator = .alwaysValid) ∧
        (definition.acceptor = .identityAcceptor ∨ definition.acceptor = .cancelDecision) ∧
        ∀ redirector ∈ definition.redirector,
          redirector = .custom 0 .redirector "astray" 0 := by decide +kernel
  intro name definition known
  obtain ⟨validators, acceptor, redirector⟩ := plain definition (Registry.mem_definitions known)
  constructor
  · intro stage member
    rw [validators stage member]
    exact Engine.judges_alwaysValid host
  · rcases acceptor with identity | decision
    · rw [identity]
      exact Engine.contributes_identityAcceptor host
    · rw [decision]
      exact Engine.contributes_cancelDecision host
  · intro hook member
    rw [redirector hook member]
    exact Engine.advises_custom fun _ => rfl

theorem wellFormed_going : going.WellFormed :=
  Engine.wellFormed_final contained (Engine.wellFormed_freshlyBuilt Detour.built)
    (by decide +kernel)

theorem going_on (failure : Failure) : ¬ going.MisledAtEnd (.complete .null) failure := by
  rintro ⟨-, ⟨number, inst, definition, runs, -, last⟩, -⟩
  have current : going.current = some 0 := by decide +kernel
  have stands : going.instances[0]?.map (fun inst => (inst.name, inst.stage)) =
      some ("Trip", 0) := by decide +kernel
  have planned : (Registry.get going.registry "Trip").toOption.map Definition.stageCount =
      some 2 := by decide +kernel
  cases current.symm.trans runs.current
  rw [runs.found] at stands
  simp only [Option.map_some, Option.some.injEq, Prod.mk.injEq] at stands
  obtain ⟨named, first⟩ := stands
  have defined := runs.defined
  rw [named] at defined
  rw [defined] at planned
  simp only [Except.toOption, Option.map_some, Option.some.injEq] at planned
  rw [first, planned] at last
  cases last

theorem held_led :
    let taken := Trace.take (Engine.perform host)
      (Trace.final (Engine.perform host) Detour.start (trip "Go;Return")) (.complete .null)
    (∃ failure, taken.outcome = .error failure) ∧ taken.after.current = some 0 ∧
      taken.after.held = some 1 := by
  intro taken
  have failed : taken.outcome.isOk = false := by decide +kernel
  refine ⟨?_, by decide +kernel, by decide +kernel⟩
  cases outcome : taken.outcome with
  | ok answer =>
      rw [outcome] at failed
      cases failed
  | error failure => exact ⟨failure, rfl⟩

end Astray

namespace Engine

/-- The trip cannot be led where its redirector says, and still hears how its second stage is
completed. -/
theorem ready_of_failed_astray :
    let taken := Trace.take (perform Astray.host)
      (Trace.final (perform Astray.host) Detour.start (Astray.trip "Go;Return")) (.complete .null)
    (∃ failure, taken.outcome = .error failure) ∧ taken.after.current = some 0 ∧
      ∃ place, taken.after.Hears (.complete .null) place [] := by
  have controls : ∀ operation ∈ Astray.trip "Go;Return", operation.controls = true := by decide
  obtain ⟨⟨failure, outcome⟩, current, held⟩ := Astray.held_led
  have ready := ready_of_failed Astray.contained Detour.built Detour.filled_start controls
    Astray.documented_going Astray.wellFormed_going.standing rfl rfl rfl
      (Astray.going_on failure) outcome
  refine ⟨⟨failure, outcome⟩, current, ?_⟩
  rcases ready with idle | ⟨-, hears⟩ | ⟨released, -⟩
  · cases idle.current.symm.trans current
  · exact hears .null [] rfl
  · cases released.symm.trans held

/-- An engine that fails may wait for nothing although an instance is current: a greeting whose name
was never told is not dispatched, and a trip that is led astray after its last stage has no other
stage.  It waits in vain for a stage that was completed with a number, and for one that a hook took
off the display. -/
theorem unheard_astray :
    let greeted := Trace.final (perform Astray.host) Detour.start
      [.register { name := "Greet", plan := "Hello(!name)" }, .invoke (.text "Greet") false]
    let led := Trace.final (perform Astray.host) Detour.start
      (Astray.trip "Go" ++ [.complete (.dict [])])
    let spoilt := Trace.final (perform Astray.host) Detour.start
      (Astray.trip "Go;Return" ++ [.complete (.int 5)])
    let meddled := Trace.final (perform Astray.meddling) Detour.start
      (Astray.trip "Go;Return" ++ [.complete (.dict [])])
    (greeted.current = some 0 ∧ greeted.held = none) ∧
      (led.current = some 0 ∧ led.held = none) ∧
      (spoilt.current = some 0 ∧ spoilt.dispatcher.handles.map (·.finished) = [true]) ∧
      meddled.current = some 0 ∧ meddled.dispatcher.current = none := by
  decide +kernel

end Engine

end Workflow
