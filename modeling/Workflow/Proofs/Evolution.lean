import Workflow.Proofs.Chronicle

/-!
# How instances evolve

As long as hooks leave the values of instances alone, an instance is no more than its part of the
chronicle: its stage is the number of its outputs, and its values are all that it took over, merged
into the empty map.  `State.Evolves` says this of any two states of a run, so that it is shown for
each change of a state and then for changes that follow one another.
-/

namespace Workflow

theorem State.FreshlyBuilt.instances {state : State} (fresh : state.FreshlyBuilt) :
    state.instances = [] := by
  obtain ⟨registry, settings, backend, stamp, definition, events, -, rfl⟩ := fresh.registered
  rfl

/-- The hook leaves all instances as they are when it is shown the values of one. -/
def Host.Spares (host : Host) (hook : Hook) : Prop :=
  ∀ (state : State) (number : Nat) (question : Question), state.Numbered →
    number < state.instances.length →
      (Engine.ending (Engine.consult host hook number question (.values number))
        state).2.instances = state.instances

/-- If the acceptor answers, then with something that can be taken over. -/
def Host.Yields (host : Host) (acceptor : Hook) : Prop :=
  ∀ (state : State) (number : Nat) (shown : Shown) (answer : Value) (answered : State),
    state.Numbered → number < state.instances.length →
      Engine.consult host acceptor number .accept (.values number) state =
        .ok (shown, answer) answered → answer.IsContribution

/-- The hooks of a definition that are shown the values of an instance leave them alone, and what
the acceptor answers can be taken over. -/
structure Definition.Discreet (definition : Definition) (host : Host) : Prop where
  acceptor : host.Spares definition.acceptor
  yields : host.Yields definition.acceptor
  redirector : ∀ redirector ∈ definition.redirector, host.Spares redirector

/-- All registered definitions are discreet. -/
def State.Discreet (state : State) (host : Host) : Prop :=
  ∀ name definition, Registry.get state.registry name = .ok definition → definition.Discreet host

theorem State.Discreet.of_registry {before after : State} {host : Host}
    (discreet : before.Discreet host) (same : after.registry = before.registry) :
    after.Discreet host := by
  intro name definition known
  rw [same] at known
  exact discreet name definition known

/-- An instance took over deposits, one after the other, and may be finished now. -/
structure Instance.Took (before after : Instance) (deposits : List Deposit) : Prop where
  stage : after.stage = before.stage + (deposits.countP Deposit.isOutput : Nat)
  values : ValueMap.mergeAll (deposits.map Deposit.value) before.values = .ok () after.values
  state : after.state = before.state ∨ after.state = .finished

namespace Instance.Took

theorem refl (inst : Instance) : inst.Took inst [] :=
  ⟨by simp, rfl, .inl rfl⟩

theorem trans {before middle after : Instance} {earlier later : List Deposit}
    (first : before.Took middle earlier) (second : middle.Took after later) :
    before.Took after (earlier ++ later) where
  stage := by
    rw [second.stage, first.stage, List.countP_append]
    omega
  values := by
    rw [List.map_append, ValueMap.mergeAll_append first.values, second.values]
  state := by
    rcases second.state with same | finished
    · rw [same]
      exact first.state
    · exact .inr finished

end Instance.Took

namespace State

/-- The instance of a number.  One that has not begun has taken over nothing. -/
def instanceOf (state : State) (number : Nat) : Instance :=
  state.instances[number]?.getD default

/-- Every instance took over what was deposited for it, and nothing else. -/
structure Evolves (before after : State) (deposits : List Deposit) : Prop where
  grows : before.instances.length ≤ after.instances.length
  took : ∀ number, (before.instanceOf number).Took (after.instanceOf number)
    (deposits.filter fun deposit => deposit.inst = number)

namespace Evolves

variable {before middle after : State} {earlier later : List Deposit}

theorem of_same (same : after.instances = before.instances) : before.Evolves after [] where
  grows := Nat.le_of_eq (congrArg List.length same.symm)
  took := by
    intro number
    rw [instanceOf, instanceOf, same]
    exact .refl _

theorem trans (first : before.Evolves middle earlier) (second : middle.Evolves after later) :
    before.Evolves after (earlier ++ later) where
  grows := Nat.le_trans first.grows second.grows
  took := by
    intro number
    rw [List.filter_append]
    exact (first.took number).trans (second.took number)

/-- What does not concern the instances may follow. -/
theorem same (evolves : before.Evolves middle earlier)
    (same : after.instances = middle.instances) : before.Evolves after earlier := by
  have unchanged := evolves.trans (.of_same same)
  rwa [List.append_nil] at unchanged

/-- What does not concern the instances may come before. -/
theorem since (evolves : middle.Evolves after later)
    (same : middle.instances = before.instances) : before.Evolves after later :=
  (of_same same).trans evolves

end Evolves

variable {state : State} {number : Nat} {inst : Instance}

theorem instanceOf_eq (found : state.instances[number]? = some inst) :
    state.instanceOf number = inst := by
  rw [instanceOf, found]
  rfl

theorem evolves_changing (found : state.instances[number]? = some inst)
    (change : Instance → Instance) {deposits : List Deposit}
    (took : inst.Took (change inst) deposits) (own : ∀ deposit ∈ deposits, deposit.inst = number) :
    state.Evolves (state.changing number change) deposits where
  grows := by simp [changing]
  took := by
    intro other
    by_cases same : number = other
    · subst same
      have changed : (state.changing number change).instances[number]? = some (change inst) := by
        simp [changing, found]
      rw [instanceOf_eq found, instanceOf_eq changed,
        List.filter_eq_self.mpr fun deposit member => decide_eq_true (own deposit member)]
      exact took
    · have others : (state.changing number change).instanceOf other = state.instanceOf other := by
        simp [instanceOf, changing, same]
      have nothing : deposits.filter (fun deposit => deposit.inst = other) = [] := by
        apply List.filter_eq_nil_iff.mpr
        intro deposit member
        rw [own deposit member]
        simpa using same
      rw [others, nothing]
      exact .refl _

theorem evolves_begun (state : State) (invocation : Invocation) :
    state.Evolves (state.begun invocation) [] where
  grows := by simp [begun]
  took := by
    intro number
    by_cases new : number = state.instances.length
    · subst new
      have absent : state.instanceOf state.instances.length = default := by simp [instanceOf]
      have began : (state.begun invocation).instanceOf state.instances.length =
          Instance.ofInvocation invocation := by simp [instanceOf, begun]
      rw [absent, began]
      exact ⟨rfl, rfl, .inl rfl⟩
    · have others : (state.begun invocation).instanceOf number = state.instanceOf number := by
        simp only [instanceOf, begun, List.getElem?_append]
        split
        · rfl
        · next past =>
          have outside : [Instance.ofInvocation invocation].length ≤
              number - state.instances.length := by
            rw [List.length_singleton]
            omega
          rw [List.getElem?_eq_none_iff.mpr outside,
            List.getElem?_eq_none_iff.mpr (Nat.le_of_not_lt past)]
      rw [others]
      exact .refl _

theorem evolves_diverted (state : State) (number : Nat) (inst : Instance)
    (invocation : Invocation) : state.Evolves (state.diverted number inst invocation) [] :=
  (evolves_begun (state.detached.asided number inst) invocation).since rfl

/-- A change that amounts to one deposit. -/
theorem evolves_taking (found : state.instances[number]? = some inst)
    (change : Instance → Instance) (deposit : Deposit) (own : deposit.inst = number)
    (stage : (change inst).stage = inst.stage + ([deposit].countP Deposit.isOutput : Nat))
    (merged : ValueMap.merge deposit.value inst.values = .ok () (change inst).values)
    (kept : (change inst).state = inst.state) :
    state.Evolves (state.changing number change) [deposit] := by
  refine evolves_changing found change ⟨stage, ?_, .inl kept⟩ ?_
  · rw [List.map_singleton, ValueMap.mergeAll_singleton, merged]
  · intro other member
    rw [List.mem_singleton.mp member, own]

/-- An instance that is one stage further took over the output. -/
theorem evolves_forwarded (found : state.instances[number]? = some inst) {left : Payload}
    {values : ValueMap} (merged : ValueMap.merge (.dict left) inst.values = .ok () values)
    (events : List Event) :
    state.Evolves (state.forwarded number values events) [.output number left] :=
  (evolves_taking found (fun inst => { inst with values, stage := inst.stage + 1 })
    (.output number left) rfl rfl merged rfl).same rfl

/-- An instance that is resumed took over the contribution. -/
theorem evolves_restored (found : state.instances[number]? = some inst) {answer : Value}
    {values : ValueMap} (merged : ValueMap.merge answer inst.values = .ok () values)
    (rest : List (Option Nat)) :
    state.Evolves (state.restored number inst rest values) [.contribution number answer] :=
  (evolves_taking found (fun inst => { inst with values }) (.contribution number answer) rfl
    (Int.add_zero _).symm merged rfl).same rfl

theorem evolves_exiting (found : state.instances[number]? = some inst) :
    state.Evolves (state.exiting number inst) [] :=
  (evolves_changing found _ ⟨by simp, rfl, .inr rfl⟩ (by simp)).same rfl

end State

namespace Engine

variable {host : Host} {state : State} {number : Nat} {inst : Instance} {definition : Definition}
  {stage : Stage} {payload : Payload}

/-! ## Exits -/

theorem started_instances {result : Option Failure × State} (started : state.Started result) :
    result.2.instances = state.instances := by
  cases started <;> rfl

theorem Concluded.conclude_eq {answer : Value} {answered : State}
    (concluded : Concluded host state number inst definition answer answered) :
    conclude host state = .ok answer answered := by
  obtain ⟨other, asked⟩ := concluded.asked
  rw [conclude_apply concluded.toRuns, bind_apply, asked]
  rfl

/-- Asking the acceptor of the current instance finishes the instance, and that is all. -/
theorem evolves_asked (grounded : state.Grounded) (runs : state.Runs number inst definition)
    (spares : host.Spares definition.acceptor) :
    state.Evolves (ending (consult host definition.acceptor number .accept (.values number))
      (state.exiting number inst)).2 [] := by
  have exiting := grounded.exiting number inst
  have spared := spares (state.exiting number inst) number .accept exiting.toNumbered
    (exiting.current_lt number runs.current)
  exact (State.evolves_exiting runs.found).same spared

theorem Concluded.evolves {answer : Value} {answered : State} (grounded : state.Grounded)
    (concluded : Concluded host state number inst definition answer answered)
    (spares : host.Spares definition.acceptor) : state.Evolves answered [] := by
  obtain ⟨other, asked⟩ := concluded.asked
  have evolves := evolves_asked grounded concluded.toRuns spares
  rw [ending, asked] at evolves
  exact evolves

theorem Concluded.isContribution {answer : Value} {answered : State} (grounded : state.Grounded)
    (concluded : Concluded host state number inst definition answer answered)
    (yields : host.Yields definition.acceptor) : answer.IsContribution := by
  obtain ⟨other, asked⟩ := concluded.asked
  have exiting := grounded.exiting number inst
  exact yields _ number _ _ _ exiting.toNumbered (exiting.current_lt number concluded.current) asked

theorem Restoring.resume_eq {answer : Value} {answered : State} {rest : List (Option Nat)}
    {values : ValueMap}
    (restoring : Restoring answered answer number inst rest definition values) :
    resume answer answered =
      .ok (definition.isCompleteAt inst.stage) (answered.restored number inst rest values) := by
  rw [resume_apply restoring.lastAside restoring.found restoring.defined, restoring.merged]

/-- Along an exit every instance takes over what is handed over to it. -/
theorem Exit.evolves (contained : host.Contained) {bound : Nat} {result : Option Failure × State}
    (exits : Exit host state result) (grounded : state.Grounded) (discreet : state.Discreet host)
    (enough : state.suspended.length ≤ bound) :
    state.Evolves result.2 (handovers host (bound + 1) state) := by
  -- Each round of the exit is one of the recursion, and takes at least one entry off the stack.
  induction exits generalizing bound with
  | @unanswered state number inst definition failure reached runs asked =>
      have evolves := evolves_asked grounded runs (discreet _ _ runs.defined).acceptor
      rw [ending, asked] at evolves
      rw [handovers, conclude_apply runs, bind_apply, asked]
      exact evolves
  | @rested state answered number inst definition answer concluded empty =>
      simp only [handovers, concluded.conclude_eq, empty]
      exact (concluded.evolves grounded (discreet _ _ concluded.defined).acceptor).same rfl
  | unmerged concluded lastAside there merged =>
      have contributes := concluded.isContribution grounded (discreet _ _ concluded.defined).yields
      rw [ValueMap.merge_contribution contributes] at merged
      cases merged
  | @continued state answered number top inst resumed definition next answer rest values result
      concluded restoring past further ih =>
      have conclusion := concluded.conclusion contained grounded
      have shorter := Nat.le_trans conclusion.length_suspended_le enough
      simp only [restoring.lastAside, List.length_cons] at shorter
      obtain ⟨bound, rfl⟩ := Nat.exists_eq_add_one_of_ne_zero (Nat.ne_zero_of_lt shorter)
      have later := ih (grounded_restored (conclusion.grounded concluded.found grounded)
        restoring.lastAside resumed values) (discreet.of_registry conclusion.registry)
        (Nat.le_of_lt_succ shorter)
      have handed := State.evolves_restored restoring.found restoring.merged rest
      rw [handovers, concluded.conclude_eq]
      simp only [restoring.lastAside, restoring.resume_eq, past]
      exact (concluded.evolves grounded (discreet _ _ concluded.defined).acceptor).trans
        (handed.trans later)
  | @dispatched state answered number top inst resumed definition next answer rest values concluded
      restoring unfinished =>
      have conclusion := concluded.conclusion contained grounded
      have started := startStage_ending (grounded_restored
        (conclusion.grounded concluded.found grounded) restoring.lastAside resumed values)
        (runs_restored restoring)
      have handed := State.evolves_restored restoring.found restoring.merged rest
      rw [handovers, concluded.conclude_eq]
      simp only [restoring.lastAside, restoring.resume_eq, unfinished]
      exact (concluded.evolves grounded (discreet _ _ concluded.defined).acceptor).trans
        (handed.same (started_instances started))

/-! ## Completions -/

theorem startNext_instances (grounded : state.Grounded) (runs : state.Runs number inst definition)
    {reached : Int} {advanced : State}
    (started : startNext definition reached state = .ok () advanced) :
    advanced.instances = state.instances := by
  rw [startNext] at started
  split at started
  · have dispatched := startStage_ending grounded runs
    rw [ending, started] at dispatched
    exact started_instances dispatched
  · cases started
    rfl

/-- A redirector that leaves the instances alone can be asked without effect on them. -/
theorem advise_instances (spares : ∀ redirector ∈ definition.redirector, host.Spares redirector)
    (numbered : state.Numbered) (inRange : number < state.instances.length) (reached : Int) :
    (ending (advise host number definition reached) state).2.instances = state.instances := by
  simp only [advise]
  cases named : definition.redirector with
  | none => rfl
  | some redirector =>
      have spared := spares redirector named state number
        (.redirect reached (definition.stageName? reached) true) numbered inRange
      simp only [ending, bind_apply] at spared ⊢
      generalize consult host redirector number _ (.values number) state = result at spared ⊢
      cases result with
      | error failure after => exact spared
      | ok answer after =>
          simp only
          cases redirectTarget answer.2 <;> exact spared

section Accepted

variable {left : Payload} {staged : ValueMap} {moved advanced reached : State}

theorem Accepts.evolves
    (accepts : Accepts host state payload number inst definition stage left staged moved) :
    state.Evolves moved [.output number left] := by
  obtain ⟨events, -, judged, rfl⟩ := accepts.judged
  obtain ⟨-, -, verdict, -, -, -, staged, -⟩ := judge_eq_ok_iff.mp judged
  have amounts := (Verdict.stage_eq_ok_iff.mp staged).2
  exact State.evolves_forwarded accepts.found (ValueMap.merge_of_ofValue amounts inst.values) _

namespace Advanced

variable (accepted : Advanced host state payload number inst definition stage left staged advanced)
include accepted

theorem evolves (grounded : state.Grounded) :
    state.Evolves advanced [.output number left] := by
  obtain ⟨moved, accepts, started⟩ := accepted.accepted
  have evolves := accepts.evolves
  obtain ⟨events, -, judged, rfl⟩ := accepts.judged
  exact evolves.same (startNext_instances (grounded.forwarded _ _ _)
    (accepted.toRuns.forwarded _ _) started)

/-- Whatever the redirector answers, the instance took over its output and no more. -/
theorem evolves_advised (grounded : state.Grounded) (discreet : state.Discreet host)
    (ends : (ending (advise host number definition (inst.stage + 1)) advanced).2 = reached) :
    state.Evolves reached [.output number left] := by
  have forwarded := accepted.forwarded grounded
  have numbered := (forwarded.grounded grounded).toNumbered
  obtain ⟨values, runs⟩ := forwarded.runs accepted.toRuns
  have spared := advise_instances (discreet _ _ accepted.defined).redirector numbered
    (numbered.current_lt number runs.current) (inst.stage + 1)
  exact ends ▸ (accepted.evolves grounded).same spared

end Advanced

end Accepted

/-- Whatever course a completion takes, instances take over what the chronicle says of it. -/
theorem Course.evolves (contained : host.Contained) (grounded : state.Grounded)
    (discreet : state.Discreet host) {result : Option Failure × State}
    (course : Course host state payload result) :
    state.Evolves result.2 (deposits host payload state) := by
  cases course with
  | missing runs absent =>
      rw [deposits, runs.atStage?_eq_none absent]
      exact .of_same rfl
  | unjudged stands failed =>
      simp only [deposits, stands.atStage?, failed]
      exact .of_same rfl
  | unworded stands judged wordless =>
      simp only [deposits, stands.atStage?, judged]
      exact .of_same rfl
  | @prompted number inst definition stage left error text events stands judged worded =>
      obtain ⟨cancel, known⟩ := grounded.cancel_known
      let prompt : Invocation :=
        ⟨state.settings.cancelWorkflow, some [(cancelErrorArgument, text)]⟩
      let rejected := (state.reporting events).reporting
        [.rejected number (definition.stageName? inst.stage) inst.stage error]
      have started : (rejected.diverted number inst prompt).Started _ :=
        diverted_started ((grounded.reporting events).reporting _) stands.found known
      have aside := rejected.evolves_diverted number inst prompt
      simp only [deposits, stands.atStage?, judged]
      exact (aside.same (started_instances started)).since rfl
  | stuck accepted there lacks failed =>
      simp only [accepted.deposits_eq, onward, bind_apply, failed]
      exact accepted.evolves
  | unadvised accepted failed =>
      simp only [accepted.deposits_eq, failed]
      exact accepted.evolves_advised grounded discreet (by rw [ending, failed])
  | unknown accepted advised absent =>
      simp only [accepted.deposits_eq, advised]
      exact accepted.evolves_advised grounded discreet (by rw [ending, advised])
  | @redirected number inst later definition other stage left staged advanced reached target
      invocation accepted advised known found =>
      have ends :
          (ending (advise host number definition (inst.stage + 1)) advanced).2 = reached := by
        rw [ending, advised]
      have further := (accepted.reaches contained grounded ends).grounded grounded
      let redirecting := reached.reporting
        [.redirecting number (definition.stageName? inst.stage) later.stage target]
      have started : (redirecting.diverted number later invocation).Started _ :=
        diverted_started (further.reporting _) found known
      have aside := redirecting.evolves_diverted number later invocation
      simp only [accepted.deposits_eq, advised]
      exact (accepted.evolves_advised grounded discreet ends).trans
        ((aside.same (started_instances started)).since rfl)
  | carried accepted advised unfinished =>
      simp only [accepted.deposits_eq, advised, unfinished]
      exact accepted.evolves_advised grounded discreet (by rw [ending, advised])
  | @ended number inst definition stage left staged values advanced reached events result accepted
      advised past quiet stops exits =>
      have ends :
          (ending (advise host number definition (inst.stage + 1)) advanced).2 = reached := by
        rw [ending, advised]
      have forwarded := accepted.reaches contained grounded ends
      have handed := exits.evolves contained (forwarded.grounded grounded)
        (discreet.of_registry (Forwarded.registry forwarded))
        (Nat.le_add_right reached.suspended.length host.patience)
      rw [Nat.add_right_comm] at handed
      simp only [accepted.deposits_eq, advised, past]
      exact (accepted.evolves_advised grounded discreet ends).trans handed

/-! ## Runs -/

/-- In an operation instances take over what the chronicle says of it, whatever becomes of the
operation. -/
theorem take_evolves (contained : host.Contained) (sound : state.Sound) {operation : Operation}
    (controls : operation.controls = true) (discreet : state.Discreet host) :
    state.Evolves (Trace.take (perform host) state operation).after
      (depositsOf host state operation) := by
  have passage := perform_passage contained sound controls
  rw [after_take]
  cases heard : state.heard? operation with
  | some told =>
      obtain ⟨place, payload⟩ := told
      have hears := State.heard?_eq_some_iff.mp heard
      have grounded := (poised_finishing sound hears.held).toGrounded
      have discreetly : (state.finishing place).detached.Discreet host := discreet
      have evolves := (course_of_hears contained sound hears).evolves contained grounded discreetly
      simp only [depositsOf, heard]
      exact evolves.since rfl
  | none =>
      simp only [depositsOf, heard]
      by_cases starts : state.letsIn operation = true
      · obtain ⟨source, force, invocation, rfl, admitted⟩ := State.admitted_of_letsIn starts
        have began : state.Evolves (state.detached.begun invocation) [] :=
          (State.evolves_begun state.detached invocation).since rfl
        rcases passage.of_admitted admitted with ⟨reached, started, same⟩ | ⟨failure, same⟩
        · rw [same]
          have started := started_instances started
          exact began.same started
        · rw [same]
          exact began
      · have deaf (place : Nat) (payload : Payload) : ¬ state.Hears operation place payload := by
          intro hears
          cases heard.symm.trans (State.heard?_eq_some_iff.mpr hears)
        exact .of_same (passage.still starts deaf).instances

/-- In a run instances take over what its chronicle says. -/
theorem evolves_final (contained : host.Contained) (sound : state.Sound)
    {operations : List Operation}
    (controls : ∀ operation ∈ operations, operation.controls = true)
    (discreet : ∀ taken ∈ Trace.run (perform host) state operations,
      taken.before.Discreet host) :
    state.Evolves (Trace.final (perform host) state operations)
      (chronicle host state operations) := by
  induction operations generalizing state with
  | nil => exact .of_same rfl
  | cons operation rest ih =>
      have control := controls operation List.mem_cons_self
      have discreetly := discreet _ List.mem_cons_self
      have passage := take_passage contained sound control
      have first := take_evolves contained sound control discreetly
      exact first.trans (ih (passage.sound contained sound)
        (fun later member => controls later (List.mem_cons_of_mem _ member))
        fun taken member => discreet taken (List.mem_cons_of_mem _ member))

/-- In every run an instance is what the chronicle says of it.  The outputs that it took over are
those that were accepted, and it stands at the stage whose number is how many they are.  Its values
are all that it took over, merged into the empty map in the order in which it was taken over.  It is
running until it is finished for good. -/
theorem told_of_discreet (contained : host.Contained) {start : State} (fresh : start.FreshlyBuilt)
    {operations further : List Operation}
    (controls : ∀ operation ∈ operations ++ further, operation.controls = true)
    (discreet : ∀ taken ∈ Trace.run (perform host) start (operations ++ further),
      taken.before.Discreet host) {number : Nat} {inst : Instance}
    (found : (Trace.final (perform host) start operations).instances[number]? = some inst) :
    let own := (chronicle host start operations).filter fun deposit => deposit.inst = number
    (∀ taken ∈ Trace.run (perform host) start operations, ∀ left,
      .output number left ∈ depositsOf host taken.before taken.command ↔
        Approves host taken.before taken.command number left) ∧
      inst.stage = (own.countP Deposit.isOutput : Nat) ∧
      ValueMap.built (ValueMap.mergeAll (own.map Deposit.value)) = .ok inst.values ∧
      (inst.state = .running ∨ inst.state = .finished) ∧
      ∃ later, (Trace.final (perform host) start (operations ++ further)).instances[number]? =
        some later ∧ (later.state = inst.state ∨ later.state = .finished) := by
  intro own
  rw [Trace.run_append] at discreet
  have controlled : ∀ operation ∈ operations, operation.controls = true := fun operation member =>
    controls operation (List.mem_append_left _ member)
  have evolves := evolves_final contained fresh.sound controlled fun taken member =>
    discreet taken (List.mem_append_left _ member)
  have evolvesFurther := evolves_final contained (sound_final contained fresh.sound controlled)
    (fun operation member => controls operation (List.mem_append_right _ member))
    fun taken member => discreet taken (List.mem_append_right _ member)
  have unborn : start.instanceOf number = default := by
    rw [State.instanceOf, fresh.instances]
    rfl
  have took := evolves.took number
  rw [unborn, State.instanceOf_eq found] at took
  refine ⟨fun taken member left => output_mem_depositsOf_iff, took.stage.trans (Int.zero_add _), ?_,
    took.state, ?_⟩
  · rw [ValueMap.built, show ValueMap.mergeAll (own.map Deposit.value) .empty = _ from took.values]
  · have inRange := (List.getElem?_eq_some_iff.mp found).1
    have there := List.getElem?_eq_getElem (Nat.lt_of_lt_of_le inRange evolvesFurther.grows)
    have took := evolvesFurther.took number
    rw [State.instanceOf_eq found, State.instanceOf_eq there] at took
    rw [Trace.final, List.foldl_append]
    exact ⟨_, there, took.state⟩

theorem spares_of_answers {hook : Hook}
    (answers : ∀ (state : State) (number : Nat) (journal : List Event) (arguments : List Value),
      state.Numbered → number < state.instances.length →
        (ending (answerOf host journal arguments (.values number) hook) state).2.instances =
          state.instances) : host.Spares hook := by
  intro state number question numbered inRange
  have asked : (state.consulting hook number question (.values number)).Numbered :=
    ⟨numbered.current_lt, numbered.suspended_lt⟩
  have spared := answers (state.consulting hook number question (.values number)) number
    state.journal (question.arguments (.dict ((Shown.values number).seen state))) asked inRange
  rw [ending, consult_apply host hook number question (.values number) (by
    intro other same
    cases same
    exact inRange)]
  by_cases arity :
      hook.arity = (question.arguments (.dict ((Shown.values number).seen state))).length
  · rw [if_pos arity]
    exact spared
  · rw [if_neg arity]

theorem spares_identityAcceptor (host : Host) : host.Spares .identityAcceptor :=
  spares_of_answers fun _ _ _ _ _ _ => rfl

/-- The decision of the prompt gives up an instance, which stays as it is. -/
theorem spares_cancelDecision (host : Host) : host.Spares .cancelDecision := by
  apply spares_of_answers
  intro state number journal arguments numbered inRange
  rcases decideCancel_apply numbered (List.getElem?_eq_getElem inRange) with
    ⟨-, decided⟩ | ⟨top, lost, rest, -, -, -, decided⟩
  · simp only [ending, answerOf, bind_apply, decided, pure_apply]
  · simp only [ending, answerOf, bind_apply, decided, pure_apply]
    rfl

/-- A hook that only replies leaves everything alone. -/
theorem spares_custom {programs : Programs} {depth program stamp : Nat} {role : Role}
    {name : String} {answer : Value}
    (replies : ∀ occasion, programs.behaviour program occasion = .reply answer) :
    (programs.host (depth + 1)).Spares (.custom program role name stamp) := by
  apply spares_of_answers
  intro state number journal arguments numbered inRange
  simp only [answerOf, Programs.host, replies]
  rfl

theorem yields_of_contributes {acceptor : Hook} (contributes : host.Contributes acceptor) :
    host.Yields acceptor := by
  intro state number shown answer answered numbered inRange asked
  obtain ⟨other, given, reached, same, contribution⟩ := contributes state number numbered inRange
  cases asked.symm.trans same
  exact contribution

end Engine

/-! ## Keepsakes

A trip leads to a visit after each of its stages, and every visit leaves something to the trip.  The
output of the first stage must not be empty, and it is stamped. -/

namespace Keepsakes

def programs : Programs :=
  { behaviour := fun program _ =>
      match program with
      | 0 => .reply (.text "Visit")
      | 1 => .reply (.dict [(.text "seen", .bool true)])
      | _ => .look fun entries =>
        if entries.isEmpty then .reply (.bool false)
        else .write (.text "stamped") (.bool true) (.reply (.bool true)) }

def host : Host := programs.host 1

theorem keepsToMapping (program : Nat) (occasion : Occasion) :
    (programs.behaviour program occasion).KeepsToMapping := by
  simp only [programs]
  split
  · trivial
  · trivial
  · intro entries
    cases entries <;> trivial

theorem contained : host.Contained :=
  Programs.contained_host keepsToMapping 1

/-- The first output is empty, so the user is asked whether to continue. -/
def operations : List Operation :=
  [.register
      { name := "Trip", plan := "Go;Return", redirector := .custom 0 .redirector "detour",
        validators := [.custom 2 .validator "stamp", .default] },
    .register { name := "Visit", plan := "Look", acceptor := .custom 1 .acceptor "report" },
    .invoke (.text "Trip") false, .complete .null, .complete .null,
    .complete (.dict [(.text "fare", .int 5)]), .complete .null]

def further : List Operation :=
  [.complete (.dict [(.text "fare", .int 7)]), .complete .null]

theorem discreet_run :
    ∀ taken ∈ Trace.run (Engine.perform host) Detour.start (operations ++ further),
      taken.before.Discreet host := by
  have plain : ∀ taken ∈ Trace.run (Engine.perform host) Detour.start (operations ++ further),
      ∀ definition ∈ taken.before.registry.definitions,
        (definition.acceptor = .identityAcceptor ∨ definition.acceptor = .cancelDecision ∨
          definition.acceptor = .custom 1 .acceptor "report" 2) ∧
        ∀ redirector ∈ definition.redirector,
          redirector = .custom 0 .redirector "detour" 0 := by decide +kernel
  have reports : (Value.dict [(.text "seen", .bool true)]).IsContribution :=
    .inr ⟨⟨[("seen", .bool true)]⟩, by simp [ValueMap.Storable, Value.kind, Kind.isSupported], rfl⟩
  intro taken member name definition known
  obtain ⟨acceptor, redirector⟩ := plain taken member definition (Registry.mem_definitions known)
  have acceptors : host.Spares definition.acceptor ∧ host.Yields definition.acceptor := by
    rcases acceptor with identity | decision | report
    · rw [identity]
      exact ⟨Engine.spares_identityAcceptor host,
        Engine.yields_of_contributes (Engine.contributes_identityAcceptor host)⟩
    · rw [decision]
      exact ⟨Engine.spares_cancelDecision host,
        Engine.yields_of_contributes (Engine.contributes_cancelDecision host)⟩
    · rw [report]
      exact ⟨Engine.spares_custom fun _ => rfl,
        Engine.yields_of_contributes (Engine.contributes_custom (fun _ => rfl) reports)⟩
  refine ⟨acceptors.1, acceptors.2, ?_⟩
  intro hook asked
  rw [redirector hook asked]
  exact Engine.spares_custom fun _ => rfl

end Keepsakes

namespace Engine

/-- The trip took over one output and the contributions of the prompt and of a visit.  After another
visit it is finished. -/
theorem told_of_discreet_keepsakes :
    let start := Detour.start
    let own := (chronicle Keepsakes.host start Keepsakes.operations).filter fun deposit =>
      deposit.inst = 0
    own.map Deposit.isOutput = [false, true, false] ∧
      ∃ inst, (Trace.final (perform Keepsakes.host) start Keepsakes.operations).instances[0]? =
          some inst ∧ inst.stage = 1 ∧ inst.state = .running ∧
        inst.values.entries.map Prod.fst = ["fare", "stamped", "seen"] ∧
        ValueMap.built (ValueMap.mergeAll (own.map Deposit.value)) = .ok inst.values ∧
        ∃ later, (Trace.final (perform Keepsakes.host) start
          (Keepsakes.operations ++ Keepsakes.further)).instances[0]? = some later ∧
            later.state = .finished := by
  intro start own
  have controls : ∀ operation ∈ Keepsakes.operations ++ Keepsakes.further,
      operation.controls = true := by decide
  have kinds : own.map Deposit.isOutput = [false, true, false] := by decide +kernel
  have outputs : own.countP Deposit.isOutput = 1 := by decide +kernel
  have keys : (ValueMap.built (ValueMap.mergeAll (own.map Deposit.value))).toOption.map
      (fun map => map.entries.map Prod.fst) = some ["fare", "stamped", "seen"] := by decide +kernel
  have runs : (Trace.final (perform Keepsakes.host) start Keepsakes.operations).instances[0]?.map
      Instance.state = some .running := by decide +kernel
  have ends : (Trace.final (perform Keepsakes.host) start
      (Keepsakes.operations ++ Keepsakes.further)).instances[0]?.map Instance.state =
        some .finished := by decide +kernel
  obtain ⟨inst, found, running⟩ := Option.map_eq_some_iff.mp runs
  obtain ⟨later, there, finished⟩ := Option.map_eq_some_iff.mp ends
  obtain ⟨-, stage, values, -, -⟩ := told_of_discreet Keepsakes.contained Detour.built controls
    Keepsakes.discreet_run found
  have merged : ValueMap.built (ValueMap.mergeAll (own.map Deposit.value)) = .ok inst.values :=
    values
  rw [merged] at keys
  refine ⟨kinds, inst, found, ?_, running, Option.some.inj keys, merged, later, there, finished⟩
  rw [stage]
  exact congrArg Int.ofNat outputs

end Engine

end Workflow
