import Workflow.Proofs.Course
import Workflow.Proofs.Registering

/-!
# Stages that are not there

An engine looks up the stage of its current instance in the definition that is registered at this
moment.  When it dispatches a stage it asks first whether there is one.  When a stage is completed
it does not, so it fails if a shorter definition was registered meanwhile.  Nothing else that it
looks for can be missing.
-/

namespace Workflow

/-- Something was looked for at a place where nothing is. -/
def Failure.isAbsence : Failure → Bool
  | .outOfRange | .nothingToResume | .nothingSuspended => true
  | _ => false

/-- A value, a text or an answer is not what it should be, or a workflow is not known. -/
def Failure.isMishap : Failure → Bool
  | .value _ | .binding _ | .unknownWorkflow _ | .invalid _ | .targetKind _ | .badCall
  | .noEntries => true
  | _ => false

theorem Failure.not_isAbsence_of_isMishap {failure : Failure} (mishap : failure.isMishap = true) :
    failure.isAbsence = false := by
  cases failure <;> first | rfl | cases mishap

/-- The programs of all custom hooks answer, whatever they are shown. -/
def Host.Answers (host : Host) : Prop :=
  ∀ program occasion shown state, ∃ answer reached,
    host.run program occasion shown state = .ok answer reached

/-- A failure is a mishap, or the program of a custom hook has failed with it. -/
def Host.Causes (host : Host) (failure : Failure) : Prop :=
  failure.isMishap = true ∨ ∃ program occasion shown state reached,
    host.run program occasion shown state = .error failure reached

/-- Where the programs of hooks answer, mishaps are all that is left. -/
theorem Host.Causes.isMishap {host : Host} {failure : Failure} (causes : host.Causes failure)
    (answers : host.Answers) : failure.isMishap = true := by
  rcases causes with mishap | ⟨program, occasion, shown, state, reached, failed⟩
  · exact mishap
  · obtain ⟨answer, after, answered⟩ := answers program occasion shown state
    cases failed.symm.trans answered

namespace ReadyHook

theorem lookup_error {mapping default : Value} {key : String} {failure : Failure}
    (failed : lookup mapping key default = .error failure) : failure = .noEntries := by
  cases mapping <;> cases failed <;> rfl

theorem isWithin_error {part : String} {value : Value} {failure : Failure}
    (failed : isWithin part value = .error failure) : failure = .badCall := by
  cases value <;> cases failed <;> rfl

theorem answerTo_error {hook : ReadyHook} {mapping : Value} {failure : Failure}
    (failed : hook.answerTo mapping = .error failure) :
    failure = .noEntries ∨ failure = .badCall := by
  have looked {key : String} {default : Value} {next : Value → Except Failure Value}
      (found : (lookup mapping key default >>= next) = .error failure)
      (further : ∀ value, next value = .error failure → failure = .noEntries) :
      failure = .noEntries := by
    cases read : lookup mapping key default with
    | ok value =>
        rw [read] at found
        exact further value found
    | error other =>
        rw [read] at found
        cases found
        exact lookup_error read
  cases hook with
  | checkAge => exact .inl (looked failed nofun)
  | checkName => exact .inl (looked failed nofun)
  | checkSignupName =>
      refine .inl (looked failed fun value further => ?_)
      split at further <;> cases further
  | acceptAddress => exact .inl (looked failed fun street further => looked further nofun)
  | redirectFirst => exact .inr (Except.error.inj failed).symm
  | redirectEnd => exact .inr (Except.error.inj failed).symm
  | needsAddress => exact .inr (Except.error.inj failed).symm
  | _ => cases failed

theorem targetFor_error {hook : ReadyHook} {stage next values : Value} {failure : Failure}
    (failed : hook.targetFor stage next values = .error failure) : failure = .badCall := by
  cases hook with
  | redirectFirst => cases failed
  | redirectEnd => cases failed
  | needsAddress =>
      simp only [targetFor] at failed
      split at failed
      · cases within : isWithin "street" values with
        | ok known =>
            rw [within] at failed
            cases failed
        | error other =>
            rw [within] at failed
            cases failed
            exact isWithin_error within
      · cases failed
  | _ => exact (Except.error.inj failed).symm

/-- A hook without memory fails only if it is called with something that it cannot work on. -/
theorem answer_error {hook : ReadyHook} {arguments : List Value} {failure : Failure}
    (failed : hook.answer arguments = .error failure) :
    failure = .noEntries ∨ failure = .badCall := by
  simp only [answer] at failed
  split at failed
  · exact answerTo_error failed
  · exact .inr (targetFor_error failed)
  · exact .inr (Except.error.inj failed).symm

end ReadyHook

/-- The handle that an operation finishes is one that was dispatched. -/
def State.Knows (state : State) (operation : Operation) : Prop :=
  ∀ position output, operation = .finish position output →
    (Position.item? state.dispatcher.handles position).isSome = true

/-- Dispatching a stage that is there looks for nothing that is not. -/
theorem State.Dispatch.present {state : State} {number : Nat} {inst : Instance}
    {definition : Definition} {result : Option Failure × State}
    (dispatch : state.Dispatch number inst definition result)
    (there : ∃ stage, definition.stage? inst.stage = some stage) {failure : Failure}
    (failed : result.1 = some failure) : failure.isMishap = true := by
  cases dispatch with
  | missing absent =>
      obtain ⟨stage, there⟩ := there
      cases absent.symm.trans there
  | unsupplied found lacks =>
      cases failed
      rfl
  | dispatched found => cases failed

namespace Engine

variable {host : Host} {state : State} {number : Nat} {inst : Instance} {definition : Definition}
  {stage : Stage} {payload : Payload} {failure : Failure}

theorem causes_of_hook (cause : failure = .noEntries ∨ failure = .badCall) :
    host.Causes failure := by
  rcases cause with rfl | rfl <;> exact .inl rfl

/-- A hook fails if it cannot work on what it is called with, or as its program does. -/
theorem consult_error (numbered : state.Numbered) {hook : Hook}
    {question : Question} {shown : Shown} {reached : State}
    (there : ∀ number, shown = .values number → number < state.instances.length)
    (failed : consult host hook number question shown state = .error failure reached) :
    host.Causes failure := by
  rw [consult_apply host hook number question shown there] at failed
  split at failed
  · cases hook with
    | alwaysValid => cases failed
    | identityAcceptor => cases failed
    | cancelDecision =>
        cases shown with
        | output payload =>
            cases failed
            exact causes_of_hook (.inl rfl)
        | values other =>
            have found := List.getElem?_eq_getElem (there other rfl)
            have asked : (state.consulting .cancelDecision number question
                (.values other)).Numbered := ⟨numbered.current_lt, numbered.suspended_lt⟩
            simp only [answerOf, bind_apply] at failed
            rcases decideCancel_apply asked found with
              ⟨-, decided⟩ | ⟨top, lost, rest, -, -, -, decided⟩
            · rw [decided] at failed
              cases failed
            · rw [decided] at failed
              cases failed
    | ready hook =>
        simp only [answerOf, bind_apply] at failed
        cases answered : hook.answer (question.arguments (.dict (shown.seen state))) with
        | ok answer =>
            rw [answered] at failed
            cases failed
        | error other =>
            rw [answered] at failed
            cases failed
            exact causes_of_hook (ReadyHook.answer_error answered)
    | custom program role name stamp => exact .inr ⟨program, _, shown, _, reached, failed⟩
  · cases failed
    exact causes_of_hook (.inr rfl)

theorem judge_error (numbered : state.Numbered) {reached : State}
    (failed : judge host number stage payload state = .error failure reached) :
    host.Causes failure := by
  simp only [judge, bind_apply] at failed
  cases consulted : consult host stage.validator number .validate (.output payload) state with
  | error other after =>
      rw [consulted] at failed
      cases failed
      exact consult_error numbered (by intro other same; cases same) consulted
  | ok answer after =>
      rw [consulted] at failed
      cases said : Verdict.ofAnswer answer.2 with
      | ok verdict =>
          cases settled : verdict.settle answer.1.payload with
          | ok staged => simp [said, settled] at failed
          | error fault =>
              simp only [said, settled, mapError_ok, lift_ok, mapError_error, lift_error] at failed
              cases failed
              exact .inl rfl
      | error fault =>
          simp only [said, mapError_error, lift_error] at failed
          cases failed
          exact .inl rfl

theorem advise_error (numbered : state.Numbered) (inRange : number < state.instances.length)
    {position : Int} {reached : State}
    (failed : advise host number definition position state = .error failure reached) :
    host.Causes failure := by
  simp only [advise] at failed
  cases declared : definition.redirector with
  | none =>
      rw [declared] at failed
      cases failed
  | some redirector =>
      simp only [declared, bind_apply] at failed
      cases consulted : consult host redirector number
          (.redirect position (definition.stageName? position) true) (.values number) state with
      | error other after =>
          rw [consulted] at failed
          cases failed
          exact consult_error numbered (by intro other same; cases same; exact inRange) consulted
      | ok answer after =>
          rw [consulted] at failed
          cases named : redirectTarget answer.2 with
          | ok target => simp [named] at failed
          | error other =>
              simp only [named, lift_error] at failed
              cases failed
              rcases redirectTarget_error named with ⟨fault, rfl⟩ | ⟨kind, rfl⟩ <;> exact .inl rfl

theorem rejectionText_error {error : Value} (failed : rejectionText error = .error failure) :
    ∃ problems, failure = .invalid problems := by
  simp only [rejectionText] at failed
  cases checked : ((Field.text error).inside (.field cancelErrorArgument)).inside
      (.field "arguments") with
  | ok text => simp [checked] at failed
  | error problems =>
      simp only [checked, mapError_error, Except.error.injEq] at failed
      exact ⟨problems, failed.symm⟩

/-- An exit asks whether an instance is over before it looks for its stage. -/
theorem Exit.present (contained : host.Contained) {result : Option Failure × State}
    (exits : Exit host state result) (poised : state.Poised)
    (failed : result.1 = some failure) : host.Causes failure := by
  induction exits with
  | @unanswered state number inst definition other reached runs asked =>
      cases failed
      have exiting := poised.toGrounded.exiting number inst
      exact consult_error exiting.toNumbered
        (by intro other same; cases same; exact exiting.current_lt number runs.current) asked
  | rested concluded empty => cases failed
  | unmerged concluded lastAside there merged =>
      cases failed
      exact .inl rfl
  | continued concluded restoring past further ih =>
      exact ih (poised_round contained poised concluded restoring) failed
  | @dispatched state answered number top inst resumed definition next contribution rest values
      concluded restoring unfinished =>
      have grounded := (poised_round contained poised concluded restoring).toGrounded
      have runs := runs_restored restoring
      refine .inl ((startStage_dispatch grounded runs).present ?_ failed)
      cases there : next.stage? resumed.stage with
      | some stage => exact ⟨stage, rfl⟩
      | none =>
          have counted := grounded.counted top _ runs.found
          cases unfinished.symm.trans ((next.stage?_eq_none_iff counted).mp there)

/-- A workflow that is started from a filled registry has a first stage. -/
theorem diverted_present (grounded : state.Grounded) (filled : state.registry.Filled)
    (found : state.instances[number]? = some inst) {invocation : Invocation}
    (known : Registry.get state.registry invocation.name = .ok definition)
    (failed : (ending startStage (state.diverted number inst invocation)).1 = some failure) :
    failure.isMishap = true :=
  (begun_dispatch (grounded.diverted found known) known).present (filled.first_stage known) failed

/-- The completion of a stage that is there looks for nothing that is not. -/
theorem Course.present (contained : host.Contained) (poised : state.Poised)
    (filled : state.registry.Filled) {result : Option Failure × State}
    (course : Course host state payload result)
    (stands : state.AtStage number inst definition stage) (failed : result.1 = some failure) :
    host.Causes failure := by
  cases course with
  | missing runs absent =>
      obtain ⟨rfl, rfl, rfl⟩ := runs.unique stands.toRuns
      cases absent.symm.trans stands.there
  | unjudged also refused =>
      cases failed
      exact judge_error poised.toNumbered refused
  | unworded also judged wordless =>
      cases failed
      obtain ⟨problems, rfl⟩ := rejectionText_error wordless
      exact .inl rfl
  | @prompted number inst definition stage left error text events also judged worded =>
      obtain ⟨cancel, known⟩ := poised.cancel_known
      let invocation : Invocation :=
        ⟨state.settings.cancelWorkflow, some [(cancelErrorArgument, text)]⟩
      have asked : Registry.get state.registry invocation.name = .ok cancel := known
      have grounded := (poised.toGrounded.reporting events).reporting
        [.rejected number (definition.stageName? inst.stage) inst.stage error]
      exact .inl (diverted_present grounded filled also.found asked failed)
  | stuck accepted there lacks =>
      cases failed
      exact .inl rfl
  | unadvised accepted refused =>
      cases failed
      have forwarded := accepted.forwarded poised.toGrounded
      have grounded := forwarded.grounded poised.toGrounded
      obtain ⟨values, runs⟩ := forwarded.runs accepted.toRuns
      exact advise_error grounded.toNumbered (grounded.current_lt _ runs.current) refused
  | unknown accepted advised absent =>
      cases failed
      obtain ⟨name, rfl⟩ := Registry.get_error absent
      exact .inl rfl
  | @redirected number inst later definition other stage left staged advanced reached target
      invocation accepted advised known found =>
      have forwarded : state.Forwarded number inst definition reached :=
        accepted.reaches contained poised.toGrounded (by rw [ending, advised])
      have grounded := (forwarded.grounded poised.toGrounded).reporting
        [.redirecting number (definition.stageName? inst.stage) later.stage target]
      have filledAfter : reached.registry.Filled := by
        rw [Forwarded.registry forwarded]
        exact filled
      exact .inl (diverted_present grounded filledAfter found known failed)
  | carried accepted advised unfinished => cases failed
  | @ended number inst definition stage left staged values advanced reached events result accepted
      advised past quiet stops exits =>
      subst stops
      exact exits.present contained (poised.forwarded number values events) failed

theorem requested_error {source : InvocationSource} {force : Bool}
    (refused : state.requested source force = .error failure) :
    state.free force = .error failure ∨ failure.isMishap = true := by
  cases source with
  | text text =>
      simp only [State.requested, bind, Except.bind] at refused
      cases free : state.free force with
      | error busy =>
          simp only [free, Except.error.injEq] at refused
          exact .inl (congrArg Except.error refused)
      | ok done =>
          cases read : Invocation.parse text with
          | ok invocation => simp [free, read] at refused
          | error fault =>
              simp only [free, read, mapError_error, Except.error.injEq] at refused
              subst refused
              exact .inr rfl
  | fields name arguments =>
      simp only [State.requested, bind, Except.bind] at refused
      cases read : invocationOfFields name arguments with
      | ok invocation =>
          cases free : state.free force with
          | error busy =>
              simp only [read, free, Except.error.injEq] at refused
              exact .inl (congrArg Except.error refused)
          | ok done => simp [read, free, pure, Except.pure] at refused
      | error problem =>
          rw [read] at refused
          cases refused
          simp only [invocationOfFields] at read
          cases fields : Checked.zipWith Invocation.mk
              ((Field.text name).inside (.field "name"))
              ((Field.bindings? arguments).inside (.field "arguments")) with
          | ok invocation => simp [fields] at read
          | error problems =>
              simp only [fields, mapError_error, Except.error.injEq] at read
              subst read
              exact .inr rfl

/-- An invocation is refused because a workflow is in its way, or because of what it asks for. -/
theorem admitted_error {source : InvocationSource} {force : Bool}
    (refused : state.admitted source force = .error failure) :
    state.free force = .error failure ∨ failure.isMishap = true := by
  simp only [State.admitted, bind, Except.bind] at refused
  cases requested : state.requested source force with
  | error other =>
      rw [requested] at refused
      cases refused
      exact requested_error requested
  | ok invocation =>
      cases known : Registry.get state.registry invocation.name with
      | error other =>
          simp only [requested, known, Except.error.injEq] at refused
          subst refused
          obtain ⟨name, rfl⟩ := Registry.get_error known
          exact .inr rfl
      | ok definition => simp [requested, known, pure, Except.pure] at refused

theorem free_error {force : Bool} (busy : state.free force = .error failure) :
    failure.isAbsence = false := by
  simp only [State.free] at busy
  split at busy
  · cases busy
  · split at busy
    · cases busy
    · split at busy <;> cases busy <;> rfl

/-- A handle that was dispatched is there to be completed. -/
theorem completed_error (wired : state.dispatcher.Wired state.held) {operation : Operation}
    {output : Value} (given : operation.output? = some output)
    (knows : state.Knows operation)
    (closed : state.completed operation = .error failure) : failure.isAbsence = false := by
  have shut {number : Nat} (inRange : number < state.dispatcher.handles.length)
      (refused : state.open? number = .error failure) : failure.isAbsence = false := by
    have found : state.dispatcher.handle? number = some state.dispatcher.handles[number] :=
      List.getElem?_eq_getElem inRange
    simp only [State.open?, found] at refused
    split at refused
    · cases refused
      rfl
    · cases refused
  cases operation with
  | complete output =>
      cases shown : state.dispatcher.current with
      | none =>
          simp only [State.completed, shown, Except.error.injEq] at closed
          subst closed
          rfl
      | some number =>
          simp only [State.completed, shown] at closed
          exact shut (wired.shown_lt number shown) closed
  | finish position output =>
      obtain ⟨handle, named⟩ := Option.isSome_iff_exists.mp (knows position output rfl)
      obtain ⟨number, offset, found⟩ := Option.bind_eq_some_iff.mp named
      simp only [State.completed, offset] at closed
      exact shut (List.getElem?_eq_some_iff.mp found).1 closed
  | _ => cases given

/-- What is not heard looks for nothing that is not there. -/
theorem present_of_deaf (sound : state.Sound) (filled : state.registry.Filled)
    {operation : Operation} (controls : operation.controls = true)
    (knows : state.Knows operation)
    (deaf : ∀ place payload, ¬ state.Hears operation place payload)
    (failed : (ending (perform host operation) state).1 = some failure) :
    failure.isAbsence = false := by
  have unheard {output : Value} (given : operation.output? = some output) :
      failure.isAbsence = false := by
    have completing : Completing host state operation output := perform_completing given
    cases completing with
    | refused closed ends =>
        rw [ends] at failed
        cases failed
        exact completed_error sound.wired given knows closed
    | @finished number handle opened found unfinished ends =>
        rw [ends, finishHandle_ending found unfinished] at failed
        cases read : Payload.ofOutput output with
        | error fault =>
            rw [read] at failed
            cases failed
            rfl
        | ok payload =>
            have unheld : state.held ≠ some number := fun held =>
              deaf number payload ⟨held, opened, output, given, read⟩
            have listeners := sound.wired.listeners number handle found
            rw [if_neg unheld] at listeners
            rw [read, listeners] at failed
            cases failed
  cases operation with
  | register request =>
      have same : ending (perform host (.register request)) state =
          ending (registerRequested host request) state :=
        ending_bind_pure (registerRequested host request) Answer.definition state
      rw [same] at failed
      cases failsOnly_registerRequested host request state failure failed <;> rfl
  | invoke source force =>
      rcases invoke_failed sound failed with refused | ⟨invocation, definition, -, known, dispatch⟩
      · rcases admitted_error refused with busy | mishap
        · exact free_error busy
        · exact Failure.not_isAbsence_of_isMishap mishap
      · exact Failure.not_isAbsence_of_isMishap (dispatch.present (filled.first_stage known) rfl)
  | complete output => exact unheard rfl
  | finish position output => exact unheard rfl
  | _ => cases controls

/-- An operation fails because something is missing exactly if it completes a stage that the
definition of its workflow does not have any more. -/
theorem absence_iff (contained : host.Contained) (answers : host.Answers) (sound : state.Sound)
    (filled : state.registry.Filled) {operation : Operation}
    (controls : operation.controls = true) (knows : state.Knows operation) :
    (∃ failure, (ending (perform host operation) state).1 = some failure ∧
        failure.isAbsence = true) ↔
      (∃ place payload, state.Hears operation place payload) ∧
        ∃ number inst definition, state.Runs number inst definition ∧
          definition.stage? inst.stage = none := by
  constructor
  · rintro ⟨failure, failed, absence⟩
    by_cases heard : ∃ place payload, state.Hears operation place payload
    · obtain ⟨place, payload, hears⟩ := heard
      obtain ⟨number, current⟩ := Option.ne_none_iff_exists'.mp (sound.runs_held place hears.held)
      obtain ⟨inst, definition, runs⟩ := sound.toGrounded.runs current
      refine ⟨⟨place, payload, hears⟩, number, inst, definition, runs, ?_⟩
      cases stands : definition.stage? inst.stage with
      | none => rfl
      | some stage =>
          have poised := poised_finishing sound hears.held
          have waiting : (state.finishing place).detached.AtStage number inst definition stage :=
            ⟨⟨runs.current, runs.found, runs.defined⟩, stands⟩
          have causes := (course_of_hears contained sound hears).present contained poised filled
            waiting failed
          have present := Failure.not_isAbsence_of_isMishap (causes.isMishap answers)
          cases present.symm.trans absence
    · have present := present_of_deaf sound filled controls knows
        (fun place payload hears => heard ⟨place, payload, hears⟩) failed
      cases present.symm.trans absence
  · rintro ⟨⟨place, payload, hears⟩, number, inst, definition, runs, absent⟩
    have waiting : (state.finishing place).Runs number inst definition :=
      ⟨runs.current, runs.found, runs.defined⟩
    refine ⟨.outOfRange, ?_, rfl⟩
    rw [ending_hears sound hears, ending, stageFinished_outOfRange waiting absent]

end Engine

/-- An operation failed because something was not there. -/
def Taken.misses (taken : Taken Operation Failure State Answer) : Bool :=
  match taken.outcome with
  | .error failure => failure.isAbsence
  | .ok _ => false

theorem Taken.misses_iff {taken : Taken Operation Failure State Answer} : taken.misses = true ↔
    ∃ failure, taken.outcome = .error failure ∧ failure.isAbsence = true := by
  obtain ⟨command, before, outcome, after⟩ := taken
  cases outcome <;> simp [misses]

namespace Engine

variable {host : Host}

/-- Whatever is registered while workflows are in progress, an operation fails because something is
missing exactly if it completes a stage which the workflow's definition does not have any more. -/
theorem misses_iff_shortened (contained : host.Contained) (answers : host.Answers) {start : State}
    (fresh : start.FreshlyBuilt) (filled : start.registry.Filled) {operations : List Operation}
    (controls : ∀ operation ∈ operations, operation.controls = true) {operation : Operation}
    (control : operation.controls = true)
    (knows : (Trace.final (perform host) start operations).Knows operation) :
    let state := Trace.final (perform host) start operations
    (Trace.take (perform host) state operation).misses = true ↔
      (∃ place payload, state.Hears operation place payload) ∧
        ∃ number inst definition, state.Runs number inst definition ∧
          (definition.stageCount : Int) ≤ inst.stage := by
  intro state
  have sound : state.Sound := sound_final contained fresh.sound controls
  have filled : state.registry.Filled := filled_final contained fresh.sound controls filled
  have past {number : Nat} {inst : Instance} {definition : Definition}
      (runs : state.Runs number inst definition) :
      definition.stage? inst.stage = none ↔ (definition.stageCount : Int) ≤ inst.stage := by
    rw [definition.stage?_eq_none_iff (sound.counted number inst runs.found),
      Definition.isCompleteAt, decide_eq_true_iff]
  rw [Taken.misses_iff]
  simp only [failure_take, absence_iff contained answers sound filled control knows]
  refine and_congr Iff.rfl (exists_congr fun number => exists_congr fun inst =>
    exists_congr fun definition => ?_)
  exact and_congr_right past

end Engine

namespace Detour

theorem answers : host.Answers := by
  intro program occasion shown state
  simp only [host, Programs.host, programs]
  split <;> exact ⟨_, _, rfl⟩

/-- The trip is about to return when a shorter one is registered. -/
def shortening : List Operation :=
  [.register { name := "Trip", plan := "Go;Return" }, .invoke (.text "Trip") false,
    .complete (.dict []), .register { name := "Trip", plan := "Go" }]

end Detour

namespace Engine

/-- The stage at which the trip waits is not in the shorter one. -/
theorem misses_iff_shortened_detour :
    let state := Trace.final (perform Detour.host) Detour.start Detour.shortening
    (∀ operation ∈ Detour.shortening, operation.controls = true) ∧
      (Trace.take (perform Detour.host) state (.complete (.dict []))).misses = true ∧
      ∃ number inst definition, state.Runs number inst definition ∧
        (definition.stageCount : Int) ≤ inst.stage := by
  intro state
  have controls : ∀ operation ∈ Detour.shortening, operation.controls = true := by decide
  have misses : (Trace.take (perform Detour.host) state (.complete (.dict []))).misses = true := by
    decide +kernel
  have knows : state.Knows (.complete (.dict [])) := by
    intro position output same
    cases same
  obtain ⟨-, shortened⟩ := (misses_iff_shortened Detour.contained Detour.answers Detour.built
    Detour.filled_start controls rfl knows).mp misses
  exact ⟨controls, misses, shortened⟩

/-- A trip that is completed after a shorter one was registered looks for a stage that is not
there. -/
theorem misses_shortened_trip :
    Detour.host.Contained ∧ Detour.host.Answers ∧ Detour.start.registry.Filled ∧
      (Trace.take (perform Detour.host)
        (Trace.final (perform Detour.host) Detour.start Detour.shortening)
          (.complete (.dict []))).misses = true :=
  ⟨Detour.contained, Detour.answers, Detour.filled_start, by decide +kernel⟩

end Engine

end Workflow
