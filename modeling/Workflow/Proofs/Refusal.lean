import Workflow.Proofs.Agreement
import Workflow.Proofs.Registering

/-!
# Refused operations

An operation is refused by checks that come before anything is changed: whether a workflow is
running, whether an invocation can be read and names a workflow, and whether there is a stage that
is not completed yet.  So a refused operation leaves the state as it was, in whatever state it is
asked for, also in the middle of another operation.
-/

namespace Workflow

/-- A workflow is running, an invocation cannot be read, or it names no workflow. -/
def Failure.refusesInvocation : Failure → Bool
  | .active _ | .binding _ | .unknownWorkflow _ => true
  | _ => false

/-- The number of the handle that an operation is about to complete, if it finds one. -/
def State.addressed? (state : State) : Operation → Option Nat
  | .complete _ => state.dispatcher.current
  | .finish position _ => Position.offset? state.dispatcher.handles.length position
  | _ => none

/-- What is current is an instance, and so is whatever is suspended, unless nothing was current when
it was put aside. -/
structure State.Referring (state : State) : Prop where
  current_lt : ∀ number, state.current = some number → number < state.instances.length
  suspended_lt : ∀ number, some number ∈ state.suspended → number < state.instances.length

namespace Engine

variable {α : Type} {host : Host} {state : State} {number : Nat} {inst : Instance}

/-! ## Failures of an invocation -/

theorem failsOnly_throw {cause : Failure → Prop} {failure : Failure} (fails : cause failure) :
    FailsOnly cause (throw failure : Engine α) := by
  intro state other failed
  cases failed
  exact fails

theorem failsOnly_get {cause : Failure → Prop} : FailsOnly cause (get : Engine State) :=
  failsOnly_of_ok fun _ => rfl

theorem failsOnly_display {cause : Failure → Prop} (line : String) :
    FailsOnly cause (display line) := by
  refine failsOnly_get.bind fun state => ?_
  cases state.dispatcher.backend with
  | inMemory => exact failsOnly_pure ()
  | console => exact failsOnly_of_ok fun _ => rfl

/-- Once the definition of the current instance is there, dispatching its stage does not fail as a
refused invocation does. -/
theorem refusesInvocation_startStage {definition : Definition}
    (current : state.current = some number) (found : state.instances[number]? = some inst)
    (defined : Registry.get state.registry inst.name = .ok definition) {failure : Failure}
    (failed : (ending startStage state).1 = some failure) : failure.refusesInvocation = false := by
  have dispatches : FailsOnly (fun failure => failure.refusesInvocation = false) (do
      let stage ← stageOf definition inst.stage
      let arguments ← lift ((Token.resolveAll inst id "" stage.tokens).mapError Failure.value)
      activate stage.name arguments
      attach : Engine Unit) := by
    have staged : FailsOnly (fun failure => failure.refusesInvocation = false)
        (stageOf definition inst.stage) := by
      simp only [stageOf]
      cases definition.stage? inst.stage with
      | none => exact failsOnly_throw rfl
      | some stage => exact failsOnly_pure stage
    refine staged.bind fun stage => FailsOnly.bind (failsOnly_lift ?_) fun arguments => ?_
    · intro failure unresolved
      cases resolved : Token.resolveAll inst id "" stage.tokens with
      | ok arguments => simp [resolved] at unresolved
      | error fault =>
          simp only [resolved, mapError_error, Except.error.injEq] at unresolved
          exact unresolved ▸ rfl
    · have activates : FailsOnly (fun failure => failure.refusesInvocation = false)
          (activate stage.name arguments) :=
        FailsOnly.bind (failsOnly_of_ok fun _ => rfl) fun _ =>
          FailsOnly.bind (failsOnly_of_ok fun _ => rfl) fun _ => failsOnly_display _
      refine activates.bind fun _ => failsOnly_get.bind fun state => ?_
      cases state.dispatcher.current with
      | none => exact failsOnly_throw rfl
      | some shown =>
          exact FailsOnly.bind (failsOnly_of_ok fun _ => rfl) fun _ => failsOnly_of_ok fun _ => rfl
  apply dispatches state failure
  rw [← failed]
  simp only [ending, startStage, bind_apply, currentNumber_apply current,
    definitionOf_apply found, defined, lift_ok, instanceAt_apply found]

/-- Starting a workflow fails as a refused invocation does only if it names no workflow. -/
theorem start_refused {invocation : Invocation} {failure : Failure}
    (failed : (ending (start invocation) state).1 = some failure)
    (refuses : failure.refusesInvocation = true) :
    start invocation state = .error failure state := by
  cases known : Registry.get state.registry invocation.name with
  | error other =>
      have refused := start_unknown known
      rw [ending, refused] at failed
      cases failed
      exact refused
  | ok definition =>
      have found : (state.detached.begun invocation).instances[state.instances.length]? =
          some (Instance.ofInvocation invocation) := List.getElem?_concat_length
      rw [ending, start_apply known, ← ending,
        ending_bind_pure startStage fun _ => state.instances.length] at failed
      have other := refusesInvocation_startStage rfl found known failed
      rw [other] at refuses
      cases refuses

theorem requireIdle_still (force : Bool) :
    (ending (requireIdle force) state).2 = state := by
  simp only [ending, requireIdle, bind_apply, get_apply]
  cases current : state.current with
  | none => rfl
  | some number =>
      cases force with
      | true => rfl
      | false =>
          simp only [Bool.false_eq_true, ↓reduceIte, instanceAt, bind_apply, get_apply]
          cases state.instances[number]? <;> rfl

/-- After a check that changes nothing, a step that is refused changes nothing. -/
theorem refused_afterwards {check : Engine Unit} {step : Engine α}
    (still : (ending check state).2 = state)
    (inert : ∀ failure, (ending step state).1 = some failure → failure.refusesInvocation = true →
      (ending step state).2 = state) {failure : Failure}
    (failed : (ending (do check; step) state).1 = some failure)
    (refuses : failure.refusesInvocation = true) :
    (ending (do check; step) state).2 = state := by
  simp only [ending, bind_apply] at still failed inert ⊢
  cases checked : check state with
  | error other reached =>
      rw [checked] at still
      exact still
  | ok done reached =>
      rw [checked] at still failed
      simp only at still
      subst still
      exact inert failure failed refuses

/-- An invocation that is refused changes nothing. -/
theorem invokeSource_refused {source : InvocationSource} {force : Bool} {failure : Failure}
    (failed : (ending (invokeSource source force) state).1 = some failure)
    (refuses : failure.refusesInvocation = true) :
    (ending (invokeSource source force) state).2 = state := by
  have starts (invocation : Invocation) (failure : Failure)
      (failed : (ending (start invocation) state).1 = some failure)
      (refuses : failure.refusesInvocation = true) :
      (ending (start invocation) state).2 = state := by
    rw [ending, start_refused failed refuses]
  cases source with
  | text text =>
      refine refused_afterwards (requireIdle_still force) (fun failure failed refuses => ?_) failed
        refuses
      cases read : (Invocation.parse text).mapError Failure.binding with
      | error fault => rfl
      | ok invocation =>
          rw [read] at failed
          exact starts invocation failure failed refuses
  | fields name arguments =>
      simp only [invokeSource] at failed ⊢
      cases read : invocationOfFields name arguments with
      | error fault => rfl
      | ok invocation =>
          rw [read] at failed
          exact refused_afterwards (requireIdle_still force) (starts invocation) failed refuses

/-- What follows the start of an invoked workflow does not fail as a refused invocation does. -/
theorem perform_invoke_refused {source : InvocationSource} {force : Bool} {failure : Failure}
    (failed : (ending (perform host (.invoke source force)) state).1 = some failure)
    (refuses : failure.refusesInvocation = true) :
    (ending (perform host (.invoke source force)) state).2 = state := by
  have inert := @invokeSource_refused state source force
  have labelled (number : Nat) :
      FailsOnly (fun failure => failure.refusesInvocation = false) (do
        note (.returned number)
        return .label (← instanceAt number).label : Engine Answer) := by
    refine FailsOnly.bind (failsOnly_of_ok fun _ => rfl) fun _ => ?_
    have there : FailsOnly (fun failure => failure.refusesInvocation = false)
        (instanceAt number) := by
      refine failsOnly_get.bind fun state => ?_
      cases state.instances[number]? with
      | none => exact failsOnly_throw rfl
      | some inst => exact failsOnly_pure inst
    exact there.bind fun _ => failsOnly_pure _
  simp only [ending, perform, bind_apply] at failed inert ⊢
  cases started : invokeSource source force state with
  | error other reached =>
      rw [started] at failed inert
      cases failed
      exact inert rfl refuses
  | ok number reached =>
      rw [started] at failed
      have other := labelled number reached failure
        (by simpa only [ending, bind_apply] using failed)
      rw [other] at refuses
      cases refuses

/-! ## Other refusals -/

/-- A completion that is refused changes nothing. -/
theorem perform_completed_error {operation : Operation} {output : Value}
    (given : operation.output? = some output) {failure : Failure}
    (completed : state.completed operation = .error failure) :
    ending (perform host operation) state = (some failure, state) := by
  cases @perform_completing host state operation output given with
  | refused also ends =>
      cases completed.symm.trans also
      exact ends
  | finished also found unfinished ends => cases completed.symm.trans also

/-- A stage that is completed is not completed again. -/
theorem completed_of_finished {operation : Operation} {handle : Handle Watcher}
    (addressed : state.addressed? operation = some number)
    (found : state.dispatcher.handles[number]? = some handle) (finished : handle.finished = true) :
    state.completed operation = .error (.alreadyFinished handle.stage) ∧
      ∃ output, operation.output? = some output := by
  have shut : state.open? number = .error (.alreadyFinished handle.stage) := by
    have there : state.dispatcher.handle? number = some handle := found
    simp only [State.open?, there, finished, ↓reduceIte]
  cases operation with
  | complete output =>
      have shown : state.dispatcher.current = some number := addressed
      simp only [State.completed, shown]
      exact ⟨shut, output, rfl⟩
  | finish position output =>
      have there : Position.offset? state.dispatcher.handles.length position = some number :=
        addressed
      simp only [State.completed, there]
      exact ⟨shut, output, rfl⟩
  | _ => cases addressed

/-- While a workflow is running no other is let in, unless it may replace the running one. -/
theorem requireIdle_running (current : state.current = some number)
    (found : state.instances[number]? = some inst) :
    requireIdle false state = .error (.active inst.label) state := by
  simp [requireIdle, bind_apply, current, instanceAt_apply found]

theorem perform_invoke_running (current : state.current = some number)
    (found : state.instances[number]? = some inst) {source : InvocationSource}
    (read : ∀ name arguments, source = .fields name arguments →
      (invocationOfFields name arguments).isOk = true) :
    ending (perform host (.invoke source false)) state = (some (.active inst.label), state) := by
  have running := requireIdle_running current found
  cases source with
  | text text =>
      simp only [ending, perform, invokeSource, invokeText, bind_apply, running]
  | fields name arguments =>
      have readable := read name arguments rfl
      cases fields : invocationOfFields name arguments with
      | error failure => simp [fields, Except.isOk, Except.toBool] at readable
      | ok invocation =>
          simp only [ending, perform, invokeSource, invoke, bind_apply, fields, lift_ok, running]

end Engine

/-! ## What is current is an instance -/

namespace State.Referring

variable {state after : State} (refers : state.Referring)
include refers

/-- Numbers go on to refer to instances as long as no instance is lost. -/
theorem mono (current : ∀ number, after.current = some number →
      state.current = some number ∨ some number ∈ state.suspended ∨
        number < after.instances.length)
    (suspended : ∀ number, some number ∈ after.suspended →
      some number ∈ state.suspended ∨ state.current = some number)
    (instances : state.instances.length ≤ after.instances.length) : after.Referring where
  current_lt := by
    intro number now
    rcases current number now with before | aside | inRange
    · exact Nat.lt_of_lt_of_le (refers.current_lt number before) instances
    · exact Nat.lt_of_lt_of_le (refers.suspended_lt number aside) instances
    · exact inRange
  suspended_lt := by
    intro number aside
    rcases suspended number aside with before | current
    · exact Nat.lt_of_lt_of_le (refers.suspended_lt number before) instances
    · exact Nat.lt_of_lt_of_le (refers.current_lt number current) instances

theorem still (current : after.current = state.current)
    (suspended : after.suspended = state.suspended)
    (instances : after.instances.length = state.instances.length) : after.Referring :=
  refers.mono (fun _ now => .inl (current ▸ now)) (fun _ aside => .inl (suspended ▸ aside))
    (Nat.le_of_eq instances.symm)

/-- What was put aside last may become current. -/
theorem unwound {last current : Option Nat} {rest : List (Option Nat)}
    (lastAside : state.suspended = last :: rest) (now : current = state.current ∨ current = last) :
    Referring { state with current, suspended := rest } := by
  refine refers.mono ?_ (fun number aside => .inl ?_) (Nat.le_refl _)
  · rintro number rfl
    rcases now with before | rfl
    · exact .inl before.symm
    · exact .inr (.inl (lastAside ▸ List.mem_cons_self))
  · exact lastAside ▸ List.mem_cons_of_mem _ aside

end State.Referring

theorem State.FreshlyBuilt.referring {state : State} (fresh : state.FreshlyBuilt) :
    state.Referring := by
  obtain ⟨registry, settings, backend, stamp, definition, events, -, rfl⟩ := fresh.registered
  exact ⟨nofun, nofun⟩

namespace Engine

variable {α : Type}

/-- Routine steps do not make anything current or suspended that is no instance. -/
theorem Routine.keeps_referring {step : Engine α} (routine : Routine step) :
    Trace.Keeps State.Referring step := by
  refine routine.keeps fun state after move refers => ?_
  cases move with
  | steady steady =>
      exact refers.still steady.current steady.suspended (congrArg List.length steady.instances)
  | begun invocation =>
      refine refers.mono ?_ (fun _ aside => .inl aside) (by simp)
      intro number now
      cases now
      exact .inr (.inr (by simp))
  | changed number same => exact refers.still rfl rfl (List.length_modify _ _ _)
  | aside grown =>
      refine refers.mono (fun _ now => .inl now) ?_ (Nat.le_refl _)
      intro number aside
      rcases List.mem_cons.mp aside with current | before
      · exact .inr current.symm
      · exact .inl before
  | back lastAside now grown => exact (refers.unwound lastAside now).still rfl rfl rfl
  | rested =>
      refine refers.mono ?_ (fun _ aside => .inl aside) (Nat.le_refl _)
      intro number now
      cases now

/-- In whatever state an operation is refused, it leaves the state as it was: an invocation while a
workflow is running, with a text that cannot be read or with a name that no workflow has, the
completion of a stage where none is shown, and of one that is already completed.  An invocation that
may not replace a running workflow is always refused, whatever it names, and what is current in any
run is an instance, whatever hooks do inside it. -/
theorem refused_unchanged (host : Host) (state : State) :
    (∀ source force failure,
      let taken := Trace.take (perform host) state (.invoke source force)
      taken.outcome = .error failure → failure.refusesInvocation = true → taken.after = state) ∧
    (∀ output, state.dispatcher.current = none →
      let taken := Trace.take (perform host) state (.complete output)
      taken.outcome = .error .nothingToComplete ∧ taken.after = state) ∧
    (∀ operation number handle, state.addressed? operation = some number →
      state.dispatcher.handles[number]? = some handle → handle.finished = true →
      let taken := Trace.take (perform host) state operation
      taken.outcome = .error (.alreadyFinished handle.stage) ∧ taken.after = state) ∧
    (∀ number inst source, state.current = some number → state.instances[number]? = some inst →
      (∀ name arguments, source = .fields name arguments →
        (invocationOfFields name arguments).isOk = true) →
      let taken := Trace.take (perform host) state (.invoke source false)
      taken.outcome = .error (.active inst.label) ∧ taken.after = state) ∧
    ∀ (programs : Programs) depth start, start.FreshlyBuilt → ∀ operations number,
      let reached := Trace.final (perform (programs.host depth)) start operations
      reached.current = some number → ∃ inst, reached.instances[number]? = some inst := by
  have ended {operation : Operation} {failure : Failure}
      (ends : ending (perform host operation) state = (some failure, state)) :
      (Trace.take (perform host) state operation).outcome = .error failure ∧
        (Trace.take (perform host) state operation).after = state := by
    rw [failure_take, after_take, ends]
    exact ⟨rfl, rfl⟩
  refine ⟨?_, ?_, ?_, ?_, ?_⟩
  · intro source force failure taken failed refuses
    rw [failure_take] at failed
    exact (after_take _).trans (perform_invoke_refused failed refuses)
  · intro output shown
    have completed : state.completed (.complete output) = .error .nothingToComplete := by
      simp only [State.completed, shown]
    exact ended (perform_completed_error rfl completed)
  · intro operation number handle addressed found finished
    obtain ⟨completed, output, given⟩ := completed_of_finished addressed found finished
    exact ended (perform_completed_error given completed)
  · intro number inst source current found read
    exact ended (perform_invoke_running current found read)
  · intro programs depth start fresh operations number reached current
    have refers : reached.Referring :=
      programs.keeps_final Routine.keeps_referring depth fresh.referring operations
    exact ⟨_, List.getElem?_eq_getElem (refers.current_lt number current)⟩

/-- An outcome is a refusal of an invocation. -/
def isRefusal : Except Failure Answer → Bool
  | .error failure => failure.refusesInvocation
  | .ok _ => false

/-- While the trip is suspended for the visit, whatever is refused leaves both where they are. -/
theorem refused_unchanged_visiting :
    let taken := Trace.take (perform Detour.host) Detour.visiting
    Detour.visiting.current = some 1 ∧ Detour.visiting.suspended = [some 0] ∧
      (∀ text ∈ ["Trip(seat)", "Nowhere", "Visit(=3)"],
        (taken (.invoke (.text text) true)).after = Detour.visiting) ∧
      (∃ inst : Instance, (taken (.invoke (.text "Trip(seat)") false)).outcome =
          .error (.active inst.label) ∧
        (taken (.invoke (.text "Trip(seat)") false)).after = Detour.visiting) ∧
      ((taken (.finish 0 .null)).outcome = .error (.alreadyFinished "Go") ∧
        (taken (.finish 0 .null)).after = Detour.visiting) ∧
      (Trace.take (perform Detour.host) Detour.start (.complete .null)).after = Detour.start := by
  intro taken
  obtain ⟨invocations, -, completions, running, runs⟩ :=
    refused_unchanged Detour.host Detour.visiting
  have current : Detour.visiting.current = some 1 := by decide +kernel
  obtain ⟨inst, found⟩ := runs Detour.programs 1 _ Detour.built Detour.operations 1 current
  have addressed : Detour.visiting.addressed? (.finish 0 .null) = some 0 := by decide +kernel
  have finished : (Detour.visiting.dispatcher.handles[0]?.map fun handle =>
      (handle.stage, handle.finished)) = some ("Go", true) := by decide +kernel
  obtain ⟨handle, there, named⟩ := Option.map_eq_some_iff.mp finished
  obtain ⟨shown, done⟩ := Prod.mk.inj named
  refine ⟨current, by decide +kernel, ?_, ?_, shown ▸ completions _ 0 handle addressed there done,
    ((refused_unchanged Detour.host Detour.start).2.1 .null (by decide +kernel)).2⟩
  · intro text member
    have refused : ∀ text ∈ ["Trip(seat)", "Nowhere", "Visit(=3)"],
        isRefusal (taken (.invoke (.text text) true)).outcome = true := by decide +kernel
    have refuses := refused text member
    cases failed : (taken (.invoke (.text text) true)).outcome with
    | ok answer =>
        rw [failed] at refuses
        cases refuses
    | error failure =>
        rw [failed] at refuses
        exact invocations (.text text) true failure failed refuses
  · refine ⟨inst, running 1 inst _ current found ?_⟩
    intro name arguments same
    cases same

end Engine

end Workflow
