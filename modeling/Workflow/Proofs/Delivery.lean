import Mathlib.Data.List.Nodup
import Mathlib.Data.List.Perm.Subperm
import Workflow.Proofs.Reachable
import Workflow.Proofs.Tally

/-!
# Deliveries

The engine subscribes to each stage once, when it is dispatched, and a stage can be finished once.
So the engine is told of the completion of a stage at most once, however many operations hooks
perform while another completion is half done, and whatever fails on the way.
-/

namespace Workflow

/-- Whether an event is the call of a validator about the output of a stage. -/
def Event.isJudgement : Event → Bool
  | .consulted _ (some (_, .validate)) _ => true
  | _ => false

/-- How often validators were called about outputs of stages. -/
def State.judgements (state : State) : Nat :=
  state.journal.countP Event.isJudgement

/-- A behaviour that may perform any operations, and adds nothing but remarks to the journal. -/
def Behaviour.Remarks : Behaviour → Prop
  | .reply _ | .fail _ => True
  | .write _ _ next | .remove _ next => next.Remarks
  | .look next => ∀ entries, (next entries).Remarks
  | .operate _ next => ∀ outcome, (next outcome).Remarks
  | .tell event next => event.isRemark = true ∧ next.Remarks

/-- How many judgements come with a question. -/
def Question.judgements : Option (Nat × Question) → Nat
  | some (_, .validate) => 1
  | _ => 0

theorem State.judgements_eq (state : State) :
    state.judgements = state.calls.countP Event.isJudgement := by
  rw [judgements, calls, List.countP_filter]
  congr 1
  funext event
  cases event <;> simp [Event.isJudgement, Engine.isConsultation]

theorem State.Calm.judgements {before after : State} (calm : before.Calm after) :
    after.judgements = before.judgements := by
  rw [State.judgements_eq, State.judgements_eq, calm.calls]

namespace Engine

theorem calm_receive : Calm receive :=
  calm_detach.bind fun _ => calm_currentNumber.bind fun number =>
    (calm_definitionOf number).bind fun definition => (calm_instanceAt number).bind fun inst =>
      (calm_stageOf definition inst.stage).bind fun _ => calm_pure _

theorem calm_advance (number : Nat) (definition : Definition) (stageName : Option String)
    (staged : ValueMap) : Calm (advance number definition stageName staged) :=
  (calm_instanceAt number).bind fun _ => Calm.bind (calm_note rfl) fun _ =>
    (calm_editValues number _).bind fun _ => (calm_modifyInstance number _).bind fun _ =>
      (calm_instanceAt number).bind fun _ => (calm_startNext definition _).bind fun _ => calm_pure _

theorem calm_leave : Calm leave :=
  calm_currentNumber.bind fun number => (calm_definitionOf number).bind fun _ =>
    (calm_modifyInstance number _).bind fun _ => (calm_instanceAt number).bind fun _ =>
      Calm.bind (calm_note rfl) fun _ => calm_pure _

/-- Without programs of their own, hooks call no other hooks. -/
theorem calm_answerOf (programs : Programs) (before : List Event) (arguments : List Value)
    (shown : Shown) (hook : Hook) :
    Calm (answerOf (programs.host 0) before arguments shown hook) := by
  cases hook with
  | alwaysValid => exact calm_pure _
  | identityAcceptor => exact calm_pure _
  | cancelDecision => exact (calm_decideCancel shown).bind fun _ => calm_pure _
  | ready hook => exact (calm_lift _).bind fun _ => calm_pure _
  | custom program role name stamp => exact calm_throw _

theorem calm_initial (settings : ControllerSettings) (content : Option String) :
    Calm (initial settings content) := by
  refine Calm.bind (calm_modify ?_) fun _ => (calm_register _).bind fun _ => calm_pure ()
  intro state
  exact .of_same rfl rfl

/-- A stage that is closed was open before, and those who were subscribed to it are told. -/
theorem close_cases (number : Nat) (output : Value) (state : State) :
    (∃ failure, close number output state = .error failure state) ∨
      ∃ handle, state.dispatcher.handles[number]? = some handle ∧ handle.finished = false ∧
        ((∃ failure, close number output state = .error failure (state.finishing number)) ∨
          ∃ payload, close number output state =
            .ok (handle.listeners, payload) (state.finishing number)) := by
  cases found : state.dispatcher.handle? number with
  | none =>
      exact .inl ⟨.outOfRange, by
        simp only [close, bind_apply, get_apply, found, throw_apply]⟩
  | some handle =>
      cases finished : handle.finished with
      | true =>
          have refused := (Handle.finish?_eq_none_iff handle).mpr finished
          refine .inl ⟨.alreadyFinished handle.stage, ?_⟩
          simp only [close, bind_apply, get_apply, found, refused, throw_apply]
      | false =>
          have same := modify_finished found
          refine .inr ⟨handle, found, finished, ?_⟩
          cases read : Payload.ofOutput output with
          | error fault =>
              refine .inl ⟨.value fault, ?_⟩
              simp only [close, bind_apply, get_apply, found, Handle.finish?, finished,
                Bool.false_eq_true, ↓reduceIte, modifyHandle, Dispatcher.modifyHandle, modify_apply,
                same, read]
              rfl
          | ok payload =>
              refine .inr ⟨payload, ?_⟩
              simp only [close, bind_apply, get_apply, found, Handle.finish?, finished,
                Bool.false_eq_true, ↓reduceIte, modifyHandle, Dispatcher.modifyHandle, modify_apply,
                same, read]
              rfl

end Engine

namespace Tallied

variable {α β : Type} {programs : Programs} {run : Runner}

/-- Every stage in the tally is finished and stands there once, no stage has more than one
subscription, and besides some that are still to come there are no more judgements than entries. -/
structure Fair (toCome : Nat) (state : State) (tally : List Nat) : Prop where
  single : state.Single
  nodup : tally.Nodup
  finished : ∀ number ∈ tally, state.Finished number
  covered : state.judgements + toCome ≤ tally.length

namespace Fair

variable {toCome : Nat} {state after : State} {tally : List Nat}

theorem calm (fair : Fair toCome state tally) (calm : state.Calm after) :
    Fair toCome after tally where
  single := calm.single fair.single
  nodup := fair.nodup
  finished := fun number member => calm.finished number (fair.finished number member)
  covered := calm.judgements ▸ fair.covered

/-- A stage that was open can be entered once it is finished, with a judgement to come. -/
theorem enter {number : Nat} {handle : Handle Watcher}
    (fair : Fair 0 (state.finishing number) tally)
    (found : state.dispatcher.handles[number]? = some handle) (unfinished : handle.finished = false)
    (before : ∀ other ∈ tally, state.Finished other) :
    Fair 1 (state.finishing number) (number :: tally) where
  single := fair.single
  nodup := by
    refine List.nodup_cons.mpr ⟨?_, fair.nodup⟩
    intro member
    obtain ⟨other, also, finished⟩ := before number member
    cases found.symm.trans also
    cases unfinished.symm.trans finished
  finished := by
    intro other member
    rcases List.mem_cons.mp member with rfl | earlier
    · refine ⟨{ handle with finished := true }, ?_, rfl⟩
      simp [State.finishing, Dispatcher.modifyHandle, found]
    · exact fair.finished other earlier
  covered := Nat.succ_le_succ fair.covered

theorem mono (fair : Fair toCome state tally) {fewer : Nat} (le : fewer ≤ toCome) :
    Fair fewer state tally :=
  { fair with covered := Nat.le_trans (Nat.add_le_add_left le _) fair.covered }

end Fair

/-- With as many judgements to come as given, a step leaves a fair tally with none to come, whatever
becomes of it. -/
def Keeps (toCome : Nat) (step : Tallied α) : Prop :=
  ∀ state tally, Fair toCome state tally →
    Fair 0 (Trace.outcomeOf step (state, tally)).2.1 (Trace.outcomeOf step (state, tally)).2.2

theorem keeps_pure (toCome : Nat) (answer : α) : Keeps toCome (pure answer : Tallied α) :=
  fun _ _ fair => fair.mono (Nat.zero_le _)

theorem keeps_throw (toCome : Nat) (failure : Failure) : Keeps toCome (throw failure : Tallied α) :=
  fun _ _ fair => fair.mono (Nat.zero_le _)

theorem Keeps.bind {toCome : Nat} {step : Tallied α} {next : α → Tallied β}
    (keeps : Keeps toCome step) (further : ∀ answer, Keeps 0 (next answer)) :
    Keeps toCome (step >>= next) := by
  intro state tally fair
  have first := keeps state tally fair
  simp only [Trace.outcomeOf] at first ⊢
  rw [bind_apply]
  cases reached : step (state, tally) with
  | error failure after =>
      rw [reached] at first
      exact first
  | ok answer after =>
      rw [reached] at first
      exact further answer after.1 after.2 first

theorem Keeps.outcome {toCome : Nat} {step : Tallied α} (keeps : Keeps toCome step) :
    Keeps toCome (outcome step) := by
  intro state tally fair
  exact keeps state tally fair

/-- What is done quietly leaves as many judgements to come. -/
theorem keeps_quietly_bind {toCome : Nat} {step : Engine α} {next : α → Tallied β}
    (calm : Engine.Calm step) (further : ∀ answer, Keeps toCome (next answer)) :
    Keeps toCome (quietly step >>= next) := by
  intro state tally fair
  have first := fair.calm (calm state)
  simp only [Trace.outcomeOf]
  rw [bind_apply]
  simp only [Engine.ending] at first
  simp only [quietly]
  cases reached : step state with
  | error failure after =>
      rw [reached] at first
      exact first.mono (Nat.zero_le _)
  | ok answer after =>
      rw [reached] at first
      exact further answer after tally first

theorem keeps_quietly {toCome : Nat} {step : Engine α} (calm : Engine.Calm step) :
    Keeps toCome (quietly step) := by
  rw [← bind_pure (quietly step)]
  exact keeps_quietly_bind calm fun answer => keeps_pure toCome answer

/-- A call that is taken down is a judgement if it is one of a validator about an output. -/
theorem keeps_announce_bind {hook : Hook} {asked : Option (Nat × Question)}
    {arguments : List Value} {next : List Event → Tallied β}
    (further : ∀ before, Keeps 0 (next before)) :
    Keeps (Question.judgements asked)
      (quietly (Engine.announce hook asked arguments) >>= next) := by
  intro state tally fair
  simp only [Trace.outcomeOf]
  rw [bind_apply]
  by_cases arity : hook.arity = arguments.length
  · have announced : quietly (Engine.announce hook asked arguments) (state, tally) =
        .ok state.journal (state.reporting [.consulted hook asked arguments], tally) := by
      simp only [quietly, Engine.announce, arity, ne_eq, not_true_eq_false, ↓reduceIte,
        Engine.bind_apply, Engine.ask_apply, Engine.note_apply, Engine.pure_apply]
      rfl
    have spent : (state.reporting [.consulted hook asked arguments]).judgements =
        state.judgements + Question.judgements asked := by
      simp only [State.judgements, State.reporting, List.singleton_append, List.countP_cons]
      congr 1
      rcases asked with _ | ⟨number, question⟩
      · rfl
      · cases question <;> rfl
    rw [announced]
    exact further _ _ _ {
      fair with
      covered := by
        rw [spent]
        exact fair.covered }
  · have refused : quietly (Engine.announce hook asked arguments) (state, tally) =
        .error .badCall (state, tally) := by
      simp only [quietly, Engine.announce, arity, ne_eq, not_false_eq_true, ↓reduceIte,
        Engine.bind_apply, Engine.throw_apply]
    rw [refused]
    exact fair.mono (Nat.zero_le _)

section Steps

variable (runs : ∀ program occasion shown, Keeps 0 (run program occasion shown))
include runs

theorem keeps_callHook (hook : Hook) (asked : Option (Nat × Question)) (arguments : List Value)
    (shown : Shown) :
    Keeps (Question.judgements asked) (callHook programs run hook asked arguments shown) := by
  refine keeps_announce_bind fun before => ?_
  cases hook with
  | custom program role name stamp => exact runs _ _ _
  | alwaysValid => exact keeps_quietly (Engine.calm_answerOf _ _ _ _ _)
  | identityAcceptor => exact keeps_quietly (Engine.calm_answerOf _ _ _ _ _)
  | cancelDecision => exact keeps_quietly (Engine.calm_answerOf _ _ _ _ _)
  | ready hook => exact keeps_quietly (Engine.calm_answerOf _ _ _ _ _)

theorem keeps_consult (hook : Hook) (inst : Nat) (question : Question) (shown : Shown) :
    Keeps (Question.judgements (some (inst, question)))
      (consult programs run hook inst question shown) :=
  keeps_quietly_bind (Engine.calm_entries shown) fun _ => keeps_callHook runs hook _ _ shown

/-- The judgement that is to come with a completion is the only one. -/
theorem keeps_judge (number : Nat) (stage : Stage) (payload : Payload) :
    Keeps 1 (judge programs run number stage payload) :=
  (keeps_consult runs stage.validator number .validate (.output payload)).bind fun _ =>
    keeps_quietly_bind (Engine.calm_lift _) fun _ =>
      keeps_quietly_bind (Engine.calm_lift _) fun _ => keeps_pure 0 _

theorem keeps_advise (number : Nat) (definition : Definition) (reached : Int) :
    Keeps 0 (advise programs run number definition reached) := by
  simp only [advise]
  cases definition.redirector with
  | none => exact keeps_pure 0 none
  | some redirector =>
      exact (keeps_consult runs redirector number (.redirect _ _ true) (.values number)).bind
        fun _ => keeps_quietly (Engine.calm_lift _)

theorem keeps_exit (bound : Nat) : Keeps 0 (exit programs run bound) := by
  induction bound with
  | zero => exact keeps_throw 0 .tooDeep
  | succ bound ih =>
      refine keeps_quietly_bind Engine.calm_leave fun left =>
        (keeps_consult runs _ _ .accept _).bind fun answered =>
          keeps_quietly_bind Engine.calm_get fun state => ?_
      split
      · exact keeps_quietly Engine.calm_comeToRest
      · refine keeps_quietly_bind (Engine.calm_resume _) fun past => ?_
        split
        · exact ih
        · exact keeps_quietly Engine.calm_startStage

theorem keeps_proceed (number : Nat) (definition : Definition) (stageName : Option String)
    (target : Option (String × Invocation)) :
    Keeps 0 (proceed programs run number definition stageName target) := by
  cases target with
  | none =>
      refine keeps_quietly_bind (Engine.calm_instanceAt number) fun inst => ?_
      split
      · exact keeps_quietly_bind Engine.calm_get fun state => keeps_exit runs _
      · exact keeps_pure 0 ()
  | some target => exact keeps_quietly (Engine.calm_redirect _ _ _ _)

/-- The engine judges one output, and hooks that call back keep the tally fair. -/
theorem keeps_stageFinished (payload : Payload) :
    Keeps 1 (stageFinished programs run payload) := by
  refine keeps_quietly_bind Engine.calm_receive fun received =>
    (keeps_judge runs _ _ payload).bind fun judged => ?_
  obtain ⟨number, definition, reached, stage⟩ := received
  obtain ⟨left, staged⟩ := judged
  cases staged with
  | error error =>
      exact keeps_quietly_bind (Engine.calm_reject _ _ _) fun _ => keeps_pure 0 left
  | ok staged =>
      exact keeps_quietly_bind (Engine.calm_advance _ _ _ _) fun reached =>
        (keeps_advise runs _ _ _).bind fun target =>
          (keeps_proceed runs _ _ _ target).bind fun _ => keeps_pure 0 left

/-- A stage that is completed was open before, so it does not stand in the tally yet. -/
theorem keeps_finishHandle (number : Nat) (output : Value) :
    Keeps 0 (finishHandle programs run number output) := by
  intro state tally fair
  have calm := state.calm_modifyHandle number (fun handle => { handle with finished := true })
    (fun _ => Nat.le_refl _) fun _ _ => rfl
  have finishing : Fair 0 (state.finishing number) tally := fair.calm calm
  simp only [Trace.outcomeOf, finishHandle]
  rw [bind_apply]
  rcases Engine.close_cases number output state with
    ⟨failure, closed⟩ | ⟨handle, found, unfinished, ⟨failure, closed⟩ | ⟨payload, closed⟩⟩
  · simp only [quietly, closed]
    exact fair
  · simp only [quietly, closed]
    exact finishing
  · simp only [quietly, closed]
    have single := fair.single handle (List.mem_of_getElem? found)
    rcases listeners : handle.listeners with _ | ⟨listener, _ | ⟨another, rest⟩⟩
    · exact finishing
    · have told : Keeps 1 (stageFinished programs run payload) := keeps_stageFinished runs payload
      have delivered := (told.bind fun left => keeps_pure 0 left).bind fun _ => keeps_pure 0 ()
      exact delivered _ _ (finishing.enter found unfinished fair.finished)
    · rw [listeners] at single
      simp at single

theorem keeps_callDirectly (hook : Hook) (arguments : List Value) :
    Keeps 0 (callDirectly programs run hook arguments) :=
  keeps_quietly_bind (Engine.calm_lift _) fun shown =>
    (keeps_callHook runs hook none arguments shown).bind fun _ => keeps_pure 0 _

/-- Whatever operation is performed, the tally stays fair. -/
theorem keeps_perform (operation : Operation) : Keeps 0 (perform programs run operation) := by
  cases operation with
  | complete output =>
      refine keeps_quietly_bind Engine.calm_get fun state => ?_
      cases state.dispatcher.current with
      | none => exact keeps_throw 0 .nothingToComplete
      | some number => exact (keeps_finishHandle runs number output).bind fun _ => keeps_pure 0 _
  | finish position output =>
      refine keeps_quietly_bind Engine.calm_get fun state => ?_
      simp only
      cases Position.offset? state.dispatcher.handles.length position with
      | none => exact keeps_throw 0 .outOfRange
      | some number => exact (keeps_finishHandle runs number output).bind fun _ => keeps_pure 0 _
  | call name role position arguments =>
      exact keeps_quietly_bind (Engine.calm_get.bind fun _ => Engine.calm_lift _) fun definition =>
        keeps_quietly_bind (Engine.calm_lift _) fun hook =>
          (keeps_callDirectly runs hook arguments).bind fun _ => keeps_pure 0 _
  | register request => exact keeps_quietly (Engine.calm_perform_register _ request)
  | invoke source force => exact keeps_quietly (Engine.calm_perform_invoke _ source force)
  | «recall» position =>
      exact keeps_quietly ((Engine.calm_returnedAt position).bind fun _ => Engine.calm_pure _)
  | deactivate => exact keeps_quietly (Engine.calm_deactivate.bind fun _ => Engine.calm_pure _)
  | definition name =>
      exact keeps_quietly (Engine.calm_get.bind fun _ => (Engine.calm_lift _).bind fun _ =>
        Engine.calm_pure _)
  | stageName name number =>
      exact keeps_quietly (Engine.calm_get.bind fun _ => (Engine.calm_lift _).bind fun _ =>
        Engine.calm_pure _)
  | rename name =>
      exact keeps_quietly (Engine.calm_get.bind fun _ => (Engine.calm_lift _).bind fun _ =>
        Engine.calm_throw _)
  | load document path fresh =>
      have calm := Engine.calm_loadAll (programs.host 0) document path
      exact keeps_quietly ((calm.withRegistry []).ite calm)
  | loadMissing => exact keeps_quietly (Engine.calm_throw .missingFile)
  | _ => exact keeps_quietly (Engine.calm_get.bind fun _ => Engine.calm_pure _)

end Steps

/-- Whatever a hook does, the tally stays fair. -/
theorem keeps_follow {performing : Operation → Tallied Answer}
    (performs : ∀ operation, Keeps 0 (performing operation)) {behaviour : Behaviour}
    (remarks : behaviour.Remarks) (shown : Shown) :
    Keeps 0 (follow performing behaviour shown) := by
  induction behaviour generalizing shown with
  | reply answer => exact keeps_pure 0 _
  | fail failure => exact keeps_throw 0 failure
  | write key value next ih =>
      exact keeps_quietly_bind (Engine.calm_change _ _ shown) fun written => ih remarks written
  | remove key next ih =>
      exact keeps_quietly_bind (Engine.calm_change _ _ shown) fun left => ih remarks left
  | look next ih =>
      exact keeps_quietly_bind (Engine.calm_entries shown) fun entries =>
        ih entries (remarks entries) shown
  | operate operation next ih =>
      exact (performs operation).outcome.bind fun outcome => ih outcome (remarks outcome) shown
  | tell event next ih =>
      have silent : Engine.isConsultation event = false := by
        have remark := remarks.1
        cases event <;> first | rfl | cases remark
      exact keeps_quietly_bind (Engine.calm_note silent) fun _ => ih remarks.2 shown

theorem keeps_runner
    (remarks : ∀ program occasion, (programs.behaviour program occasion).Remarks)
    (depth program : Nat) (occasion : Occasion) (shown : Shown) :
    Keeps 0 (runner programs depth program occasion shown) := by
  induction depth generalizing program occasion shown with
  | zero => exact keeps_throw 0 .tooDeep
  | succ depth ih => exact keeps_follow (keeps_perform ih) (remarks program occasion) shown

theorem fair_final (remarks : ∀ program occasion, (programs.behaviour program occasion).Remarks)
    (depth : Nat) {state : State} {tally : List Nat} (fair : Fair 0 state tally)
    (operations : List Operation) :
    Fair 0 (Trace.final (perform programs (runner programs depth)) (state, tally) operations).1
      (Trace.final (perform programs (runner programs depth)) (state, tally) operations).2 := by
  induction operations generalizing state tally with
  | nil => exact fair
  | cons operation rest ih =>
      exact ih (keeps_perform (keeps_runner remarks depth) operation state tally fair)

theorem fair_freshlyBuilt {state : State} (fresh : state.FreshlyBuilt) : Fair 0 state [] := by
  obtain ⟨registry, settings, content, backend, stamp, built⟩ := fresh
  have calm := Engine.calm_initial settings content { registry, stamp, dispatcher := { backend } }
  rw [Engine.ending, built] at calm
  have empty : Fair 0 { registry, stamp, dispatcher := { backend } } [] :=
    { single := fun _ member => absurd member List.not_mem_nil
      nodup := List.nodup_nil
      finished := fun _ member => absurd member List.not_mem_nil
      covered := Nat.le_refl 0 }
  exact empty.calm calm

/-- A fair tally has no more entries than stages were dispatched. -/
theorem Fair.length_le {toCome : Nat} {state : State} {tally : List Nat}
    (fair : Fair toCome state tally) : tally.length ≤ state.dispatcher.handles.length := by
  have inRange : tally ⊆ List.range state.dispatcher.handles.length := by
    intro number member
    obtain ⟨handle, found, -⟩ := fair.finished number member
    exact List.mem_range.mpr (List.getElem?_eq_some_iff.mp found).1
  have shorter := (List.subperm_of_subset fair.nodup inRange).length_le
  rwa [List.length_range] at shorter

/-- In every run the engine is told of the completion of a stage at most once, however deeply hooks
call back and whatever operations they perform, and also when operations fail.  Each judgement goes
with a completion of its own, so there are no more of them than stages were dispatched. -/
theorem told_once (programs : Programs)
    (remarks : ∀ program occasion, (programs.behaviour program occasion).Remarks) (depth : Nat)
    {start : State} (fresh : start.FreshlyBuilt) (operations : List Operation) :
    let final := Trace.final (Engine.perform (programs.host depth)) start operations
    let tallied := Trace.final (perform programs (runner programs depth)) (start, []) operations
    tallied.1 = final ∧ (∀ number, tallied.2.count number ≤ 1) ∧
      (∀ number ∈ tallied.2, final.Finished number) ∧ final.judgements ≤ tallied.2.length ∧
      final.judgements ≤ final.dispatcher.handles.length := by
  intro final tallied
  have same : tallied.1 = final := final_runner programs depth start [] operations
  have fair : Fair 0 tallied.1 tallied.2 :=
    fair_final remarks depth (fair_freshlyBuilt fresh) operations
  rw [same] at fair
  exact ⟨same, List.nodup_iff_count_le_one.mp fair.nodup, fair.finished, fair.covered,
    Nat.le_trans fair.covered fair.length_le⟩

end Tallied

/-! ## Calling back

The validator of a trip starts another trip and completes its first stage, and it tries to complete
the stage once more of which it judges the output. -/

namespace Reentry

def programs : Programs :=
  { behaviour := fun _ _ =>
      .operate (.invoke (.text "Trip") true) fun _ =>
        .operate (.complete .null) fun _ =>
          .operate (.finish 0 .null) fun _ => .reply (.bool true) }

def operations : List Operation :=
  [.register
      { name := "Trip", plan := "Go;Return",
        validators := [.custom 0 .validator "again", .default] },
    .invoke (.text "Trip") false, .complete .null, .complete .null, .finish 0 .null]

theorem remarks (program : Nat) (occasion : Occasion) :
    (programs.behaviour program occasion).Remarks :=
  fun _ _ _ => trivial

/-- Five stages are left open, to each of which the engine is subscribed, and it was told of eight
others, once of each. -/
theorem told_once_reentry :
    let final := Trace.final (Engine.perform (programs.host 3)) Detour.start operations
    let tallied := Trace.final (Tallied.perform programs (Tallied.runner programs 3))
      (Detour.start, []) operations
    tallied.2 = [9, 8, 7, 6, 3, 2, 1, 0] ∧
      (final.dispatcher.handles.filter fun handle => !handle.listeners.isEmpty).length = 5 ∧
      tallied.1 = final ∧ (∀ number, tallied.2.count number ≤ 1) ∧
      (∀ number ∈ tallied.2, final.Finished number) ∧ final.judgements ≤ tallied.2.length ∧
      final.judgements ≤ final.dispatcher.handles.length :=
  ⟨by decide +kernel, by decide +kernel,
    Tallied.told_once programs remarks 3 Detour.built operations⟩

end Reentry

end Workflow
