import Workflow.Engine.Behaviour
import Workflow.Proofs.Completion

/-!
# Calls of hooks

Every call of a hook is taken down in the journal before the hook does anything.  Most parts of a
step are calm: they call no hook, they never open a stage again that is finished, and they never
subscribe to a stage twice.
-/

namespace Workflow

namespace State

/-- The calls of hooks in the journal, the latest first. -/
def calls (state : State) : List Event :=
  state.journal.filter Engine.isConsultation

/-- No stage has more than one subscription. -/
def Single (state : State) : Prop :=
  ∀ handle ∈ state.dispatcher.handles, handle.listeners.length ≤ 1

/-- The stage of a number was dispatched, and it is finished. -/
def Finished (state : State) (number : Nat) : Prop :=
  ∃ handle, state.dispatcher.handles[number]? = some handle ∧ handle.finished = true

/-- From one state to the other no hook is called, what is finished stays finished, and nothing is
subscribed to twice. -/
structure Calm (before after : State) : Prop where
  calls : after.calls = before.calls
  single : before.Single → after.Single
  finished : ∀ number, before.Finished number → after.Finished number

namespace Calm

variable {before middle after : State}

theorem refl (state : State) : state.Calm state :=
  ⟨rfl, id, fun _ => id⟩

theorem trans (earlier : before.Calm middle) (later : middle.Calm after) : before.Calm after where
  calls := later.calls.trans earlier.calls
  single := later.single ∘ earlier.single
  finished := fun number => later.finished number ∘ earlier.finished number

/-- What leaves the handles and the calls as they are is calm. -/
theorem of_same (handles : after.dispatcher.handles = before.dispatcher.handles)
    (calls : after.calls = before.calls) : before.Calm after where
  calls := calls
  single := by
    simp only [Single, handles]
    exact id
  finished := by
    simp only [Finished, handles]
    exact fun _ => id

end Calm

variable (state : State)

theorem calls_reporting (events : List Event) :
    (state.reporting events).calls = events.filter Engine.isConsultation ++ state.calls :=
  List.filter_append ..

theorem calm_reporting {events : List Event}
    (silent : events.filter Engine.isConsultation = []) : state.Calm (state.reporting events) :=
  .of_same rfl (by rw [calls_reporting, silent, List.nil_append])

theorem filter_displayed (backend : Backend) (line : String) :
    (backend.displayed line).filter Engine.isConsultation = [] := by
  cases backend <;> rfl

/-- A handle whose subscriptions become no more, and which stays finished if it is, can be changed
without further ado. -/
theorem calm_modifyHandle (number : Nat) (change : Handle Watcher → Handle Watcher)
    (fewer : ∀ handle, (change handle).listeners.length ≤ handle.listeners.length)
    (keeps : ∀ handle, handle.finished = true → (change handle).finished = true) :
    state.Calm { state with dispatcher := state.dispatcher.modifyHandle number change } where
  calls := rfl
  single := by
    intro single handle member
    obtain ⟨place, found⟩ := List.mem_iff_getElem?.mp member
    simp only [Dispatcher.modifyHandle, List.getElem?_modify, Functor.map,
      Option.map_eq_some_iff] at found
    obtain ⟨before, old, rfl⟩ := found
    have once := single before (List.mem_of_getElem? old)
    split
    · exact Nat.le_trans (fewer before) once
    · exact once
  finished := by
    rintro other ⟨handle, found, finished⟩
    simp only [Finished, Dispatcher.modifyHandle, List.getElem?_modify, found, Option.map_eq_map,
      Option.map_some]
    refine ⟨_, rfl, ?_⟩
    split
    · exact keeps handle finished
    · exact finished

theorem calm_detached : state.Calm state.detached := by
  cases held : state.held with
  | none =>
      refine .of_same ?_ rfl
      simp only [detached, held]
  | some number =>
      have changed := state.calm_modifyHandle number (·.unsubscribe .controller)
        (fun handle => (List.erase_sublist ..).length_le) fun _ => id
      refine changed.trans (.of_same ?_ rfl)
      simp only [detached, held]

/-- A stage that is dispatched has one subscription at most. -/
theorem calm_concat (handle : Handle Watcher) (single : handle.listeners.length ≤ 1)
    {after : State} (handles : after.dispatcher.handles = state.dispatcher.handles ++ [handle])
    (calls : after.calls = state.calls) : state.Calm after where
  calls := calls
  single := by
    intro others other member
    rw [handles] at member
    rcases List.mem_append.mp member with old | new
    · exact others other old
    · rw [List.mem_singleton.mp new]
      exact single
  finished := by
    rintro number ⟨other, found, finished⟩
    refine ⟨other, ?_, finished⟩
    rw [handles, List.getElem?_append_left (List.getElem?_eq_some_iff.mp found).1]
    exact found

end State

namespace Engine

variable {α β : Type}

/-- A step that calls no hook, opens no stage again and subscribes to no stage twice, whatever
becomes of it. -/
def Calm (step : Engine α) : Prop :=
  ∀ state : State, state.Calm (ending step state).2

theorem calm_pure (answer : α) : Calm (pure answer : Engine α) := fun state => .refl state

theorem calm_throw (failure : Failure) : Calm (throw failure : Engine α) := fun state => .refl state

theorem calm_get : Calm (get : Engine State) := fun state => .refl state

theorem calm_ask (part : State → α) : Calm (ask part) := fun state => .refl state

theorem calm_lift (answer : Except Failure α) : Calm (lift answer) := by
  cases answer with
  | ok answer => exact calm_pure answer
  | error failure => exact calm_throw failure

theorem calm_modify {change : State → State} (calm : ∀ state : State, state.Calm (change state)) :
    Calm (modify change : Engine Unit) := calm

theorem calm_note {event : Event} (silent : isConsultation event = false) : Calm (note event) := by
  intro state
  have reported : state.Calm (state.reporting [event]) :=
    state.calm_reporting (by simp [silent])
  exact reported

theorem Calm.bind {step : Engine α} {next : α → Engine β} (calm : Calm step)
    (further : ∀ answer, Calm (next answer)) : Calm (step >>= next) := by
  intro state
  have first := calm state
  simp only [ending, bind_apply] at first ⊢
  cases reached : step state with
  | error failure after =>
      rw [reached] at first
      exact first
  | ok answer after =>
      rw [reached] at first
      exact first.trans (further answer after)

theorem Calm.ite {condition : Prop} [Decidable condition] {step other : Engine α}
    (calm : Calm step) (also : Calm other) : Calm (if condition then step else other) := by
  split
  · exact calm
  · exact also

theorem calm_instanceAt (number : Nat) : Calm (instanceAt number) :=
  calm_get.bind fun state => by
    cases state.instances[number]? with
    | none => exact calm_throw _
    | some inst => exact calm_pure inst

theorem calm_currentNumber : Calm currentNumber :=
  calm_get.bind fun state => by
    cases state.current with
    | none => exact calm_throw _
    | some number => exact calm_pure number

theorem calm_definitionOf (number : Nat) : Calm (definitionOf number) :=
  (calm_instanceAt number).bind fun _ => calm_get.bind fun _ => calm_lift _

theorem calm_stageOf (definition : Definition) (number : Int) :
    Calm (stageOf definition number) := by
  simp only [stageOf]
  cases definition.stage? number with
  | none => exact calm_throw _
  | some stage => exact calm_pure stage

theorem calm_labelOf (number : Option Nat) : Calm (labelOf number) := by
  cases number with
  | none => exact calm_pure "None"
  | some number => exact (calm_instanceAt number).bind fun inst => calm_pure inst.label

theorem calm_modifyInstance (number : Nat) (change : Instance → Instance) :
    Calm (modifyInstance number change) :=
  calm_modify fun _ => .of_same rfl rfl

theorem calm_addInstance (inst : Instance) : Calm (addInstance inst) := by
  intro state
  rw [ending, addInstance_apply]
  exact .of_same rfl rfl

theorem calm_editValues (number : Nat) (edit : Edit Unit) : Calm (editValues number edit) :=
  (calm_instanceAt number).bind fun inst => by
    cases edit inst.values with
    | ok _ values => exact calm_modifyInstance number _
    | error fault values =>
        exact (calm_modifyInstance number _).bind fun _ => calm_throw _

theorem calm_display (line : String) : Calm (display line) :=
  calm_get.bind fun state => by
    cases state.dispatcher.backend with
    | inMemory => exact calm_pure ()
    | console => exact calm_note rfl

theorem calm_deactivate : Calm deactivate := by
  refine Calm.bind (calm_modify ?_) fun _ => Calm.bind (calm_note rfl) fun _ => calm_display _
  intro state
  exact .of_same rfl rfl

theorem calm_detach : Calm detach := by
  intro state
  rw [ending, detach_apply]
  exact state.calm_detached

theorem calls_activated (state : State) (line stage : String) (arguments : Option (List String)) :
    (state.reporting (state.dispatcher.backend.displayed line ++
      [.activated stage arguments])).calls = state.calls := by
  rw [State.calls_reporting, List.filter_append, State.filter_displayed]
  rfl

/-- What is subscribed to is the stage that was dispatched just before, if it can be. -/
theorem calm_activate_attach (stage : String) (arguments : Option (List String)) :
    Calm (do activate stage arguments; attach) := by
  intro state
  have silent := calls_activated state (Dispatcher.stageLine stage arguments) stage arguments
  simp only [State.calls, State.reporting, List.append_assoc, List.singleton_append] at silent
  cases remembers : state.dispatcher.remembers with
  | true =>
      rw [ending, activate_attach_apply remembers]
      exact state.calm_concat { stage, arguments, listeners := [.controller] } (Nat.le_refl 1) rfl
        silent
  | false =>
      rw [ending, activate_attach_forgotten remembers]
      exact state.calm_concat (.ofStage stage arguments) (Nat.zero_le 1) rfl silent

theorem calm_startStage : Calm startStage :=
  calm_currentNumber.bind fun number => (calm_definitionOf number).bind fun definition =>
    (calm_instanceAt number).bind fun inst => (calm_stageOf definition inst.stage).bind fun stage =>
      (calm_lift _).bind fun arguments => calm_activate_attach stage.name arguments

theorem calm_startNext (definition : Definition) (reached : Int) :
    Calm (startNext definition reached) :=
  calm_startStage.ite (calm_pure ())

theorem calm_requireIdle (force : Bool) : Calm (requireIdle force) :=
  calm_get.bind fun state => by
    cases state.current with
    | none => exact calm_pure ()
    | some number =>
        exact (calm_pure ()).ite ((calm_instanceAt number).bind fun _ => calm_throw _)

/-- Starting a workflow calls no hook. -/
theorem calm_start (invocation : Invocation) : Calm (start invocation) := by
  refine calm_get.bind fun state => (calm_lift _).bind fun _ => calm_detach.bind fun _ =>
    (calm_addInstance _).bind fun number => Calm.bind (calm_modify ?_) fun _ =>
      Calm.bind (calm_note rfl) fun _ => calm_startStage.bind fun _ => calm_pure number
  intro state
  exact .of_same rfl rfl

theorem calm_invoke (invocation : Invocation) (force : Bool) : Calm (invoke invocation force) :=
  (calm_requireIdle force).bind fun _ => calm_start invocation

theorem calm_invokeSource (source : InvocationSource) (force : Bool) :
    Calm (invokeSource source force) := by
  cases source with
  | text text =>
      exact (calm_requireIdle force).bind fun _ => (calm_lift _).bind fun _ => calm_start _
  | fields name arguments => exact (calm_lift _).bind fun _ => calm_invoke _ force

theorem calm_push (entry : Option Nat) : Calm (Suspension.push entry) := by
  refine Calm.bind (calm_modify ?_) fun _ => (calm_labelOf entry).bind fun _ =>
    calm_get.bind fun _ => calm_note rfl
  intro state
  exact .of_same rfl rfl

theorem calm_pop : Calm Suspension.pop :=
  calm_get.bind fun state => by
    cases state.suspended with
    | nil => exact calm_throw _
    | cons entry rest =>
        refine Calm.bind (calm_modify ?_) fun _ => (calm_labelOf entry).bind fun _ =>
          Calm.bind (calm_note rfl) fun _ => calm_pure entry
        intro state
        exact .of_same rfl rfl

theorem calm_discard : Calm Suspension.discard :=
  calm_pop.bind fun entry => by
    cases entry with
    | none => exact calm_throw _
    | some number =>
        exact (calm_instanceAt number).bind fun _ => Calm.bind (calm_note rfl) fun _ => calm_pure _

/-- The built-in decision calls no hook itself. -/
theorem calm_decideCancel (shown : Shown) : Calm (decideCancel shown) := by
  cases shown with
  | output payload => exact calm_throw _
  | values number =>
      refine calm_get.bind fun state => (calm_instanceAt number).bind fun inst =>
        (calm_lift _).bind fun declined => ?_
      refine Calm.ite ?_ (calm_pure Value.null)
      exact calm_discard.bind fun _ => calm_pure Value.null

theorem calm_entries (shown : Shown) : Calm shown.entries := by
  cases shown with
  | output payload => exact calm_pure payload
  | values number => exact (calm_instanceAt number).bind fun _ => calm_pure _

theorem calm_change (revise : Payload → Except ValueFault Payload) (edit : Edit Unit)
    (shown : Shown) : Calm (shown.change revise edit) := by
  cases shown with
  | output payload => exact (calm_lift _).bind fun _ => calm_pure _
  | values number => exact (calm_editValues number _).bind fun _ => calm_pure _

theorem calm_hold : Calm hold :=
  calm_get.bind fun state => (calm_push state.current).bind fun _ =>
    calm_currentNumber.bind fun number => (calm_instanceAt number).bind fun _ => calm_note rfl

theorem calm_noteRejection (number : Nat) (stageName : Option String) (error : Value) :
    Calm (noteRejection number stageName error) :=
  Calm.ite ((calm_instanceAt number).bind fun _ => calm_note rfl) (calm_throw _)

theorem calm_reject (number : Nat) (stageName : Option String) (error : Value) :
    Calm (reject number stageName error) :=
  (calm_noteRejection number stageName error).bind fun _ => calm_hold.bind fun _ =>
    (calm_lift _).bind fun _ => (calm_ask State.settings).bind fun _ =>
      (calm_invoke _ true).bind fun _ => calm_pure ()

theorem calm_redirect (number : Nat) (stageName : Option String) (target : String)
    (invocation : Invocation) : Calm (redirect number stageName target invocation) :=
  calm_get.bind fun _ => (calm_lift _).bind fun _ => (calm_instanceAt number).bind fun _ =>
    Calm.bind (calm_note rfl) fun _ => calm_hold.bind fun _ =>
      (calm_invoke invocation true).bind fun _ => calm_pure ()

theorem calm_comeToRest : Calm comeToRest := by
  refine Calm.bind (calm_modify ?_) fun _ => calm_deactivate.bind fun _ => calm_note rfl
  intro state
  exact .of_same rfl rfl

/-- Resuming an instance calls no hook. -/
theorem calm_resume (contribution : Value) : Calm (resume contribution) := by
  refine calm_pop.bind fun entry => Calm.bind (calm_modify ?_) fun _ =>
    calm_currentNumber.bind fun number => (calm_editValues number _).bind fun _ =>
      (calm_instanceAt number).bind fun inst => Calm.bind (calm_note rfl) fun _ =>
        (calm_definitionOf number).bind fun definition => calm_pure _
  intro state
  exact .of_same rfl rfl

theorem calm_register (registration : Registration) : Calm (register registration) := by
  have entered (registry : Registry) (definition : Definition) : Calm (do
      modify fun state => { state with registry }
      note (.registered definition.name definition.stageNames)
      return definition : Engine Definition) := by
    refine Calm.bind (calm_modify ?_) fun _ => Calm.bind (calm_note rfl) fun _ => calm_pure _
    intro state
    exact .of_same rfl rfl
  unfold register
  refine Calm.ite (Calm.bind (calm_note rfl) fun _ => ?_) ?_
  all_goals
    refine (calm_ask _).bind fun before => (calm_lift _).bind fun answer => ?_
    exact Calm.ite (Calm.bind (calm_note rfl) fun _ => entered answer.1 answer.2)
      (entered answer.1 answer.2)

theorem calm_hookOf (host : Host) (source : HookSource) : Calm (hookOf host source) := by
  cases source with
  | default => exact calm_pure none
  | path path => exact (calm_lift _).bind fun hook => calm_pure (some hook)
  | custom program role name =>
      refine calm_get.bind fun state => Calm.bind (calm_modify ?_) fun _ => calm_pure _
      intro state
      exact .of_same rfl rfl

theorem calm_hooksOf (host : Host) (sources : List HookSource) : Calm (hooksOf host sources) := by
  induction sources with
  | nil => exact calm_pure []
  | cons source rest ih =>
      exact (calm_hookOf host source).bind fun _ => ih.bind fun _ => calm_pure _

/-- Registering a workflow calls none of its hooks. -/
theorem calm_registerRequested (host : Host) (request : RegistrationRequest) :
    Calm (registerRequested host request) :=
  (calm_hookOf host _).bind fun _ => (calm_hookOf host _).bind fun _ =>
    (calm_hooksOf host _).bind fun _ => calm_register _

theorem calm_registerDeclared (host : Host) (declared : List DeclaredWorkflow) :
    Calm (registerDeclared host declared) := by
  induction declared with
  | nil => exact calm_pure ()
  | cons first rest ih =>
      exact (calm_lift _).bind fun _ => (calm_register _).bind fun _ => ih

theorem calm_loadAll (host : Host) (document : Value) (path : String) :
    Calm (loadAll host document path) := by
  refine Calm.bind ?_ fun _ => calm_get.bind fun _ => calm_pure _
  exact (calm_lift _).bind fun declared => (calm_registerDeclared host declared).bind fun _ =>
    calm_note rfl

theorem Calm.withRegistry {step : Engine α} (calm : Calm step) (registry : Registry) :
    Calm (withRegistry registry step) := by
  intro state
  have inner := calm { state with registry }
  simp only [ending, Engine.withRegistry] at inner ⊢
  cases reached : step { state with registry } with
  | ok answer after =>
      rw [reached] at inner
      exact ⟨inner.calls, inner.single, inner.finished⟩
  | error failure after =>
      rw [reached] at inner
      exact ⟨inner.calls, inner.single, inner.finished⟩

theorem calm_returnedAt (position : Int) : Calm (returnedAt position) := by
  refine (calm_ask State.journal).bind fun journal => ?_
  simp only
  split
  · exact calm_instanceAt _
  · exact calm_throw _

/-- Invoking a workflow calls no hook, whatever becomes of it. -/
theorem calm_perform_invoke (host : Host) (source : InvocationSource) (force : Bool) :
    Calm (perform host (.invoke source force)) :=
  (calm_invokeSource source force).bind fun number => Calm.bind (calm_note rfl) fun _ =>
    (calm_instanceAt number).bind fun _ => calm_pure _

theorem calm_perform_register (host : Host) (request : RegistrationRequest) :
    Calm (perform host (.register request)) :=
  (calm_registerRequested host request).bind fun _ => calm_pure _

end Engine

end Workflow
