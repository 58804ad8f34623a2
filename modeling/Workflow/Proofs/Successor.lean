import Workflow.Proofs.Step

/-!
# Successors of a state

Every step of an engine is composed of a few changes of its state.  They are named here as functions
on states, and the equations say which of them a part of a step comes down to.
-/

namespace Workflow

/-- What is displayed of a line. -/
def Backend.displayed (backend : Backend) (line : String) : List Event :=
  match backend with
  | .inMemory => []
  | .console => [.displayed line]

/-- How an instance leaves the engine: its acceptor is called, or it is given up. -/
inductive Departure where
  | accepted (inst : Nat)
  | abandoned (inst : Nat)
  deriving DecidableEq

/-- The departure that an event stands for. -/
def Event.departure? : Event → Option Departure
  | .consulted _ (some (number, .accept)) _ => some (.accepted number)
  | .abandoned number _ => some (.abandoned number)
  | _ => none

/-- No departure is among the events. -/
def Event.Quiet (events : List Event) : Prop :=
  events.filterMap Event.departure? = []

theorem Event.Quiet.append {later earlier : List Event} (quietAfter : Quiet later)
    (quietBefore : Quiet earlier) : Quiet (later ++ earlier) := by
  unfold Quiet at *
  rw [List.filterMap_append, quietAfter, quietBefore, List.append_nil]

namespace State

/-- The departures in the journal, the latest first. -/
def departures (state : State) : List Departure :=
  state.journal.filterMap Event.departure?

/-- The state after further events, the latest first. -/
def reporting (state : State) (events : List Event) : State :=
  { state with journal := events ++ state.journal }

/-- The state after a change of one instance. -/
def changing (state : State) (number : Nat) (change : Instance → Instance) : State :=
  { state with instances := state.instances.modify number change }

/-- The state after an edit of the values of an instance. -/
def editing (state : State) (number : Nat) (edit : ValueMap → ValueMap) : State :=
  state.changing number fun inst => { inst with values := edit inst.values }

/-- The state in which the engine waits for nothing any more. -/
def detached (state : State) : State :=
  { state with
    dispatcher :=
      match state.held with
      | none => state.dispatcher
      | some number => state.dispatcher.modifyHandle number (·.unsubscribe .controller)
    held := none }

/-- The state in which the engine waits for a stage that was just dispatched. -/
def dispatched (state : State) (stage : String) (arguments : Option (List String)) : State :=
  { state with
    dispatcher :=
      { state.dispatcher with
        handles := state.dispatcher.handles ++
          [{ stage, arguments, listeners := [.controller] }]
        current := some state.dispatcher.handles.length }
    held := some state.dispatcher.handles.length
    journal :=
      state.dispatcher.backend.displayed (Dispatcher.stageLine stage arguments) ++
        .activated stage arguments :: state.journal }

/-- The state in which an instance was put aside. -/
def asided (state : State) (number : Nat) (inst : Instance) : State :=
  { state with
    suspended := some number :: state.suspended
    journal :=
      .holding number inst.name ::
        .suspended (some number) inst.label (state.suspended.length + 1) :: state.journal }

/-- The state in which a new instance is current. -/
def begun (state : State) (invocation : Invocation) : State :=
  { state with
    instances := state.instances ++ [Instance.ofInvocation invocation]
    current := some state.instances.length
    journal := .invoking state.instances.length invocation :: state.journal }

/-- The state in which what was put aside last is given up, and `rest` is left. -/
def abandoned (state : State) (number : Nat) (inst : Instance) (rest : List (Option Nat)) :
    State :=
  { state with
    suspended := rest
    journal :=
      .abandoned number inst.name :: .popped (some number) inst.label rest.length ::
        state.journal }

/-- The state in which what was put aside last is current again, and `rest` is left. -/
def recalled (state : State) (number : Nat) (inst : Instance) (rest : List (Option Nat)) :
    State :=
  { state with
    current := some number
    suspended := rest
    journal := .popped (some number) inst.label rest.length :: state.journal }

/-- The state in which nothing is current or displayed any more. -/
def rested (state : State) : State :=
  { state with
    current := none
    dispatcher := state.dispatcher.deactivate
    journal :=
      .idle :: (state.dispatcher.backend.displayed Dispatcher.clearedLine ++
        .deactivated :: state.journal) }

/-- The state in which an instance was put aside for a new one. -/
def diverted (state : State) (number : Nat) (inst : Instance) (invocation : Invocation) : State :=
  (state.detached.asided number inst).begun invocation

/-- The state in which an instance is one stage further and has the given values, after further
events. -/
def forwarded (state : State) (number : Nat) (values : ValueMap) (events : List Event) : State :=
  (state.changing number fun inst => { inst with values, stage := inst.stage + 1 }).reporting events

/-- An instance that is found after a change was there before. -/
theorem found_changing {state : State} {number other : Nat} {change : Instance → Instance}
    {inst : Instance} (found : (state.changing number change).instances[other]? = some inst) :
    ∃ before, state.instances[other]? = some before ∧
      inst = if number = other then change before else before := by
  simp only [changing, List.getElem?_modify, Functor.map, Option.map_eq_some_iff] at found
  obtain ⟨before, old, rfl⟩ := found
  refine ⟨before, old, ?_⟩
  split <;> rfl

/-- An instance that is found when another one has begun was there before, or is the new one. -/
theorem found_begun {state : State} {number : Nat} {invocation : Invocation} {inst : Instance}
    (found : (state.begun invocation).instances[number]? = some inst) :
    state.instances[number]? = some inst ∨
      number = state.instances.length ∧ inst = Instance.ofInvocation invocation := by
  simp only [begun, List.getElem?_append] at found
  split at found
  · exact .inl found
  · next late =>
    obtain ⟨inRange, same⟩ := List.getElem?_eq_some_iff.mp found
    simp only [List.length_cons, List.length_nil] at inRange
    refine .inr ⟨by omega, ?_⟩
    rw [← same]
    exact List.getElem_singleton inRange

end State

namespace Engine

variable {state : State} {number : Nat} {inst : Instance}

theorem note_eq_reporting (event : Event) (state : State) :
    note event state = .ok () (state.reporting [event]) := rfl

theorem display_apply (line : String) (state : State) :
    display line state =
      .ok () { state with
        journal := state.dispatcher.backend.displayed line ++ state.journal } := by
  simp only [display, bind_apply, get_apply]
  cases backend : state.dispatcher.backend <;> simp [Backend.displayed]

theorem detach_apply (state : State) : detach state = .ok () state.detached := by
  simp only [detach, bind_apply, get_apply]
  cases held : state.held with
  | none =>
      simp only [pure_apply, State.detached, held]
      cases state
      simp_all
  | some number => simp [bind_apply, modifyHandle, State.detached, held]

private theorem modify_concat {α : Type} (items : List α) (last : α) (change : α → α) :
    (items ++ [last]).modify items.length change = items ++ [change last] := by
  simp [List.modify_eq_take_drop]

/-- Dispatching a stage and waiting for it makes one handle with one subscription. -/
theorem activate_attach_apply (remembers : state.dispatcher.remembers = true) (stage : String)
    (arguments : Option (List String)) :
    (do activate stage arguments; attach : Engine Unit) state =
      .ok () (state.dispatched stage arguments) := by
  simp [activate, attach, bind_apply, display_apply, Dispatcher.activate, remembers, modifyHandle,
    Dispatcher.modifyHandle, State.dispatched, Handle.ofStage, Handle.subscribe, modify_concat]

/-- A stage that the dispatcher forgets at once cannot be waited for. -/
theorem activate_attach_forgotten (forgets : state.dispatcher.remembers = false) (stage : String)
    (arguments : Option (List String)) :
    (do activate stage arguments; attach : Engine Unit) state =
      .error .stageNotExposed { state with
        dispatcher := state.dispatcher.activate stage arguments
        journal := state.dispatcher.backend.displayed (Dispatcher.stageLine stage arguments) ++
          .activated stage arguments :: state.journal } := by
  simp [activate, attach, bind_apply, display_apply, Dispatcher.activate, forgets]

theorem startStage_apply {definition : Definition} {stage : Stage}
    (current : state.current = some number) (found : state.instances[number]? = some inst)
    (defined : Registry.get state.registry inst.name = .ok definition)
    (there : definition.stage? inst.stage = some stage)
    (remembers : state.dispatcher.remembers = true) :
    startStage state =
      match Token.resolveAll inst id "" stage.tokens with
      | .ok arguments => .ok () (state.dispatched stage.name arguments)
      | .error fault => .error (.value fault) state := by
  simp only [startStage, bind_apply, currentNumber_apply current, definitionOf_apply found, defined,
    lift_ok, instanceAt_apply found, stageOf, there, pure_apply]
  cases Token.resolveAll inst id "" stage.tokens with
  | error fault => simp
  | ok arguments =>
      simpa [bind_apply] using activate_attach_apply remembers stage.name arguments

theorem startStage_outOfRange {definition : Definition}
    (current : state.current = some number) (found : state.instances[number]? = some inst)
    (defined : Registry.get state.registry inst.name = .ok definition)
    (missing : definition.stage? inst.stage = none) :
    startStage state = .error .outOfRange state := by
  simp [startStage, bind_apply, currentNumber_apply current, definitionOf_apply found, defined,
    instanceAt_apply found, stageOf, missing]

/-- A forced invocation is let in whatever is current. -/
theorem requireIdle_force (state : State) : requireIdle true state = .ok () state := by
  cases current : state.current <;> simp [requireIdle, bind_apply, current]

/-- Starting a workflow gives up waiting, makes a new instance and dispatches its first stage. -/
theorem start_apply {invocation : Invocation} {definition : Definition}
    (defined : Registry.get state.registry invocation.name = .ok definition) :
    start invocation state =
      (do startStage; return state.instances.length : Engine Nat)
        (state.detached.begun invocation) := by
  simp only [start, bind_apply, get_apply, defined, lift_ok, detach_apply, addInstance_apply,
    modify_apply, note_apply]
  rfl

theorem push_apply (found : state.instances[number]? = some inst) :
    Suspension.push (some number) state =
      .ok () { state with
        suspended := some number :: state.suspended
        journal := .suspended (some number) inst.label (state.suspended.length + 1) ::
          state.journal } := by
  have label : labelOf (some number) { state with suspended := some number :: state.suspended } =
      .ok inst.label { state with suspended := some number :: state.suspended } :=
    labelOf_apply found
  simp [Suspension.push, bind_apply, label]

theorem hold_apply (current : state.current = some number)
    (found : state.instances[number]? = some inst) :
    hold state = .ok () (state.asided number inst) := by
  simp [hold, bind_apply, current, push_apply found, currentNumber, instanceAt, found,
    State.asided]

theorem pop_apply {rest : List (Option Nat)} (top : state.suspended = some number :: rest)
    (found : state.instances[number]? = some inst) :
    Suspension.pop state =
      .ok (some number) { state with
        suspended := rest
        journal := .popped (some number) inst.label rest.length :: state.journal } := by
  have label : labelOf (some number) { state with suspended := rest } =
      .ok inst.label { state with suspended := rest } := labelOf_apply found
  simp [Suspension.pop, bind_apply, map_apply, top, label]

theorem discard_apply {rest : List (Option Nat)} (top : state.suspended = some number :: rest)
    (found : state.instances[number]? = some inst) :
    Suspension.discard state = .ok (some number) (state.abandoned number inst rest) := by
  simp [Suspension.discard, bind_apply, map_apply, pop_apply top found, instanceAt, found,
    State.abandoned]

theorem deactivate_apply (state : State) :
    deactivate state =
      .ok () { state with
        dispatcher := state.dispatcher.deactivate
        journal := state.dispatcher.backend.displayed Dispatcher.clearedLine ++
          .deactivated :: state.journal } := by
  simp [deactivate, bind_apply, display_apply, Dispatcher.deactivate]

end Engine

end Workflow
