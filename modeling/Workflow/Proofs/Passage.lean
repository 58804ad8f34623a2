import Workflow.Engine.Performance
import Workflow.Proofs.Sound

/-!
# Passages

The operations that control an engine are refused by their own checks, which leaves the engine as
it was, or they take it from one sound state to another.  `Passage` lists how.
-/

namespace Workflow

/-- The operations that move an engine: the others only answer questions, or go past it. -/
def Operation.controls : Operation → Bool
  | .register _ | .invoke _ _ | .complete _ | .finish _ _ => true
  | _ => false

/-- The output with which an operation completes a stage. -/
def Operation.output? : Operation → Option Value
  | .complete output | .finish _ output => some output
  | _ => none

/-- Whether an operation completes a stage with something that is no output: it is no mapping, and
no mapping can be made of it. -/
def Operation.isUnreadable (operation : Operation) : Bool :=
  operation.output?.any fun output => !(Payload.ofOutput output).toBool

namespace State

/-- The check that no workflow is running, unless it may be replaced. -/
def free (state : State) (force : Bool) : Except Failure Unit :=
  match state.current with
  | none => .ok ()
  | some number =>
    if force then .ok ()
    else
      match state.instances[number]? with
      | some inst => .error (.active inst.label)
      | none => .error .noInstance

/-- The invocation that a source stands for, if it is well formed and no other workflow is in its
way. -/
def requested (state : State) (source : InvocationSource) (force : Bool) :
    Except Failure Invocation :=
  match source with
  | .text text => do
    state.free force
    (Invocation.parse text).mapError Failure.binding
  | .fields name arguments => do
    let invocation ← Engine.invocationOfFields name arguments
    state.free force
    return invocation

/-- The invocation that is started, if it is let in: its workflow has to be registered. -/
def admitted (state : State) (source : InvocationSource) (force : Bool) :
    Except Failure Invocation := do
  let invocation ← state.requested source force
  let _ ← Registry.get state.registry invocation.name
  return invocation

/-- The handle of a number, if it is there and not finished yet. -/
def open? (state : State) (number : Nat) : Except Failure Nat :=
  match state.dispatcher.handle? number with
  | none => .error .outOfRange
  | some handle => if handle.finished then .error (.alreadyFinished handle.stage) else .ok number

/-- The number of the handle that an operation completes. -/
def completed (state : State) : Operation → Except Failure Nat
  | .complete _ =>
    match state.dispatcher.current with
    | none => .error .nothingToComplete
    | some number => state.open? number
  | .finish position _ =>
    match Position.offset? state.dispatcher.handles.length position with
    | none => .error .outOfRange
    | some number => state.open? number
  | _ => .error .badCall

/-- Why an operation is refused by its own checks, if it is. -/
def refusal? (state : State) (operation : Operation) : Option Failure :=
  match operation with
  | .invoke source force =>
    match state.admitted source force with
    | .ok _ => none
    | .error failure => some failure
  | .complete _ | .finish _ _ =>
    match state.completed operation with
    | .ok _ => none
    | .error failure => some failure
  | _ => none

/-- The state in which a handle is finished. -/
def finishing (state : State) (number : Nat) : State :=
  { state with
    dispatcher := state.dispatcher.modifyHandle number fun handle =>
      { handle with finished := true } }

/-- The state with another registry, after further events. -/
def registering (state : State) (registry : Registry) (stamp : Nat) (events : List Event) : State :=
  { state with registry, stamp, journal := events ++ state.journal }

end State

/-- How an operation takes an engine from one state to another. -/
inductive Engine.Passage (host : Host) (state : State) : Operation → Option Failure × State → Prop
    where
  | refused {operation : Operation} {failure : Failure}
      (refusal : state.refusal? operation = some failure) :
      Passage host state operation (some failure, state)
  | registered {request : RegistrationRequest} {failure? : Option Failure} {registry : Registry}
      {stamp : Nat} {events : List Event} (quiet : Event.Quiet events)
      (kept : failure? ≠ none ∧ registry = state.registry ∨ ∃ definition,
        registry = Entries.put state.registry request.name definition) :
      Passage host state (.register request) (failure?, state.registering registry stamp events)
  | invoked {source : InvocationSource} {force : Bool} {invocation : Invocation} {reached : State}
      (admitted : state.admitted source force = .ok invocation)
      (started : (state.detached.begun invocation).Started (none, reached)) :
      Passage host state (.invoke source force)
        (none, reached.reporting [.returned state.instances.length])
  /-- The first stage of an invoked workflow cannot be dispatched. -/
  | stranded {source : InvocationSource} {force : Bool} {invocation : Invocation}
      {failure : Failure} (admitted : state.admitted source force = .ok invocation) :
      Passage host state (.invoke source force) (some failure, state.detached.begun invocation)
  /-- Nobody waits for a stage that is completed, or its output is none at all. -/
  | unheard {operation : Operation} {number : Nat} {failure? : Option Failure}
      (completed : state.completed operation = .ok number)
      (unheld : failure? = none → state.held ≠ some number)
      (unread : state.held = some number → operation.isUnreadable = true) :
      Passage host state operation (failure?, state.finishing number)
  | completed {operation : Operation} {number : Nat} {result : Option Failure × State}
      (completed : state.completed operation = .ok number) (held : state.held = some number)
      (completion : Completion host (state.finishing number).detached result)
      (told : ∃ output payload, operation.output? = some output ∧
        Payload.ofOutput output = .ok payload ∧
          result = ending (stageFinished host payload) (state.finishing number)) :
      Passage host state operation result

namespace Engine

variable {host : Host} {state : State}

theorem requireIdle_apply (numbered : state.Numbered) (force : Bool) :
    requireIdle force state =
      match state.free force with
      | .ok () => .ok () state
      | .error failure => .error failure state := by
  cases current : state.current with
  | none => simp [requireIdle, bind_apply, current, State.free]
  | some number =>
      obtain ⟨inst, found⟩ := numbered.found_current current
      cases force with
      | true => simp [requireIdle, bind_apply, current, State.free]
      | false =>
          simp [requireIdle, bind_apply, current, State.free, found, instanceAt_apply found]

theorem start_unknown {invocation : Invocation} {failure : Failure}
    (missing : Registry.get state.registry invocation.name = .error failure) :
    start invocation state = .error failure state := by
  simp only [start, bind_apply, get_apply, missing, lift_error]

theorem invokeSource_eq (numbered : state.Numbered) (source : InvocationSource) (force : Bool) :
    invokeSource source force state =
      match state.requested source force with
      | .error failure => .error failure state
      | .ok invocation => start invocation state := by
  cases source with
  | text text =>
      simp only [invokeSource, invokeText, bind_apply, requireIdle_apply numbered, State.requested]
      cases state.free force with
      | error failure => rfl
      | ok free => cases (Invocation.parse text).mapError Failure.binding <;> rfl
  | fields name arguments =>
      simp only [invokeSource, invoke, bind_apply, State.requested]
      cases invocationOfFields name arguments with
      | error failure => rfl
      | ok invocation =>
          simp only [lift_ok, requireIdle_apply numbered]
          cases state.free force <;> rfl

/-- Starting a workflow does nothing unless it is let in. -/
theorem invokeSource_apply (numbered : state.Numbered) (source : InvocationSource)
    (force : Bool) :
    invokeSource source force state =
      match state.admitted source force with
      | .error failure => .error failure state
      | .ok invocation =>
        (do startStage; return state.instances.length : Engine Nat)
          (state.detached.begun invocation) := by
  rw [invokeSource_eq numbered, State.admitted]
  cases state.requested source force with
  | error failure => rfl
  | ok invocation =>
      simp only [bind, Except.bind]
      cases known : Registry.get state.registry invocation.name with
      | error failure => exact start_unknown known
      | ok definition => exact start_apply known

theorem known_of_admitted {source : InvocationSource} {force : Bool} {invocation : Invocation}
    (admitted : state.admitted source force = .ok invocation) :
    ∃ definition, Registry.get state.registry invocation.name = .ok definition := by
  simp only [State.admitted, bind, Except.bind] at admitted
  cases requested : state.requested source force with
  | error failure => simp [requested] at admitted
  | ok other =>
      cases known : Registry.get state.registry other.name with
      | error failure => simp [requested, known] at admitted
      | ok definition =>
          simp only [requested, known, pure, Except.pure, Except.ok.injEq] at admitted
          exact ⟨definition, admitted ▸ known⟩

theorem invoke_passage (sound : state.Sound) (source : InvocationSource) (force : Bool) :
    Passage host state (.invoke source force)
      (ending (perform host (.invoke source force)) state) := by
  simp only [ending, perform, bind_apply, invokeSource_apply sound.toNumbered]
  cases admitted : state.admitted source force with
  | error failure => exact .refused (by simp [State.refusal?, admitted])
  | ok invocation =>
      obtain ⟨definition, known⟩ := known_of_admitted admitted
      have began := (sound.detached.begun rfl known).toGrounded
      obtain ⟨inst, definition, runs⟩ := began.runs rfl
      have started := startStage_ending began runs
      simp only
      rw [ending] at started
      generalize startStage (state.detached.begun invocation) = result at started ⊢
      cases result with
      | error failure reached =>
          cases started with
          | failed => exact .stranded admitted
      | ok answer reached =>
          have found : (reached.reporting [.returned state.instances.length]).instances[
              state.instances.length]? = some inst := by
            cases started with
            | dispatched stands => exact runs.found
          simp only [note_eq_reporting, pure_apply, instanceAt_apply found]
          exact .invoked admitted started

theorem open?_cases (state : State) (number : Nat) :
    (∃ failure, state.open? number = .error failure ∧
        ∀ host output, finishHandle host number output state = .error failure state) ∨
      ∃ handle, state.open? number = .ok number ∧
        state.dispatcher.handles[number]? = some handle ∧ handle.finished = false := by
  cases found : state.dispatcher.handle? number with
  | none =>
      refine .inl ⟨.outOfRange, by simp [State.open?, found], ?_⟩
      intro host output
      simp only [finishHandle, bind_apply, get_apply, found, throw_apply]
  | some handle =>
      cases finished : handle.finished with
      | true =>
          refine .inl ⟨.alreadyFinished handle.stage, by simp [State.open?, found, finished], ?_⟩
          intro host output
          have refused := (Handle.finish?_eq_none_iff handle).mpr finished
          simp only [finishHandle, bind_apply, get_apply, found, refused, throw_apply]
      | false => exact .inr ⟨handle, by simp [State.open?, found, finished], found, finished⟩

/-- Finishing a handle that is known is finishing whatever handle is there. -/
theorem modify_finished {handles : List (Handle Watcher)} {number : Nat} {handle : Handle Watcher}
    (found : handles[number]? = some handle) :
    handles.modify number (fun _ => { handle with finished := true }) =
      handles.modify number fun handle => { handle with finished := true } := by
  apply List.ext_getElem?
  intro other
  simp only [List.getElem?_modify]
  by_cases here : number = other
  · simp [← here, found]
  · simp [here]

/-- A handle that is completed is finished before its subscribers are told. -/
theorem finishHandle_ending {number : Nat} {handle : Handle Watcher}
    (found : state.dispatcher.handles[number]? = some handle) (unfinished : handle.finished = false)
    (output : Value) :
    ending (finishHandle host number output) state =
      match Payload.ofOutput output with
      | .error fault => (some (.value fault), state.finishing number)
      | .ok payload =>
        ending (Handle.deliver (fun _ payload => stageFinished host payload) handle.listeners
          payload) (state.finishing number) := by
  have same := modify_finished found
  have present : state.dispatcher.handle? number = some handle := found
  cases output : Payload.ofOutput output with
  | error fault =>
      simp only [ending, finishHandle, bind_apply, get_apply, present, Handle.finish?, unfinished,
        Bool.false_eq_true, ↓reduceIte, Engine.modifyHandle, Dispatcher.modifyHandle, modify_apply,
        same, output]
      rfl
  | ok payload =>
      have delivered := ending_bind_pure (Handle.deliver (fun _ payload =>
        stageFinished host payload) handle.listeners payload) (fun _ => ()) (state.finishing number)
      simp only [ending, bind_apply] at delivered
      simp only [ending, finishHandle, bind_apply, get_apply, present, Handle.finish?, unfinished,
        Bool.false_eq_true, ↓reduceIte, Engine.modifyHandle, Dispatcher.modifyHandle, modify_apply,
        same, output, mapError_ok, lift_ok]
      exact delivered

theorem grounded_finishing (grounded : state.Grounded) (number : Nat) :
    (state.finishing number).Grounded :=
  { grounded with }

/-- The output of the handle that the engine waits for is told to the engine, and to nobody else. -/
theorem finishHandle_held (sound : state.Sound) {number : Nat} {handle : Handle Watcher}
    (found : state.dispatcher.handles[number]? = some handle) (unfinished : handle.finished = false)
    (held : state.held = some number) {output : Value} {payload : Payload}
    (read : Payload.ofOutput output = .ok payload) :
    ending (finishHandle host number output) state =
      ending (stageFinished host payload) (state.finishing number) := by
  have listeners := sound.wired.listeners number handle found
  rw [if_pos held] at listeners
  have delivered : Handle.deliver (fun _ payload => stageFinished host payload)
      [Watcher.controller] payload = stageFinished host payload := by
    simp only [Handle.deliver, bind_pure]
  rw [finishHandle_ending found unfinished, read, listeners]
  simp only [delivered]

theorem finishHandle_passage (contained : host.Contained) (sound : state.Sound)
    {operation : Operation} {number : Nat} {handle : Handle Watcher}
    (completed : state.completed operation = .ok number)
    (found : state.dispatcher.handles[number]? = some handle) (unfinished : handle.finished = false)
    {output : Value} (given : operation.output? = some output) :
    Passage host state operation (ending (finishHandle host number output) state) := by
  cases read : Payload.ofOutput output with
  | error fault =>
      have unreadable : operation.isUnreadable = true := by
        simp [Operation.isUnreadable, given, read, Except.toBool]
      rw [finishHandle_ending found unfinished, read]
      exact .unheard completed nofun fun _ => unreadable
  | ok payload =>
      by_cases held : state.held = some number
      · rw [finishHandle_held sound found unfinished held read]
        obtain ⟨current, running⟩ := Option.ne_none_iff_exists'.mp (sound.runs_held number held)
        have completion := stageFinished_completion contained
          (grounded_finishing sound.toGrounded number) running payload
        exact .completed completed held completion ⟨output, payload, given, read, rfl⟩
      · have listeners := sound.wired.listeners number handle found
        rw [if_neg held] at listeners
        rw [finishHandle_ending found unfinished, read, listeners]
        exact .unheard completed (fun _ => held) fun also => absurd also held

/-- What performing an operation comes to that completes a stage with an output: it is refused, or
it finishes an open handle. -/
inductive Completing (host : Host) (state : State) (operation : Operation) (output : Value) : Prop
  | refused {failure : Failure} (completed : state.completed operation = .error failure)
      (ends : ending (perform host operation) state = (some failure, state))
  | finished {number : Nat} {handle : Handle Watcher}
      (completed : state.completed operation = .ok number)
      (found : state.dispatcher.handles[number]? = some handle)
      (unfinished : handle.finished = false)
      (ends : ending (perform host operation) state =
        ending (finishHandle host number output) state)

theorem completing_open {operation : Operation} {output : Value} {number : Nat}
    (completed : state.completed operation = state.open? number)
    (ends : ending (perform host operation) state =
      ending (finishHandle host number output) state) :
    Completing host state operation output := by
  rcases open?_cases state number with
    ⟨failure, closed, refused⟩ | ⟨handle, opened, found, unfinished⟩
  · refine .refused (completed.trans closed) ?_
    rw [ends, ending, refused]
  · exact .finished (completed.trans opened) found unfinished ends

/-- Operations that complete a stage differ only in how they find its handle. -/
theorem perform_completing {operation : Operation} {output : Value}
    (given : operation.output? = some output) : Completing host state operation output := by
  cases operation with
  | complete output =>
      cases given
      have same : ending (perform host (.complete output)) state =
          ending (complete host output) state :=
        ending_bind_pure (complete host output) (fun _ => Answer.done) state
      cases shown : state.dispatcher.current with
      | none =>
          have closed : state.completed (.complete output) = .error .nothingToComplete := by
            simp only [State.completed, shown]
          refine .refused closed ?_
          rw [same]
          simp only [ending, complete, bind_apply, get_apply, shown, throw_apply]
      | some number =>
          have opens : state.completed (.complete output) = state.open? number := by
            simp only [State.completed, shown]
          refine completing_open opens ?_
          rw [same]
          simp only [ending, complete, bind_apply, get_apply, shown]
  | finish position output =>
      cases given
      have same : ending (perform host (.finish position output)) state =
          ending (finishAt host position output) state :=
        ending_bind_pure (finishAt host position output) (fun _ => Answer.done) state
      cases there : Position.offset? state.dispatcher.handles.length position with
      | none =>
          have closed : state.completed (.finish position output) = .error .outOfRange := by
            simp only [State.completed, there]
          refine .refused closed ?_
          rw [same]
          simp only [ending, finishAt, bind_apply, get_apply, there, throw_apply]
      | some number =>
          have opens : state.completed (.finish position output) = state.open? number := by
            simp only [State.completed, there]
          refine completing_open opens ?_
          rw [same]
          simp only [ending, finishAt, bind_apply, get_apply, there]
  | _ => cases given

theorem completing_passage (contained : host.Contained) (sound : state.Sound)
    {operation : Operation} {output : Value} (given : operation.output? = some output) :
    Passage host state operation (ending (perform host operation) state) := by
  cases perform_completing given with
  | refused completed ends =>
      rw [ends]
      apply Passage.refused
      cases operation with
      | complete output => simp only [State.refusal?, completed]
      | finish position output => simp only [State.refusal?, completed]
      | _ => cases given
  | finished completed found unfinished ends =>
      rw [ends]
      exact finishHandle_passage contained sound completed found unfinished given

/-- A step that does not change anything but the registry, where it writes no more than one name. -/
def Registers {α : Type} (name : String) (step : Engine α) : Prop :=
  ∀ state, ∃ registry stamp events, Event.Quiet events ∧
    ((ending step state).1 ≠ none ∧ registry = state.registry ∨ ∃ definition,
      registry = Entries.put state.registry name definition) ∧
    (ending step state).2 = state.registering registry stamp events

/-- A step that does not change anything but the stamp of the next hook. -/
def Stamps {α : Type} (step : Engine α) : Prop :=
  ∀ state, ∃ stamp, (ending step state).2 = { state with stamp }

theorem stamps_pure {α : Type} (answer : α) : Stamps (pure answer : Engine α) := by
  intro state
  exact ⟨state.stamp, rfl⟩

theorem stamps_lift {α : Type} (answer : Except Failure α) : Stamps (lift answer) := by
  intro state
  cases answer <;> exact ⟨state.stamp, rfl⟩

/-- What follows a step that changes nothing but the stamp starts where the step did, or the step
failed there. -/
theorem Stamps.ending_bind {α β : Type} {step : Engine α} (stamps : Stamps step)
    (next : α → Engine β) (state : State) :
    (∃ failure stamp, ending (step >>= next) state = (some failure, { state with stamp })) ∨
      ∃ answer stamp, ending (step >>= next) state = ending (next answer) { state with stamp } := by
  obtain ⟨stamp, stamped⟩ := stamps state
  simp only [ending, bind_apply] at stamped ⊢
  cases reached : step state with
  | error failure after =>
      rw [reached] at stamped
      exact .inl ⟨failure, stamp, congrArg (some failure, ·) stamped⟩
  | ok answer after =>
      rw [reached] at stamped
      simp only at stamped
      subst stamped
      exact .inr ⟨answer, stamp, rfl⟩

theorem Stamps.bind {α β : Type} {step : Engine α} {next : α → Engine β} (stamps : Stamps step)
    (further : ∀ answer, Stamps (next answer)) : Stamps (step >>= next) := by
  intro state
  rcases stamps.ending_bind next state with ⟨failure, stamp, ends⟩ | ⟨answer, stamp, ends⟩
  · exact ⟨stamp, by rw [ends]⟩
  · obtain ⟨later, again⟩ := further answer { state with stamp }
    exact ⟨later, by rw [ends, again]⟩

theorem Stamps.registers {α β : Type} {name : String} {step : Engine α} {next : α → Engine β}
    (stamps : Stamps step) (further : ∀ answer, Registers name (next answer)) :
    Registers name (step >>= next) := by
  intro state
  rcases stamps.ending_bind next state with ⟨failure, stamp, ends⟩ | ⟨answer, stamp, ends⟩
  · rw [ends]
    exact ⟨state.registry, stamp, [], rfl, .inl ⟨Option.some_ne_none _, rfl⟩, rfl⟩
  · obtain ⟨registry, later, events, quiet, kept, registered⟩ :=
      further answer { state with stamp }
    rw [ends]
    exact ⟨registry, later, events, quiet, kept, registered⟩

theorem stamps_hookOf (host : Host) (source : HookSource) : Stamps (hookOf host source) := by
  cases source with
  | default => exact stamps_pure none
  | path path => exact (stamps_lift _).bind fun hook => stamps_pure (some hook)
  | custom program role name =>
      intro state
      exact ⟨state.stamp + 1, rfl⟩

theorem stamps_hooksOf (host : Host) (sources : List HookSource) :
    Stamps (hooksOf host sources) := by
  induction sources with
  | nil => exact stamps_pure []
  | cons source rest ih =>
      exact (stamps_hookOf host source).bind fun hook => ih.bind fun hooks => stamps_pure _

theorem name_define {registration : Registration} {definition : Definition}
    (defined : Registry.define registration = .ok definition) :
    definition.name = registration.name := by
  simp only [Registry.define] at defined
  split at defined
  · cases defined
  · split at defined
    · cases defined
    · split at defined
      · cases defined
      · cases defined
        rfl

theorem register_map (registry : Registry) (registration : Registration) :
    registry.register registration = (Registry.define registration).map fun definition =>
      (Entries.put registry definition.name definition, definition) := by
  simp only [Registry.register]
  cases Registry.define registration <;> rfl

theorem registers_register (registration : Registration) :
    Registers registration.name (register registration) := by
  intro state
  by_cases named : registration.name = ""
  · have refused : Registry.define registration = .error .emptyName := by
      simp [Registry.define, named]
    have same : ending (register registration) state =
        (some (.configuration .emptyName), state) := by
      simp [ending, register, bind_apply, named, register_map, refused, Except.map]
    rw [same]
    exact ⟨state.registry, state.stamp, [], rfl, .inl ⟨Option.some_ne_none _, rfl⟩, rfl⟩
  · cases defined : Registry.define registration with
    | error fault =>
        have same : ending (register registration) state =
            (some (.configuration fault), state.reporting
              [.planParsed registration.plan (Plan.parse registration.plan).names]) := by
          simp [ending, register, bind_apply, named, register_map, defined, Except.map,
            State.reporting]
        rw [same]
        exact ⟨state.registry, state.stamp,
          [.planParsed registration.plan (Plan.parse registration.plan).names], rfl,
          .inl ⟨Option.some_ne_none _, rfl⟩, rfl⟩
    | ok definition =>
        have same := name_define defined
        let replaced : List Event :=
          if Entries.has state.registry definition.name then [.replacing definition.name] else []
        refine ⟨Entries.put state.registry definition.name definition, state.stamp,
          .registered definition.name definition.stageNames :: replaced ++
            [.planParsed registration.plan (Plan.parse registration.plan).names], ?_,
          .inr ⟨definition, by rw [same]⟩, ?_⟩
        · cases replacing : Entries.has state.registry definition.name <;>
            simp [replaced, replacing, Event.Quiet, Event.departure?]
        · cases replacing : Entries.has state.registry definition.name <;>
            simp [ending, register, bind_apply, map_apply, named, register_map, defined, Except.map,
              State.registering, replaced, replacing]

theorem registers_registerRequested (host : Host) (request : RegistrationRequest) :
    Registers request.name (registerRequested host request) :=
  (stamps_hookOf host _).registers fun acceptor =>
    (stamps_hookOf host _).registers fun redirector =>
      (stamps_hooksOf host _).registers fun validators =>
        registers_register ⟨request.name, request.plan, acceptor, redirector, validators⟩

theorem register_passage (request : RegistrationRequest) :
    Passage host state (.register request) (ending (perform host (.register request)) state) := by
  have same : ending (perform host (.register request)) state =
      ending (registerRequested host request) state :=
    ending_bind_pure (registerRequested host request) Answer.definition state
  obtain ⟨registry, stamp, events, quiet, kept, registered⟩ :=
    registers_registerRequested host request state
  have result : ending (registerRequested host request) state =
      ((ending (registerRequested host request) state).1,
        state.registering registry stamp events) := Prod.ext rfl registered
  rw [same, result]
  exact .registered quiet kept

/-- An operation that controls an engine has no other outcomes than `Passage` lists. -/
theorem perform_passage (contained : host.Contained) (sound : state.Sound) {operation : Operation}
    (controls : operation.controls = true) :
    Passage host state operation (ending (perform host operation) state) := by
  cases operation with
  | register request => exact register_passage request
  | invoke source force => exact invoke_passage sound source force
  | complete output => exact completing_passage contained sound rfl
  | finish position output => exact completing_passage contained sound rfl
  | _ => cases controls

theorem output_of_completed {operation : Operation} {number : Nat}
    (completed : state.completed operation = .ok number) :
    operation.output?.isSome = true ∧ state.refusal? operation = none := by
  cases operation with
  | complete output => exact ⟨rfl, by simp only [State.refusal?, completed]⟩
  | finish position output => exact ⟨rfl, by simp only [State.refusal?, completed]⟩
  | _ => cases completed

theorem Passage.of_refusal {operation : Operation} {failure : Failure}
    {result : Option Failure × State} (passage : Passage host state operation result)
    (refusal : state.refusal? operation = some failure) : result = (some failure, state) := by
  cases passage with
  | refused also =>
      rw [also] at refusal
      cases refusal
      rfl
  | registered quiet kept => cases refusal
  | invoked admitted started => simp [State.refusal?, admitted] at refusal
  | stranded admitted => simp [State.refusal?, admitted] at refusal
  | unheard completed unheld =>
      rw [(output_of_completed completed).2] at refusal
      cases refusal
  | completed completed held completion =>
      rw [(output_of_completed completed).2] at refusal
      cases refusal

theorem sound_registering (sound : state.Sound) {registry : Registry} {name : String}
    (kept : registry = state.registry ∨ ∃ definition,
      registry = Entries.put state.registry name definition) (stamp : Nat) (events : List Event) :
    (state.registering registry stamp events).Sound := by
  have retained (known : String)
      (defined : ∃ definition, Registry.get state.registry known = .ok definition) :
      ∃ definition, Registry.get registry known = .ok definition := by
    rcases kept with rfl | ⟨definition, rfl⟩
    · exact defined
    · by_cases same : name = known
      · subst same
        exact ⟨definition, by simp [Registry.get]⟩
      · simpa [Registry.get, Entries.lookup_put_of_ne _ _ same] using defined
  exact {
    sound with
    known := by
      intro number inst found
      exact retained inst.name (sound.known number inst found)
    cancel_known := retained _ sound.cancel_known }

theorem sound_finishing (sound : state.Sound) (number : Nat) : (state.finishing number).Sound :=
  { sound with
    toGrounded := grounded_finishing sound.toGrounded number
    wired := sound.wired.modifyHandle number fun _ => rfl }

/-- Once the engine gave up waiting for the stage that is completed, it is poised. -/
theorem poised_finishing (sound : state.Sound) {number : Nat} (held : state.held = some number) :
    (state.finishing number).detached.Poised :=
  { (sound_finishing sound number).detached with
    released := rfl
    apart := sound.apart_held number held }

/-- Every operation that controls an engine leaves it in a sound state. -/
theorem Passage.sound (contained : host.Contained) {operation : Operation}
    {result : Option Failure × State} (passage : Passage host state operation result)
    (sound : state.Sound) : result.2.Sound := by
  cases passage with
  | refused refusal => exact sound
  | registered quiet kept => exact sound_registering sound (kept.imp_left And.right) _ _
  | @invoked source force invocation reached admitted started =>
      obtain ⟨definition, known⟩ := known_of_admitted admitted
      exact ((sound.detached.begun rfl known).started started).reporting _
  | stranded admitted =>
      obtain ⟨definition, known⟩ := known_of_admitted admitted
      exact (sound.detached.begun rfl known).toSound
  | unheard completed unheld => exact sound_finishing sound _
  | completed completed held completion =>
      exact completion.sound contained (poised_finishing sound held)

end Engine

end Workflow
