import Workflow.Proofs.Stack

/-!
# Well-formed states

As long as no operation fails in the middle, an engine is either idle or waits for the stage at
which its current instance stands.  Everything that is suspended can be resumed: it is running, and
its definition has not become shorter than the way that it came.
-/

namespace Workflow

/-- The name that an operation registers. -/
def Operation.registers? : Operation → Option String
  | .register request => some request.name
  | _ => none

namespace State

/-- Nothing runs, nothing is suspended and nothing is shown. -/
structure Idle (state : State) : Prop where
  current : state.current = none
  suspended : state.suspended = []
  held : state.held = none
  shown : state.dispatcher.current = none

/-- The engine waits for the stage at which the current instance stands: its handle is the one that
is shown, it is not finished, and the engine is its only subscriber. -/
structure Waits (state : State) (number : Nat) (inst : Instance) (definition : Definition)
    (stage : Stage) (place : Nat) (handle : Handle Watcher) : Prop
    extends state.AtStage number inst definition stage where
  running : inst.state = .running
  counted : 0 ≤ inst.stage
  unfinished : inst.stage < definition.stageCount
  held : state.held = some place
  shown : state.dispatcher.current = some place
  dispatched : state.dispatcher.handles[place]? = some handle
  incomplete : handle.finished = false
  named : handle.stage = stage.name
  subscribed : handle.listeners = [.controller]

/-- An instance runs, and the engine waits for its stage. -/
def Active (state : State) : Prop :=
  ∃ number inst definition stage place handle,
    state.Waits number inst definition stage place handle

/-- An instance could go on: it is running, and its stage is one of its definition or the end. -/
def Pending (state : State) (number : Nat) : Prop :=
  ∃ inst definition, state.instances[number]? = some inst ∧ inst.state = .running ∧
    Registry.get state.registry inst.name = .ok definition ∧ inst.stage ≤ definition.stageCount

/-- Whatever is suspended could go on. -/
def Resumable (state : State) : Prop :=
  ∀ number, some number ∈ state.suspended → state.Pending number

/-- What holds of a state as long as no operation failed in the middle. -/
structure WellFormed (state : State) : Prop extends state.Sound where
  resumable : state.Resumable
  standing : state.Idle ∨ state.Active

/-- The instances that are current or suspended. -/
def inProgress (state : State) : List Nat :=
  state.current.toList ++ state.suspended.filterMap id

/-- No instance that is in progress bears the name. -/
def Spares (state : State) (name : String) : Prop :=
  ∀ number ∈ state.inProgress, ∀ inst ∈ state.instances[number]?, inst.name ≠ name

instance (state : State) (name : String) : Decidable (state.Spares name) :=
  inferInstanceAs
    (Decidable (∀ number ∈ state.inProgress, ∀ inst ∈ state.instances[number]?, inst.name ≠ name))

variable {state before after : State} {number : Nat} {inst : Instance} {definition : Definition}
  {stage : Stage}

theorem mem_inProgress : number ∈ state.inProgress ↔
    state.current = some number ∨ some number ∈ state.suspended := by
  simp [inProgress]

theorem inProgress_of_current (current : state.current = some number) :
    state.inProgress = number :: state.suspended.filterMap id := by
  rw [inProgress, current]
  rfl

theorem Pending.transfer (pending : before.Pending number)
    (same : after.instances[number]? = before.instances[number]?)
    (registry : after.registry = before.registry) : after.Pending number := by
  obtain ⟨inst, definition, found, running, defined, counted⟩ := pending
  refine ⟨inst, definition, ?_, running, ?_, counted⟩
  · rw [same]
    exact found
  · rw [registry]
    exact defined

theorem Resumable.unwound (resumable : before.Resumable) (unwound : before.Unwound after)
    (registry : after.registry = before.registry) : after.Resumable := by
  intro number member
  exact (resumable number (unwound.sublist.mem member)).transfer (unwound.kept number member)
    registry

/-- What was put aside for a new instance can be resumed later on. -/
theorem Resumable.diverted (grounded : state.Grounded) (resumable : state.Resumable)
    (current : state.current = some number) (pending : state.Pending number) (inst : Instance)
    (invocation : Invocation) : (state.diverted number inst invocation).Resumable := by
  intro other member
  rcases List.mem_cons.mp member with same | earlier
  · cases same
    exact pending.transfer
      (Engine.found_diverted state number inst invocation (grounded.current_lt number current)) rfl
  · obtain ⟨same, equal, inRange⟩ := grounded.suspended_lt _ earlier
    cases equal
    exact (resumable other earlier).transfer
      (Engine.found_diverted state number inst invocation inRange) rfl

/-- Where the stage of a running instance is dispatched, the engine waits for it. -/
theorem waits_dispatched (stands : state.AtStage number inst definition stage)
    (running : inst.state = .running) (counted : 0 ≤ inst.stage)
    (arguments : Option (List String)) :
    (state.dispatched stage.name arguments).Waits number inst definition stage
      state.dispatcher.handles.length
      { stage := stage.name, arguments, listeners := [.controller] } where
  current := stands.current
  found := stands.found
  defined := stands.defined
  there := stands.there
  running := running
  counted := counted
  unfinished := Definition.lt_stageCount counted stands.there
  held := rfl
  shown := rfl
  dispatched := List.getElem?_concat_length
  incomplete := rfl
  named := rfl
  subscribed := rfl

/-- The instance of a number is current and running under this name at this position, and its stage
is on display, under a handle to which the engine alone listens. -/
def Shows (state : State) (number : Nat) (name : String) (position : Int)
    (definition : Definition) (stage : Stage) (place : Nat) : Prop :=
  (state.current = some number ∧ state.held = some place ∧
    state.dispatcher.current = some place) ∧
  state.instances[number]?.map (fun inst => (inst.name, inst.stage, inst.state)) =
    some (name, position, .running) ∧
  ((Registry.get state.registry name).toOption = some definition ∧ 0 ≤ position ∧
    definition.stage? position = some stage) ∧
  state.dispatcher.handles[place]?.map
    (fun handle => (handle.stage, handle.finished, handle.listeners)) =
      some (stage.name, false, [.controller])

instance {name : String} {position : Int} {place : Nat} :
    Decidable (state.Shows number name position definition stage place) :=
  inferInstanceAs (Decidable (_ ∧ _))

/-- That an engine waits for a stage can be seen from what it shows of itself. -/
theorem Shows.waits {name : String} {position : Int} {place : Nat}
    (shows : state.Shows number name position definition stage place) :
    ∃ inst handle, state.Waits number inst definition stage place handle ∧
      inst.stage = position := by
  obtain ⟨⟨current, held, shown⟩, standing, ⟨known, counted, there⟩, opened⟩ := shows
  obtain ⟨inst, found, stands⟩ := Option.map_eq_some_iff.mp standing
  obtain ⟨handle, dispatched, open'⟩ := Option.map_eq_some_iff.mp opened
  simp only [Prod.mk.injEq] at stands open'
  obtain ⟨rfl, rfl, running⟩ := stands
  obtain ⟨named, incomplete, subscribed⟩ := open'
  refine ⟨inst, handle, ?_, rfl⟩
  exact {
    current, found, there, running, counted, held, shown, dispatched, incomplete, named, subscribed
    defined := eq_ok_of_toOption known
    unfinished := Definition.lt_stageCount counted there }

theorem active_dispatched (stands : state.AtStage number inst definition stage)
    (running : inst.state = .running) (counted : 0 ≤ inst.stage)
    (arguments : Option (List String)) : (state.dispatched stage.name arguments).Active :=
  ⟨number, inst, definition, stage, _, _, waits_dispatched stands running counted arguments⟩

theorem Active.reporting (active : state.Active) (events : List Event) :
    (state.reporting events).Active := by
  obtain ⟨number, inst, definition, stage, place, handle, waits⟩ := active
  exact ⟨number, inst, definition, stage, place, handle,
    { waits with
      current := waits.current
      found := waits.found
      defined := waits.defined
      there := waits.there }⟩

theorem WellFormed.reporting (wellFormed : state.WellFormed) (events : List Event) :
    (state.reporting events).WellFormed where
  toSound := wellFormed.toSound.reporting events
  resumable := wellFormed.resumable
  standing := by
    rcases wellFormed.standing with idle | active
    · exact .inl ⟨idle.current, idle.suspended, idle.held, idle.shown⟩
    · exact .inr (active.reporting events)

theorem found_begun_current {state : State} {invocation : Invocation} {inst : Instance}
    (found : (state.begun invocation).instances[state.instances.length]? = some inst) :
    inst = Instance.ofInvocation invocation := by
  rcases found_begun found with old | ⟨-, new⟩
  · exact absurd (List.getElem?_eq_some_iff.mp old).1 (Nat.lt_irrefl _)
  · exact new

/-- Where the first stage of a new instance is dispatched, the engine waits for it. -/
theorem active_begun {invocation : Invocation} {reached : State}
    (started : (state.begun invocation).Started (none, reached)) :
    reached.Active ∧ reached.registry = state.registry := by
  cases started with
  | @dispatched number inst definition stage arguments stands =>
      have current : some state.instances.length = some number := stands.current
      cases current
      have new := found_begun_current stands.found
      subst new
      exact ⟨active_dispatched stands rfl (Int.le_refl 0) arguments, rfl⟩

end State

namespace Engine

variable {host : Host} {state : State} {number : Nat} {inst : Instance} {definition : Definition}

theorem started_registry {result : Option Failure × State} (started : state.Started result) :
    result.2.registry = state.registry := by
  cases started <;> rfl

theorem Exit.registry (contained : host.Contained) {result : Option Failure × State}
    (exits : Exit host state result) (poised : state.Poised) :
    result.2.registry = state.registry := by
  induction exits with
  | @unanswered state number inst definition failure reached runs asked =>
      obtain ⟨edit, events, rfl⟩ := unanswered_reached contained poised.toGrounded runs asked
      rfl
  | rested concluded empty => exact (concluded.conclusion contained poised.toGrounded).registry
  | unmerged concluded lastAside there merged =>
      exact (concluded.conclusion contained poised.toGrounded).registry
  | continued concluded restoring past further ih =>
      have conclusion := concluded.conclusion contained poised.toGrounded
      exact (ih (poised_round contained poised concluded restoring)).trans conclusion.registry
  | dispatched concluded restoring unfinished =>
      have conclusion := concluded.conclusion contained poised.toGrounded
      exact (started_registry (started_round contained poised concluded restoring)).trans
        conclusion.registry

/-- An exit that leaves nothing current leaves the engine idle. -/
theorem Exit.idle (contained : host.Contained) {result : Option Failure × State}
    (exits : Exit host state result) (poised : state.Poised) (returned : result.1 = none)
    (nothing : result.2.current = none) : result.2.Idle := by
  induction exits with
  | unanswered runs asked => cases returned
  | rested concluded empty =>
      have conclusion := concluded.conclusion contained poised.toGrounded
      exact ⟨rfl, empty, conclusion.held.trans poised.released, rfl⟩
  | unmerged concluded lastAside there merged => cases returned
  | continued concluded restoring past further ih =>
      exact ih (poised_round contained poised concluded restoring) returned nothing
  | @dispatched state answered number top inst resumed definition next contribution rest values
      concluded restoring unfinished =>
      have started := started_round contained poised concluded restoring
      generalize ending startStage (answered.restored top resumed rest values) = result
        at started returned nothing
      cases started with
      | failed => cases returned
      | dispatched stands => cases nothing

theorem Resumed.active {after : State} (resumed : Resumed host state number inst after)
    (running : inst.state = .running) (counted : 0 ≤ inst.stage) : after.Active := by
  obtain ⟨asking, answered, last, finishing, definition, contribution, rest, next, values, stage,
    arguments, -, concluded, restoring, there, rfl, found⟩ := resumed
  have stands : (answered.restored number inst rest values).AtStage number { inst with values }
      next stage := ⟨⟨rfl, found, restoring.defined⟩, there⟩
  exact State.active_dispatched stands running counted arguments

/-- An exit that comes to its end leaves the engine idle or waiting for what it resumed. -/
theorem Exit.standing (contained : host.Contained) {result : Option Failure × State}
    (exits : Exit host state result) (poised : state.Poised) (resumable : state.Resumable)
    (returned : result.1 = none) : result.2.Idle ∨ result.2.Active := by
  cases current : result.2.current with
  | none => exact .inl (exits.idle contained poised returned current)
  | some number =>
      obtain ⟨inst, member, found, resumed⟩ := exits.resumed contained poised returned current
      obtain ⟨pending, definition, also, running, defined, counted⟩ := resumable number member
      rw [found] at also
      cases also
      exact .inr (Resumed.active resumed running (poised.counted number inst found))

theorem pending_forwarded (stands : state.AtStage number inst definition stage)
    (counted : 0 ≤ inst.stage) (running : inst.state = .running) {reached : State}
    (forwarded : state.Forwarded number inst definition reached) :
    reached.Pending number ∧ reached.registry = state.registry := by
  obtain ⟨values, runs⟩ := forwarded.runs stands.toRuns
  have registry : reached.registry = state.registry := by
    cases forwarded <;> rfl
  have before := Definition.lt_stageCount counted stands.there
  exact ⟨⟨_, definition, runs.found, running, runs.defined, before⟩, registry⟩

/-- Where an instance was put aside and the stage of a new one is dispatched, all is well. -/
theorem diverted_standing (grounded : state.Grounded) (resumable : state.Resumable)
    (current : state.current = some number) (pending : state.Pending number)
    {invocation : Invocation} {reached : State}
    (started : (state.diverted number inst invocation).Started (none, reached)) :
    reached.Resumable ∧ (reached.Idle ∨ reached.Active) := by
  constructor
  · have diverted := resumable.diverted grounded current pending inst invocation
    obtain ⟨suspended, instances⟩ := started_keeps started
    intro other member
    rw [suspended] at member
    exact (diverted other member).transfer (by rw [instances]) (started_registry started)
  · exact .inr (State.active_begun started).1

theorem exit_standing (contained : host.Contained) {result : Option Failure × State}
    (exits : Exit host state result) (poised : state.Poised) (resumable : state.Resumable)
    (returned : result.1 = none) :
    result.2.Resumable ∧ (result.2.Idle ∨ result.2.Active) :=
  ⟨resumable.unwound (exits.unwound contained poised) (exits.registry contained poised),
    exits.standing contained poised resumable returned⟩

/-- The completion of a stage that comes to its end leaves a well-formed state. -/
theorem Completion.standing (contained : host.Contained) {result : Option Failure × State}
    (completion : Completion host state result) (poised : state.Poised)
    (resumable : state.Resumable)
    (running : ∀ number inst, state.current = some number →
      state.instances[number]? = some inst → inst.state = .running)
    (returned : result.1 = none) :
    result.2.Resumable ∧ (result.2.Idle ∨ result.2.Active) := by
  obtain ⟨failure?, after⟩ := result
  cases returned
  cases completion with
  | @prompted number inst definition stage invocation events result stands quiet named started =>
      have counted := poised.counted number inst stands.found
      have pending : (state.reporting events).Pending number :=
        ⟨inst, definition, stands.found, running number inst stands.current stands.found,
          stands.defined, Int.le_of_lt (Definition.lt_stageCount counted stands.there)⟩
      exact diverted_standing (poised.toGrounded.reporting events) resumable stands.current pending
        started
  | @redirected number inst later definition target stage invocation events reached result stands
      forwarded found known quiet started =>
      have counted := poised.counted number inst stands.found
      have goesOn := running number inst stands.current stands.found
      obtain ⟨pending, registry⟩ := pending_forwarded stands counted goesOn forwarded
      have moved := (unwound_of_forwarded (poised.apart _ stands.current) forwarded).2
      obtain ⟨values, runs⟩ := forwarded.runs stands.toRuns
      have grounded := (forwarded.grounded poised.toGrounded).reporting events
      have aside : reached.Resumable := resumable.unwound moved registry
      exact diverted_standing grounded aside runs.current pending started
  | @carried number inst definition stage reached stands forwarded unfinished =>
      have goesOn := running number inst stands.current stands.found
      have counted := poised.counted number inst stands.found
      have registry := (pending_forwarded stands counted goesOn forwarded).2
      have moved := (unwound_of_forwarded (poised.apart _ stands.current) forwarded).2
      refine ⟨resumable.unwound moved registry, .inr ?_⟩
      cases forwarded with
      | last quiet past => cases unfinished.symm.trans past
      | @dispatched values earlier later next arguments quietBefore quietAfter there =>
          have standsNext : (state.forwarded number values earlier).AtStage number
              { inst with values, stage := inst.stage + 1 } definition next :=
            ⟨stands.toRuns.forwarded values earlier, there⟩
          have active := State.active_dispatched standsNext goesOn
            (Int.add_nonneg counted (by decide)) arguments
          exact active.reporting later
  | @ended number inst definition stage values events result stands quiet past exits =>
      have forwarded := State.unwound_forwarded (poised.apart number stands.current) values events
      exact exit_standing contained exits (poised.forwarded _ _ _)
        (resumable.unwound forwarded rfl) rfl

theorem get_registering {registry altered : Registry} {name other : String}
    (kept : altered = registry ∨ ∃ definition, altered = Entries.put registry name definition)
    (different : other ≠ name) : Registry.get altered other = Registry.get registry other := by
  rcases kept with rfl | ⟨definition, rfl⟩
  · rfl
  · rw [Registry.get, Registry.get, Entries.lookup_put_of_ne _ _ different.symm]

/-- Registering a name that is spared makes no difference to what is in progress. -/
theorem wellFormed_registering (wellFormed : state.WellFormed) {registry : Registry}
    {name : String} (kept : registry = state.registry ∨ ∃ definition,
      registry = Entries.put state.registry name definition)
    (spares : state.Spares name) (stamp : Nat) (events : List Event) :
    (state.registering registry stamp events).WellFormed where
  toSound := sound_registering wellFormed.toSound kept stamp events
  resumable := by
    intro number member
    obtain ⟨inst, definition, found, running, defined, counted⟩ :=
      wellFormed.resumable number member
    refine ⟨inst, definition, found, running, ?_, counted⟩
    rw [← defined]
    exact get_registering kept (spares number (State.mem_inProgress.mpr (.inr member)) inst found)
  standing := by
    rcases wellFormed.standing with idle | active
    · exact .inl ⟨idle.current, idle.suspended, idle.held, idle.shown⟩
    · obtain ⟨number, inst, definition, stage, place, handle, waits⟩ := active
      refine .inr ⟨number, inst, definition, stage, place, handle, { waits with
        current := waits.current
        found := waits.found
        defined := ?_
        there := waits.there }⟩
      rw [← waits.defined]
      exact get_registering kept (spares number (State.mem_inProgress.mpr (.inl waits.current)) inst
        waits.found)

/-- Finishing a handle for which nobody waits makes no difference to what is in progress. -/
theorem wellFormed_finishing (wellFormed : state.WellFormed) {number : Nat}
    (unheld : state.held ≠ some number) : (state.finishing number).WellFormed where
  toSound := sound_finishing wellFormed.toSound number
  resumable := wellFormed.resumable
  standing := by
    rcases wellFormed.standing with idle | active
    · exact .inl ⟨idle.current, idle.suspended, idle.held, idle.shown⟩
    · obtain ⟨current, inst, definition, stage, place, handle, waits⟩ := active
      have other : number ≠ place := by
        rintro rfl
        exact unheld waits.held
      refine .inr ⟨current, inst, definition, stage, place, handle, { waits with
        current := waits.current
        found := waits.found
        defined := waits.defined
        there := waits.there
        dispatched := ?_ }⟩
      simpa [State.finishing, Dispatcher.modifyHandle, other] using waits.dispatched

/-- What is current in a well-formed state is running. -/
theorem running_current (wellFormed : state.WellFormed) {number : Nat} {inst : Instance}
    (current : state.current = some number) (found : state.instances[number]? = some inst) :
    inst.state = .running := by
  rcases wellFormed.standing with idle | active
  · cases idle.current.symm.trans current
  · obtain ⟨other, same, definition, stage, place, handle, waits⟩ := active
    cases waits.current.symm.trans current
    cases waits.found.symm.trans found
    exact waits.running

/-- An invocation that is let in leaves a well-formed state if its first stage is dispatched. -/
theorem wellFormed_started (wellFormed : state.WellFormed) {source : InvocationSource}
    {force : Bool} {invocation : Invocation} {reached : State}
    (admitted : state.admitted source force = .ok invocation)
    (started : (state.detached.begun invocation).Started (none, reached)) :
    reached.WellFormed := by
  obtain ⟨definition, known⟩ := known_of_admitted admitted
  obtain ⟨active, registry⟩ := State.active_begun started
  obtain ⟨suspended, instances⟩ := started_keeps started
  have began := wellFormed.resumable.unwound
    (unwound_begun wellFormed.toNumbered invocation) rfl
  have sound := (wellFormed.toSound.detached.begun rfl known).started started
  refine ⟨sound, ?_, .inr active⟩
  intro number member
  have aside : some number ∈ (state.detached.begun invocation).suspended := suspended ▸ member
  exact (began number aside).transfer (congrArg (·[number]?) instances) registry

theorem Passage.wellFormed_of_returned (contained : host.Contained) {operation : Operation}
    {reached : State} (passage : Passage host state operation (none, reached))
    (wellFormed : state.WellFormed)
    (spares : ∀ name ∈ operation.registers?, state.Spares name) :
    reached.WellFormed := by
  have sound := passage.sound contained wellFormed.toSound
  cases passage with
  | @registered request failure? registry stamp events quiet kept =>
      have spared := spares request.name rfl
      exact wellFormed_registering wellFormed (kept.imp_left And.right) spared _ _
  | invoked admitted started => exact (wellFormed_started wellFormed admitted started).reporting _
  | unheard completed unheld => exact wellFormed_finishing wellFormed (unheld rfl)
  | @completed operation number result completed held completion =>
      obtain ⟨resumable, standing⟩ := completion.standing contained
        (poised_finishing wellFormed.toSound held) wellFormed.resumable
        (fun _ _ => running_current wellFormed) rfl
      exact ⟨sound, resumable, standing⟩

theorem Passage.wellFormed_of_register {request : RegistrationRequest}
    {result : Option Failure × State} (passage : Passage host state (.register request) result)
    (wellFormed : state.WellFormed) (spares : state.Spares request.name) :
    result.2.WellFormed := by
  cases passage with
  | refused refusal => exact wellFormed
  | registered quiet kept =>
      exact wellFormed_registering wellFormed (kept.imp_left And.right) spares _ _
  | unheard completed unheld => cases completed
  | completed completed held completion => cases completed

end Engine

/-- An operation that controls the engine and returned, or was refused by its own checks; or a
registration, which may fail as it likes, of a name that nothing in progress bears. -/
structure Taken.Orderly (taken : Taken Operation Failure State Answer) : Prop where
  controls : taken.command.controls = true
  spares : ∀ name ∈ taken.command.registers?, taken.before.Spares name
  ended : taken.outcome.isOk = true ∨
    (taken.before.refusal? taken.command).isSome = true ∨
      taken.command.registers?.isSome = true

instance (taken : Taken Operation Failure State Answer) : Decidable taken.Orderly :=
  decidable_of_iff
    (taken.command.controls = true ∧ (∀ name ∈ taken.command.registers?, taken.before.Spares name) ∧
      (taken.outcome.isOk = true ∨ (taken.before.refusal? taken.command).isSome = true ∨
        taken.command.registers?.isSome = true))
    ⟨fun ⟨controls, spares, ended⟩ => ⟨controls, spares, ended⟩,
      fun orderly => ⟨orderly.controls, orderly.spares, orderly.ended⟩⟩

namespace Engine

variable {host : Host} {state : State}

theorem take_wellFormed (contained : host.Contained) (wellFormed : state.WellFormed)
    {operation : Operation} (orderly : (Trace.take (perform host) state operation).Orderly) :
    (Trace.take (perform host) state operation).after.WellFormed := by
  have controls : operation.controls = true := orderly.controls
  have passage := take_passage contained wellFormed.toSound controls
  rcases orderly.ended with returned | refused | registers
  · rw [(outcome_take operation).mpr returned] at passage
    exact passage.wellFormed_of_returned contained wellFormed orderly.spares
  · obtain ⟨failure, refusal⟩ := Option.isSome_iff_exists.mp refused
    have same : (Trace.take (perform host) state operation).after = state :=
      congrArg Prod.snd (passage.of_refusal refusal)
    rw [same]
    exact wellFormed
  · cases operation with
    | register request =>
        exact passage.wellFormed_of_register wellFormed (orderly.spares request.name rfl)
    | _ => cases registers

theorem wellFormed_final (contained : host.Contained) (wellFormed : state.WellFormed)
    {operations : List Operation}
    (orderly : ∀ taken ∈ Trace.run (perform host) state operations, taken.Orderly) :
    (Trace.final (perform host) state operations).WellFormed := by
  induction operations generalizing state with
  | nil => exact wellFormed
  | cons operation rest ih =>
      have first := take_wellFormed contained wellFormed (orderly _ List.mem_cons_self)
      apply ih first
      intro taken member
      exact orderly taken (List.mem_cons_of_mem _ member)

theorem wellFormed_freshlyBuilt (fresh : state.FreshlyBuilt) : state.WellFormed where
  toSound := fresh.sound
  resumable := by
    intro number member
    obtain ⟨-, empty, -⟩ := fresh.idle
    rw [empty] at member
    cases member
  standing := by
    obtain ⟨current, suspended, held, shown⟩ := fresh.idle
    exact .inl ⟨current, suspended, held, shown⟩

/-- After operations of which each returned or was refused by its own checks, an engine is idle, or
it waits for the stage at which its current instance stands. -/
theorem wellFormed_of_orderly (contained : host.Contained) {start : State}
    (fresh : start.FreshlyBuilt) {operations : List Operation}
    (orderly : ∀ taken ∈ Trace.run (perform host) start operations, taken.Orderly) :
    (Trace.final (perform host) start operations).WellFormed :=
  wellFormed_final contained (wellFormed_freshlyBuilt fresh) orderly

/-- The engine waits for the visit for which the trip was put aside. -/
theorem wellFormed_detour :
    (∀ taken ∈ Trace.run (perform Detour.host) Detour.start Detour.operations, taken.Orderly) ∧
      Detour.visiting.current = some 1 ∧ Detour.visiting.WellFormed := by
  have orderly : ∀ taken ∈ Trace.run (perform Detour.host) Detour.start Detour.operations,
      taken.Orderly := by decide +kernel
  exact ⟨orderly, by decide +kernel, wellFormed_of_orderly Detour.contained Detour.built orderly⟩

end Engine

end Workflow
