import Workflow.Proofs.Completion

/-!
# Sound states

Between two operations an engine is in a sound state: it is grounded, nothing is suspended twice,
and the handles of the dispatcher know what the engine waits for.  An operation first gives up
waiting, which leaves the engine poised.  Everything it does then leads from one poised state to the
next, until a stage is dispatched, nothing is left to run or something fails.
-/

namespace Workflow

/-- What the engine waits for is the stage that is shown, and it is the only subscriber. -/
structure Dispatcher.Wired (dispatcher : Dispatcher) (held : Option Nat) : Prop where
  listeners : ∀ (number : Nat) (handle : Handle Watcher),
    dispatcher.handles[number]? = some handle →
      handle.listeners = if held = some number then [.controller] else []
  shown_lt : ∀ number, dispatcher.current = some number → number < dispatcher.handles.length
  shown : ∀ number, held = some number → dispatcher.current = some number

namespace State

/-- The current instance is not among those that are suspended. -/
def Apart (state : State) : Prop :=
  ∀ number, state.current = some number → some number ∉ state.suspended

/-- What holds of a state between two operations, also after operations that failed. -/
structure Sound (state : State) : Prop extends state.Grounded where
  wired : state.dispatcher.Wired state.held
  runs_held : ∀ number, state.held = some number → state.current ≠ none
  apart_held : ∀ number, state.held = some number → state.Apart
  nodup : state.suspended.Nodup

/-- What holds of a state in the course of an operation. -/
structure Poised (state : State) : Prop extends state.Sound where
  released : state.held = none
  apart : state.Apart

end State

namespace Dispatcher.Wired

variable {dispatcher : Dispatcher} {held : Option Nat}

/-- The handles after a change that leaves the subscriptions of all handles as they were. -/
theorem modifyHandle (wired : dispatcher.Wired held) (number : Nat)
    {change : Handle Watcher → Handle Watcher}
    (keeps : ∀ handle, (change handle).listeners = handle.listeners) :
    (dispatcher.modifyHandle number change).Wired held where
  listeners := by
    intro other handle found
    simp only [Dispatcher.modifyHandle, List.getElem?_modify, Functor.map,
      Option.map_eq_some_iff] at found
    obtain ⟨before, old, rfl⟩ := found
    split
    · rw [keeps]
      exact wired.listeners other before old
    · exact wired.listeners other before old
  shown_lt := by
    intro other same
    simp only [Dispatcher.modifyHandle, List.length_modify]
    exact wired.shown_lt other same
  shown := wired.shown

theorem deactivate (wired : dispatcher.Wired none) : dispatcher.deactivate.Wired none where
  listeners := wired.listeners
  shown_lt := by
    intro number same
    cases same
  shown := by
    intro number same
    cases same

end Dispatcher.Wired

namespace State

variable {state : State}

/-- The dispatcher of a state in which the engine gave up waiting. -/
theorem wired_detached (wired : state.dispatcher.Wired state.held) :
    state.detached.dispatcher.Wired none := by
  cases held : state.held with
  | none =>
      rw [held] at wired
      simpa only [detached, held] using wired
  | some number =>
      simp only [detached, held]
      constructor
      · intro other handle found
        simp only [Dispatcher.modifyHandle, List.getElem?_modify, Functor.map,
          Option.map_eq_some_iff] at found
        obtain ⟨before, old, rfl⟩ := found
        have listening := wired.listeners other before old
        rw [held] at listening
        by_cases same : number = other
        · simp [same, Handle.unsubscribe, listening]
        · simp [same, listening]
      · intro other same
        simp only [Dispatcher.modifyHandle, List.length_modify]
        exact wired.shown_lt other same
      · intro other same
        cases same

theorem wired_dispatched (wired : state.dispatcher.Wired none) (stage : String)
    (arguments : Option (List String)) :
    (state.dispatched stage arguments).dispatcher.Wired
      (state.dispatched stage arguments).held where
  listeners := by
    intro number handle found
    simp only [dispatched, List.getElem?_append] at found ⊢
    split at found
    · next old =>
      have different : state.dispatcher.handles.length ≠ number := Nat.ne_of_gt old
      simpa [different] using wired.listeners number handle found
    · next late =>
      obtain ⟨inRange, same⟩ := List.getElem?_eq_some_iff.mp found
      simp only [List.length_cons, List.length_nil] at inRange
      have last : state.dispatcher.handles.length = number := by omega
      rw [← same]
      simp [last]
  shown_lt := by
    intro number same
    cases same
    simp [dispatched]
  shown := by
    intro number same
    exact same

namespace Sound

theorem reporting (sound : state.Sound) (events : List Event) : (state.reporting events).Sound :=
  { sound with }

theorem detached (sound : state.Sound) : state.detached.Sound where
  toGrounded := sound.toGrounded.detached
  wired := wired_detached sound.wired
  runs_held := by
    intro number same
    cases same
  apart_held := by
    intro number same
    cases same
  nodup := sound.nodup

theorem forwarded (sound : state.Sound) (number : Nat) (values : ValueMap) (events : List Event) :
    (state.forwarded number values events).Sound :=
  { sound with toGrounded := sound.toGrounded.forwarded number values events }

theorem asided (sound : state.Sound) (released : state.held = none) {number : Nat}
    {inst : Instance} (found : state.instances[number]? = some inst)
    (apart : some number ∉ state.suspended) : (state.asided number inst).Sound where
  toGrounded := sound.toGrounded.asided found
  wired := sound.wired
  runs_held := by
    intro number held
    cases released.symm.trans held
  apart_held := by
    intro number held
    cases released.symm.trans held
  nodup := List.nodup_cons.mpr ⟨apart, sound.nodup⟩

theorem begun (sound : state.Sound) (released : state.held = none) {invocation : Invocation}
    {definition : Definition}
    (defined : Registry.get state.registry invocation.name = .ok definition) :
    (state.begun invocation).Poised where
  toGrounded := sound.toGrounded.begun defined
  wired := sound.wired
  runs_held := by
    intro number held
    cases released.symm.trans held
  apart_held := by
    intro number held
    cases released.symm.trans held
  nodup := sound.nodup
  released := released
  apart := by
    intro number same member
    cases same
    obtain ⟨number, same, inRange⟩ := sound.suspended_lt _ member
    cases same
    exact Nat.lt_irrefl _ inRange

theorem diverted (sound : state.Sound) {number : Nat} {inst : Instance}
    (found : state.instances[number]? = some inst) (apart : some number ∉ state.suspended)
    {invocation : Invocation} {definition : Definition}
    (defined : Registry.get state.registry invocation.name = .ok definition) :
    (state.diverted number inst invocation).Poised :=
  (sound.detached.asided rfl found apart).begun rfl defined

end Sound

namespace Poised

theorem reporting (poised : state.Poised) (events : List Event) :
    (state.reporting events).Poised :=
  { poised with }

theorem forwarded (poised : state.Poised) (number : Nat) (values : ValueMap)
    (events : List Event) : (state.forwarded number values events).Poised :=
  { poised with toSound := poised.toSound.forwarded number values events }

theorem dispatched (poised : state.Poised) (current : state.current ≠ none) (stage : String)
    (arguments : Option (List String)) : (state.dispatched stage arguments).Sound where
  toGrounded := poised.toGrounded.dispatched stage arguments
  wired := wired_dispatched (poised.released ▸ poised.wired) stage arguments
  runs_held := by
    intro number held
    exact current
  apart_held := by
    intro number held
    exact poised.apart
  nodup := poised.nodup

theorem started (poised : state.Poised) {result : Option Failure × State}
    (started : state.Started result) : result.2.Sound := by
  cases started with
  | dispatched stands => exact poised.dispatched (by rw [stands.current]; exact nofun) _ _
  | failed => exact poised.toSound

theorem editing (poised : state.Poised) (number : Nat) (edit : ValueMap → ValueMap) :
    (state.editing number edit).Poised :=
  { poised with toGrounded := poised.toGrounded.editing number edit }

theorem exiting (poised : state.Poised) (number : Nat) (inst : Instance) :
    (state.exiting number inst).Poised :=
  { poised with toGrounded := poised.toGrounded.exiting number inst }

/-- What was put aside last may become current again. -/
theorem recalled (poised : state.Poised) {number : Nat} (inst : Instance)
    {rest : List (Option Nat)} (lastAside : state.suspended = some number :: rest) :
    (state.recalled number inst rest).Poised where
  toGrounded := poised.toGrounded.recalled inst lastAside
  wired := poised.wired
  runs_held := by
    intro other held
    cases poised.released.symm.trans held
  apart_held := by
    intro other held
    cases poised.released.symm.trans held
  nodup := (List.nodup_cons.mp (lastAside ▸ poised.nodup)).2
  released := poised.released
  apart := by
    intro other same
    cases same
    exact (List.nodup_cons.mp (lastAside ▸ poised.nodup)).1

theorem restored (poised : state.Poised) {number : Nat} (inst : Instance)
    {rest : List (Option Nat)} (lastAside : state.suspended = some number :: rest)
    (values : ValueMap) : (state.restored number inst rest values).Poised :=
  ((poised.recalled inst lastAside).editing number _).reporting _

theorem rested (poised : state.Poised) : state.rested.Sound where
  toGrounded :=
    { poised.toGrounded with
      current_lt := by
        intro number same
        cases same }
  wired := by
    have wired := poised.wired
    rw [poised.released] at wired
    simpa only [State.rested, poised.released] using wired.deactivate
  runs_held := by
    intro number held
    cases poised.released.symm.trans held
  apart_held := by
    intro number held
    cases poised.released.symm.trans held
  nodup := poised.nodup

end Poised

end State

namespace Engine

variable {host : Host} {state : State} {number : Nat} {inst : Instance} {definition : Definition}

theorem Conclusion.poised {answered : State}
    (conclusion : Conclusion state number inst definition answered)
    (found : state.instances[number]? = some inst) (poised : state.Poised) : answered.Poised := by
  have sublist : answered.suspended.Sublist state.suspended := by
    rcases conclusion.fewer with same | ⟨top, before⟩
    · exact same ▸ List.Sublist.refl answered.suspended
    · rw [before]
      exact List.sublist_cons_self _ _
  have released : answered.held = none := conclusion.held.trans poised.released
  exact {
    toGrounded := conclusion.grounded found poised.toGrounded
    wired := by
      rw [conclusion.dispatcher, conclusion.held]
      exact poised.wired
    runs_held := by
      intro other held
      cases released.symm.trans held
    apart_held := by
      intro other held
      cases released.symm.trans held
    nodup := poised.nodup.sublist sublist
    released
    apart := by
      intro other current member
      rw [conclusion.current] at current
      exact poised.apart other current (sublist.mem member) }

/-- Once the acceptor of the current instance has answered, the engine is still poised. -/
theorem Concluded.poised (contained : host.Contained) (poised : state.Poised) {answered : State}
    {contribution : Value}
    (concluded : Concluded host state number inst definition contribution answered) :
    answered.Poised :=
  (concluded.conclusion contained poised.toGrounded).poised concluded.found poised

section Round

variable {answered : State} {top : Nat} {resumed : Instance} {next : Definition}
  {contribution : Value} {rest : List (Option Nat)} {values : ValueMap}

/-- What was put aside last is current after a round, with the contribution in its values. -/
theorem runs_restored
    (restoring : Restoring answered contribution top resumed rest next values) :
    (answered.restored top resumed rest values).Runs top { resumed with values } next where
  current := rfl
  found := by
    simp [State.restored, State.recalled, State.editing, State.changing, State.reporting,
      restoring.found]
  defined := restoring.defined

/-- A round leads from one poised state to the next. -/
theorem poised_round (contained : host.Contained) (poised : state.Poised)
    (concluded : Concluded host state number inst definition contribution answered)
    (restoring : Restoring answered contribution top resumed rest next values) :
    (answered.restored top resumed rest values).Poised :=
  (concluded.poised contained poised).restored resumed restoring.lastAside values

theorem started_round (contained : host.Contained) (poised : state.Poised)
    (concluded : Concluded host state number inst definition contribution answered)
    (restoring : Restoring answered contribution top resumed rest next values) :
    (answered.restored top resumed rest values).Started
      (ending startStage (answered.restored top resumed rest values)) :=
  startStage_ending (poised_round contained poised concluded restoring).toGrounded
    (runs_restored restoring)

end Round

theorem Exit.sound (contained : host.Contained) {result : Option Failure × State}
    (exits : Exit host state result) (poised : state.Poised) : result.2.Sound := by
  induction exits with
  | @unanswered state number inst definition failure reached runs asked =>
      obtain ⟨edit, events, rfl⟩ := unanswered_reached contained poised.toGrounded runs asked
      exact (((poised.exiting number inst).editing number edit).reporting events).toSound
  | rested concluded empty => exact (concluded.poised contained poised).rested
  | unmerged concluded lastAside there merged =>
      have answered := concluded.poised contained poised
      exact ((answered.recalled _ lastAside).editing _ fun _ => _).toSound
  | continued concluded restoring past further ih =>
      exact ih (poised_round contained poised concluded restoring)
  | dispatched concluded restoring unfinished =>
      have restored := poised_round contained poised concluded restoring
      exact restored.started (started_round contained poised concluded restoring)

theorem sound_forwarded (poised : state.Poised) (current : state.current ≠ none) {reached : State}
    (forwarded : state.Forwarded number inst definition reached) :
    reached.Sound ∧ reached.Apart := by
  cases forwarded with
  | @last values events quiet past =>
      have forwarded := poised.forwarded number values events
      exact ⟨forwarded.toSound, forwarded.apart⟩
  | @dispatched values earlier later stage arguments quietBefore quietAfter there =>
      have forwarded := poised.forwarded number values earlier
      exact ⟨(forwarded.dispatched current _ _).reporting _, forwarded.apart⟩

/-- Whatever the completion of a stage comes to, the state is sound again. -/
theorem Completion.sound (contained : host.Contained) {result : Option Failure × State}
    (completion : Completion host state result) (poised : state.Poised) : result.2.Sound := by
  have present {number : Nat} {inst : Instance} {definition : Definition} {stage : Stage}
      (stands : state.AtStage number inst definition stage) : state.current ≠ none := by
    rw [stands.current]
    exact nofun
  cases completion with
  | unjudged quiet => exact (poised.reporting _).toSound
  | @unworded number inst definition stage failure events stands quiet =>
      exact (poised.reporting events).toSound.asided poised.released stands.found
        (poised.apart number stands.current)
  | @prompted number inst definition stage invocation events result stands quiet named started =>
      obtain ⟨cancel, known⟩ := poised.cancel_known
      rw [← named] at known
      have diverted := (poised.reporting events).toSound.diverted stands.found
        (poised.apart number stands.current) known
      exact diverted.started started
  | stuck stands quiet => exact (poised.forwarded _ _ _).toSound
  | misdirected stands forwarded =>
      exact (sound_forwarded poised (present stands) forwarded).1
  | @redirected number inst later definition target stage invocation events reached result stands
      forwarded found known quiet started =>
      obtain ⟨sound, apart⟩ := sound_forwarded poised (present stands) forwarded
      obtain ⟨values, runs⟩ := forwarded.runs stands.toRuns
      have diverted := (sound.reporting events).diverted found (apart number runs.current) known
      exact diverted.started started
  | carried stands forwarded unfinished =>
      exact (sound_forwarded poised (present stands) forwarded).1
  | ended stands quiet past exits => exact exits.sound contained (poised.forwarded _ _ _)

end Engine

end Workflow
