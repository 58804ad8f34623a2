import Workflow.Proofs.Reachable

/-!
# Whom an engine listens to

An engine is subscribed to the stage that it waits for, once, and to no other stage that was ever
dispatched, whatever became of the operations before.  Stages that were superseded, replaced or left
behind are of no consequence any more: whoever completes one of them marks it as finished, and
nothing else happens.
-/

namespace Workflow

/-- A stage was completed in one of the operations with something that is no output. -/
def Engine.Spoilt (history : List (Taken Operation Failure State Answer)) (number : Nat) : Prop :=
  ∃ taken ∈ history, taken.before.completed taken.command = .ok number ∧
    taken.command.isUnreadable = true

namespace State

/-- The stage that the engine waits for, if it waits for one, is not completed yet. -/
def Expectant (state : State) : Prop :=
  ∀ (number : Nat) (handle : Handle Watcher), state.held = some number →
    state.dispatcher.handles[number]? = some handle → handle.finished = false

/-- The engine listens to the stage that it waits for and to no other.  That stage is the one that
is shown, an instance is current, and nothing but an operation that was to complete it with
something that is no output can have finished it. -/
structure Listens (history : List (Taken Operation Failure State Answer)) (state : State) : Prop
    where
  subscribed : ∀ (number : Nat) (handle : Handle Watcher),
    state.dispatcher.handles[number]? = some handle →
      handle.listeners.count .controller = if state.held = some number then 1 else 0
  shown : ∀ number, state.held = some number → state.dispatcher.current = some number
  runs : ∀ number, state.held = some number → state.current ≠ none
  awaited : ∀ number, state.held = some number →
    ∃ handle, state.dispatcher.handles[number]? = some handle ∧
      (handle.finished = true → Engine.Spoilt history number)

/-- The number of the handle that an operation is to complete. -/
def aimed? (state : State) : Operation → Option Nat
  | .complete _ => state.dispatcher.current
  | .finish position _ => Position.offset? state.dispatcher.handles.length position
  | _ => none

/-- An operation that completes a stage for which the engine does not wait. -/
def Stale (state : State) (operation : Operation) : Prop :=
  ∃ number ∈ state.aimed? operation, state.held ≠ some number

instance (state : State) (operation : Operation) : Decidable (state.Stale operation) :=
  inferInstanceAs (Decidable (∃ number ∈ state.aimed? operation, state.held ≠ some number))

/-- The state in which handles are finished. -/
def finishingAll (state : State) (numbers : List Nat) : State :=
  numbers.foldl finishing state

variable {state : State}

theorem expectant_of_released (released : state.held = none) : state.Expectant := by
  intro number handle held
  cases released.symm.trans held

/-- A stage that was just dispatched is not completed yet. -/
theorem expectant_dispatched (state : State) (stage : String) (arguments : Option (List String)) :
    (state.dispatched stage arguments).Expectant := by
  intro number handle held found
  cases held
  simp only [dispatched, List.getElem?_concat_length, Option.some.injEq] at found
  rw [← found]

theorem Started.expectant (released : state.held = none) {result : Option Failure × State}
    (started : state.Started result) : result.2.Expectant := by
  cases started with
  | dispatched stands => exact expectant_dispatched state _ _
  | failed => exact expectant_of_released released

theorem Forwarded.expectant (released : state.held = none) {number : Nat} {inst : Instance}
    {definition : Definition} {reached : State}
    (forwarded : state.Forwarded number inst definition reached) : reached.Expectant := by
  cases forwarded with
  | last quiet past => exact expectant_of_released released
  | dispatched quietBefore quietAfter there => exact expectant_dispatched _ _ _

end State

namespace Engine

variable {host : Host} {state : State}

theorem Exit.expectant (contained : host.Contained) {result : Option Failure × State}
    (exits : Exit host state result) (poised : state.Poised) : result.2.Expectant := by
  induction exits with
  | unanswered runs asked =>
      obtain ⟨edit, events, rfl⟩ := unanswered_reached contained poised.toGrounded runs asked
      exact State.expectant_of_released poised.released
  | rested concluded empty =>
      exact State.expectant_of_released (concluded.poised contained poised).released
  | unmerged concluded lastAside there merged =>
      exact State.expectant_of_released (concluded.poised contained poised).released
  | continued concluded restoring past further ih =>
      exact ih (poised_round contained poised concluded restoring)
  | dispatched concluded restoring unfinished =>
      have started := started_round contained poised concluded restoring
      exact started.expectant (poised_round contained poised concluded restoring).released

/-- Whatever the completion of a stage comes to, no completed stage is waited for. -/
theorem Completion.expectant (contained : host.Contained) {result : Option Failure × State}
    (completion : Completion host state result) (poised : state.Poised) : result.2.Expectant := by
  cases completion with
  | unjudged quiet => exact State.expectant_of_released poised.released
  | unworded stands quiet => exact State.expectant_of_released poised.released
  | prompted stands quiet named started => exact started.expectant rfl
  | stuck stands quiet => exact State.expectant_of_released poised.released
  | misdirected stands forwarded => exact forwarded.expectant poised.released
  | redirected stands forwarded found known quiet started => exact started.expectant rfl
  | carried stands forwarded unfinished => exact forwarded.expectant poised.released
  | ended stands quiet past exits => exact exits.expectant contained (poised.forwarded _ _ _)

/-- An operation leaves nothing behind that is waited for and completed, unless this was so before
or the operation gave something that is no output. -/
theorem Passage.awaited (contained : host.Contained) {operation : Operation}
    {result : Option Failure × State} (passage : Passage host state operation result)
    (sound : state.Sound) {number : Nat} {handle : Handle Watcher}
    (held : result.2.held = some number)
    (found : result.2.dispatcher.handles[number]? = some handle)
    (finished : handle.finished = true) :
    (state.completed operation = .ok number ∧ operation.isUnreadable = true) ∨
      state.held = some number ∧
        ∃ before, state.dispatcher.handles[number]? = some before ∧ before.finished = true := by
  have refuted (expectant : result.2.Expectant) : False := by
    cases finished.symm.trans (expectant number handle held found)
  cases passage with
  | refused refusal => exact .inr ⟨held, handle, found, finished⟩
  | registered quiet kept => exact .inr ⟨held, handle, found, finished⟩
  | invoked admitted started =>
      exact (refuted (started.expectant rfl)).elim
  | stranded admitted => cases held
  | @unheard operation closed failure? completed unheld unread =>
      by_cases same : closed = number
      · subst same
        exact .inl ⟨completed, unread held⟩
      · refine .inr ⟨held, handle, ?_, finished⟩
        simpa [State.finishing, Dispatcher.modifyHandle, same] using found
  | completed completed waited completion =>
      exact (refuted (completion.expectant contained (poised_finishing sound waited))).elim

theorem listens_take (contained : host.Contained) (sound : state.Sound)
    {history : List (Taken Operation Failure State Answer)} (listens : state.Listens history)
    {operation : Operation} (controls : operation.controls = true) :
    let taken := Trace.take (perform host) state operation
    taken.after.Listens (history ++ [taken]) := by
  intro taken
  have passage : Passage host state operation (_, taken.after) :=
    take_passage contained sound controls
  have reached : taken.after.Sound := passage.sound contained sound
  constructor
  · intro number handle found
    rw [reached.wired.listeners number handle found]
    split <;> rfl
  · exact reached.wired.shown
  · exact reached.runs_held
  · intro number held
    have inRange := reached.wired.shown_lt number (reached.wired.shown number held)
    refine ⟨_, List.getElem?_eq_getElem inRange, ?_⟩
    intro finished
    rcases passage.awaited contained sound held (List.getElem?_eq_getElem inRange) finished with
      ⟨completed, unreadable⟩ | ⟨waited, before, found, already⟩
    · exact ⟨taken, List.mem_append_right _ List.mem_cons_self, completed, unreadable⟩
    · obtain ⟨handle, same, spoilt⟩ := listens.awaited number waited
      cases same.symm.trans found
      obtain ⟨earlier, member, facts⟩ := spoilt already
      exact ⟨earlier, List.mem_append_left _ member, facts⟩

theorem listens_final (contained : host.Contained) (sound : state.Sound)
    {history : List (Taken Operation Failure State Answer)} (listens : state.Listens history)
    {operations : List Operation}
    (controls : ∀ operation ∈ operations, operation.controls = true) :
    (Trace.final (perform host) state operations).Listens
      (history ++ Trace.run (perform host) state operations) := by
  induction operations generalizing state history with
  | nil =>
      simp only [Trace.run, List.append_nil]
      exact listens
  | cons operation rest ih =>
      have control := controls operation List.mem_cons_self
      have first := listens_take contained sound listens control
      have passage := take_passage contained sound control
      have further := ih (passage.sound contained sound) first fun later member =>
        controls later (List.mem_cons_of_mem _ member)
      rw [List.append_assoc] at further
      exact further

theorem listens_freshlyBuilt (fresh : state.FreshlyBuilt) : state.Listens [] := by
  obtain ⟨registry, settings, backend, stamp, definition, events, quiet, rfl⟩ := fresh.registered
  exact ⟨nofun, nofun, nofun, nofun⟩

/-- Finishing a handle that is finished already, or was never there, changes nothing. -/
theorem finishing_of_closed {number : Nat} {failure : Failure}
    (closed : state.open? number = .error failure) : state.finishing number = state := by
  have same : state.dispatcher.handles.modify number (fun handle =>
      { handle with finished := true }) = state.dispatcher.handles := by
    apply List.ext_getElem?
    intro other
    simp only [List.getElem?_modify, Functor.map]
    cases found : state.dispatcher.handles[other]? with
    | none => rfl
    | some handle =>
        by_cases here : number = other
        · subst here
          have present : state.dispatcher.handle? number = some handle := found
          cases finished : handle.finished with
          | true => simp [← finished]
          | false => simp [State.open?, present, finished] at closed
        · simp [here]
  simp only [State.finishing, Dispatcher.modifyHandle, same]

theorem open?_eq_ok {number other : Nat} (opened : state.open? number = .ok other) :
    other = number := by
  simp only [State.open?] at opened
  split at opened
  · cases opened
  · split at opened
    · cases opened
    · cases opened
      rfl

theorem completed_aimed {operation : Operation} {number : Nat}
    (aimed : state.aimed? operation = some number) :
    state.completed operation = state.open? number ∧
      ∃ output, operation.output? = some output := by
  cases operation with
  | complete output =>
      have shown : state.dispatcher.current = some number := aimed
      exact ⟨by simp only [State.completed, shown], output, rfl⟩
  | finish position output =>
      have there : Position.offset? state.dispatcher.handles.length position = some number := aimed
      exact ⟨by simp only [State.completed, there], output, rfl⟩
  | _ => cases aimed

/-- Completing a stage for which the engine does not wait marks it as finished, and that is all. -/
theorem take_stale (host : Host) (wired : state.dispatcher.Wired state.held)
    {operation : Operation} {number : Nat} (aimed : state.aimed? operation = some number)
    (unheld : state.held ≠ some number) :
    (Trace.take (perform host) state operation).after = state.finishing number := by
  obtain ⟨opens, output, given⟩ := completed_aimed aimed
  have completing : Completing host state operation output := perform_completing given
  rw [after_take]
  cases completing with
  | refused completed ends =>
      rw [ends, finishing_of_closed (opens.symm.trans completed)]
  | finished completed found unfinished ends =>
      cases open?_eq_ok (opens.symm.trans completed)
      have unsubscribed := wired.listeners number _ found
      rw [if_neg unheld] at unsubscribed
      rw [ends, finishHandle_ending found unfinished, unsubscribed]
      cases Payload.ofOutput output <;> rfl

/-- Completing stages for which the engine does not wait marks them as finished, in any order. -/
theorem final_stale (host : Host) (wired : state.dispatcher.Wired state.held)
    {late : List Operation} (stale : ∀ operation ∈ late, state.Stale operation) :
    Trace.final (perform host) state late = state.finishingAll (late.filterMap state.aimed?) := by
  induction late generalizing state with
  | nil => rfl
  | cons operation rest ih =>
      obtain ⟨number, member, unheld⟩ := stale operation List.mem_cons_self
      have aimed : state.aimed? operation = some number := member
      have after := take_stale host wired aimed unheld
      -- What is shown and how many handles there are does not change, so the others stay stale.
      have unmoved : (state.finishing number).aimed? = state.aimed? := by
        funext other
        cases other <;>
          simp only [State.aimed?, State.finishing, Dispatcher.modifyHandle, List.length_modify]
      have others : ∀ other ∈ rest, (state.finishing number).Stale other := by
        intro other member
        simp only [State.Stale, unmoved]
        exact stale other (List.mem_cons_of_mem _ member)
      have wiredAfter : (state.finishing number).dispatcher.Wired (state.finishing number).held :=
        wired.modifyHandle number fun _ => rfl
      have further := ih wiredAfter others
      rw [unmoved] at further
      simp only [Trace.final, List.foldl_cons, after, List.filterMap_cons, aimed,
        State.finishingAll] at further ⊢
      exact further

/-- In every reachable state the engine listens to the stage that it waits for and to no other.
Completing other stages marks them as finished, whatever their outputs are and in whatever order
they come: everything else stays as it is, and no hook is called. -/
theorem listens_of_controls (contained : host.Contained) {start : State}
    (fresh : start.FreshlyBuilt) {operations : List Operation}
    (controls : ∀ operation ∈ operations, operation.controls = true) :
    let state := Trace.final (perform host) start operations
    state.Listens (Trace.run (perform host) start operations) ∧
      ∀ late : List Operation, (∀ operation ∈ late, state.Stale operation) →
        Trace.final (perform host) state late =
          state.finishingAll (late.filterMap state.aimed?) := by
  intro state
  have listens := listens_final contained fresh.sound (listens_freshlyBuilt fresh) controls
  have sound : state.Sound := sound_final contained fresh.sound controls
  exact ⟨listens, fun late stale => final_stale host sound.wired stale⟩

/-- The second stage of the trip was superseded by the visit.  Completing it late, and the first one
once more, does not reach the engine. -/
theorem listens_detour :
    let late : List Operation := [.finish 1 (.text "late"), .finish 0 .null]
    (∀ operation ∈ Detour.operations, operation.controls = true) ∧
      Detour.visiting.Listens (Trace.run (perform Detour.host) Detour.start Detour.operations) ∧
      Detour.visiting.held = some 2 ∧
      Trace.final (perform Detour.host) Detour.visiting late =
        Detour.visiting.finishingAll [1, 0] := by
  intro late
  have controls : ∀ operation ∈ Detour.operations, operation.controls = true := by decide
  obtain ⟨listens, inert⟩ := listens_of_controls Detour.contained Detour.built controls
  have held : Detour.visiting.held = some 2 := by decide +kernel
  have aimed : late.filterMap Detour.visiting.aimed? = [1, 0] := by decide +kernel
  have stale : ∀ operation ∈ late, Detour.visiting.Stale operation := by decide +kernel
  exact ⟨controls, listens, held, aimed ▸ inert late stale⟩

/-- An operation that was to complete the stage that is waited for with a number fails only once the
stage is finished.  The engine is still subscribed to it then, and waits in vain. -/
theorem held_finished_of_number :
    let state := Trace.final (perform Detour.host) Detour.start
      [.register { name := "Trip", plan := "Go;Return" }, .invoke (.text "Trip") false,
        .complete (.int 5)]
    state.current = some 0 ∧ state.held = some 0 ∧
      state.dispatcher.handles.map (fun handle => (handle.finished, handle.listeners)) =
        [(true, [.controller])] := by
  decide +kernel

end Engine

end Workflow
