import Workflow.Proofs.Calls
import Workflow.Proofs.Cascade
import Workflow.Proofs.Course

/-!
# Follow-ups

An acceptor that calls back may invoke another workflow while its own one ends.  The exit that asked
it does not look at what became current meanwhile: it goes on with what is suspended, or comes to
rest.  So nothing refers to the follow-up afterwards but the subscription to its first stage.
-/

namespace Workflow

/-- A behaviour that does no more, besides what it does to its mapping, than to invoke workflows. -/
def Behaviour.OnlyInvokes : Behaviour → Prop
  | .reply _ | .fail _ => True
  | .write _ _ next | .remove _ next => next.OnlyInvokes
  | .look next => ∀ entries, (next entries).OnlyInvokes
  | .operate operation next =>
    (∃ source force, operation = .invoke source force) ∧ ∀ outcome, (next outcome).OnlyInvokes
  | .tell event next => event.isRemark = true ∧ next.OnlyInvokes

/-- Whatever the program of a hook does is of a kind. -/
def Hook.Does (programs : Programs) (kind : Behaviour → Prop) (hook : Hook) : Prop :=
  ∀ program role name stamp, hook = .custom program role name stamp →
    ∀ occasion, kind (programs.behaviour program occasion)

/-- The acceptor may invoke workflows, and the other hooks keep to their mappings. -/
structure Definition.FollowsUp (programs : Programs) (definition : Definition) : Prop where
  acceptor : definition.acceptor.Does programs Behaviour.OnlyInvokes
  redirector : ∀ hook, definition.redirector = some hook →
    hook.Does programs Behaviour.KeepsToMapping
  validators : ∀ stage ∈ definition.stages,
    stage.validator.Does programs Behaviour.KeepsToMapping

namespace State

/-- An instance was given back between two states to somebody who invoked it. -/
def GivesBack (before after : State) (number : Nat) : Prop :=
  ∃ events, after.journal = events ++ before.journal ∧ .returned number ∈ events

/-- An instance was given back between two states after an acceptor was called. -/
def FollowUp (before after : State) (number : Nat) : Prop :=
  ∃ later call leaving earlier, after.journal = later ++ call :: (earlier ++ before.journal) ∧
    call.departure? = some (.accepted leaving) ∧ .returned number ∈ later

/-- The stage at which an instance stands is shown under an open handle, and the engine is its only
subscriber. -/
def Opens (state : State) (number place : Nat) : Prop :=
  ∃ inst definition stage handle, state.instances[number]? = some inst ∧
    Registry.get state.registry inst.name = .ok definition ∧
    definition.stage? inst.stage = some stage ∧
    state.dispatcher.handles[place]? = some handle ∧ handle.stage = stage.name ∧
    handle.finished = false ∧ handle.listeners = [.controller]

/-- An instance is running and yet neither current nor suspended.  If it is the latest one, its
stage is still open and subscribed to, and an engine that is idle waits for it. -/
structure Forsakes (state : State) (number : Nat) : Prop where
  running : ∃ inst, state.instances[number]? = some inst ∧ inst.state = .running
  notCurrent : state.current ≠ some number
  notSuspended : some number ∉ state.suspended
  listening : number + 1 = state.instances.length →
    ∃ place, state.Opens number place ∧ (state.held = some place ↔ state.current = none)

variable {before middle state after : State} {number : Nat}

theorem givesBack_append (suffix : before.journal <:+ middle.journal) {events : List Event}
    (journal : after.journal = events ++ middle.journal) :
    before.GivesBack after number ↔
      .returned number ∈ events ∨ before.GivesBack middle number := by
  obtain ⟨old, same⟩ := suffix
  constructor
  · rintro ⟨all, whole, member⟩
    rw [journal, ← same, ← List.append_assoc] at whole
    rw [← List.append_cancel_right whole, List.mem_append] at member
    exact member.imp_right fun earlier => ⟨old, same.symm, earlier⟩
  · rintro (new | ⟨earlier, whole, member⟩)
    · exact ⟨events ++ old, by rw [journal, ← same, List.append_assoc],
        List.mem_append_left old new⟩
    · exact ⟨events ++ earlier, by rw [journal, whole, List.append_assoc],
        List.mem_append_right events member⟩

theorem not_givesBack_self : ¬ state.GivesBack state number := by
  rintro ⟨events, journal, member⟩
  rw [List.self_eq_append_left.mp journal] at member
  exact List.not_mem_nil member

/-- What is open stays open as long as the instance stays at its stage and the handle is left
alone. -/
theorem Opens.transfer {place : Nat} (opens : state.Opens number place)
    (stays : ∀ inst, state.instances[number]? = some inst → ∃ other,
      after.instances[number]? = some other ∧ other.name = inst.name ∧ other.stage = inst.stage)
    (registry : after.registry = state.registry)
    (handle : after.dispatcher.handles[place]? = state.dispatcher.handles[place]?) :
    after.Opens number place := by
  obtain ⟨inst, definition, stage, shown, found, defined, there, dispatched, facts⟩ := opens
  obtain ⟨other, foundAfter, name, reached⟩ := stays inst found
  refine ⟨other, definition, stage, shown, foundAfter, ?_, ?_, ?_, facts⟩
  · rw [registry, name]
    exact defined
  · rw [reached]
    exact there
  · rw [handle]
    exact dispatched

theorem opens_dispatched {inst : Instance} {definition : Definition} {stage : Stage}
    (stands : state.AtStage number inst definition stage) (arguments : Option (List String)) :
    (state.dispatched stage.name arguments).Opens number state.dispatcher.handles.length :=
  ⟨inst, definition, stage, _, stands.found, stands.defined, stands.there,
    List.getElem?_concat_length, rfl, rfl, rfl⟩

theorem journal_rested (state : State) : ∃ events, (∀ number, .returned number ∉ events) ∧
    state.rested.journal = events ++ state.journal := by
  refine ⟨.idle :: (state.dispatcher.backend.displayed Dispatcher.clearedLine ++ [.deactivated]),
    fun number => ?_, by simp [rested]⟩
  cases state.dispatcher.backend <;> simp [Backend.displayed]

theorem journal_dispatched (state : State) (stage : String) (arguments : Option (List String)) :
    ∃ events, (∀ number, .returned number ∉ events) ∧
      (state.dispatched stage arguments).journal = events ++ state.journal := by
  refine ⟨state.dispatcher.backend.displayed (Dispatcher.stageLine stage arguments) ++
    [.activated stage arguments], fun number => ?_, by simp [dispatched]⟩
  cases state.dispatcher.backend <;> simp [Backend.displayed]

/-- Since an exit began, hooks have invoked workflows and edited values, and entries were taken from
the stack.  The engine waits for the latest instance that was given back. -/
structure Overtaken (before state : State) : Prop extends state.Grounded where
  registry : state.registry = before.registry
  journal : before.journal <:+ state.journal
  fewer : ∀ entry ∈ state.suspended, entry ∈ before.suspended
  grown : before.instances.length ≤ state.instances.length
  running : ∀ number inst, before.instances.length ≤ number →
    state.instances[number]? = some inst → inst.state = .running
  returned : ∀ number, before.GivesBack state number →
    before.instances.length ≤ number ∧ number < state.instances.length
  newest : ∀ number, before.GivesBack state number → number + 1 = state.instances.length →
    ∃ place, state.held = some place ∧ state.Opens number place

namespace Overtaken

theorem refl (grounded : state.Grounded) : state.Overtaken state where
  toGrounded := grounded
  registry := rfl
  journal := List.suffix_rfl
  fewer := fun _ => id
  grown := Nat.le_refl _
  running := by
    intro number inst new found
    exact absurd (List.getElem?_eq_some_iff.mp found).1 (Nat.not_lt.mpr new)
  returned := fun _ back => absurd back not_givesBack_self
  newest := fun _ back => absurd back not_givesBack_self

/-- Changing an instance of before, or the values of any, and taking entries from the stack. -/
theorem moved (overtaken : before.Overtaken state) (grounded : after.Grounded) (number : Nat)
    (change : Instance → Instance)
    (instances : after.instances = state.instances.modify number change)
    (keeps : ∀ inst, (change inst).name = inst.name ∧ (change inst).stage = inst.stage ∧
      (before.instances.length ≤ number → (change inst).state = inst.state))
    (registry : after.registry = state.registry)
    (fewer : ∀ entry ∈ after.suspended, entry ∈ state.suspended) (held : after.held = state.held)
    (handles : after.dispatcher.handles = state.dispatcher.handles) (events : List Event)
    (journal : after.journal = events ++ state.journal)
    (silent : ∀ number, .returned number ∉ events) : before.Overtaken after := by
  have length : after.instances.length = state.instances.length := by
    rw [instances, List.length_modify]
  have changed (other : Nat) (inst : Instance) (found : after.instances[other]? = some inst) :
      ∃ old, state.instances[other]? = some old ∧
        inst = if number = other then change old else old := by
    rw [instances] at found
    exact found_changing found
  have back (other : Nat) : before.GivesBack after other → before.GivesBack state other := by
    rw [givesBack_append overtaken.journal journal]
    exact fun new => new.resolve_left (silent other)
  exact {
    toGrounded := grounded
    registry := registry.trans overtaken.registry
    journal := overtaken.journal.trans (journal ▸ List.suffix_append events state.journal)
    fewer := fun entry member => overtaken.fewer entry (fewer entry member)
    grown := length ▸ overtaken.grown
    running := by
      intro other inst new found
      obtain ⟨old, foundBefore, rfl⟩ := changed other inst found
      have running := overtaken.running other old new foundBefore
      split
      · next same =>
        rw [(keeps old).2.2 (same ▸ new)]
        exact running
      · exact running
    returned := by
      intro other given
      rw [length]
      exact overtaken.returned other (back other given)
    newest := by
      intro other given last
      rw [length] at last
      obtain ⟨place, waits, opens⟩ := overtaken.newest other (back other given) last
      refine ⟨place, held.trans waits, opens.transfer ?_ registry (by rw [handles])⟩
      intro inst found
      refine ⟨if number = other then change inst else inst, ?_, ?_⟩
      · rw [instances, List.getElem?_modify, found]
        rfl
      · split
        · exact ⟨(keeps inst).1, (keeps inst).2.1⟩
        · exact ⟨rfl, rfl⟩ }

theorem reporting (overtaken : before.Overtaken state) {events : List Event}
    (silent : ∀ number, .returned number ∉ events) : before.Overtaken (state.reporting events) :=
  overtaken.moved (overtaken.toGrounded.reporting events) 0 id (List.modify_id ..).symm
    (fun _ => ⟨rfl, rfl, fun _ => rfl⟩) rfl (fun _ => id) rfl rfl events rfl silent

theorem touched {shown : Shown} (overtaken : before.Overtaken state)
    (touched : shown.Touched state after) : before.Overtaken after := by
  obtain ⟨edit, remarks, plain, rfl⟩ := touched
  have silent (number : Nat) : .returned number ∉ remarks := by
    intro member
    cases plain _ member
  cases shown with
  | output payload => exact overtaken.reporting silent
  | values number =>
      exact overtaken.moved ((overtaken.toGrounded.editing number edit).reporting remarks) number
        (fun inst => { inst with values := edit inst.values }) rfl
        (fun _ => ⟨rfl, rfl, fun _ => rfl⟩) rfl (fun _ => id) rfl rfl remarks rfl silent

/-- The instance that is marked as finished is one of before. -/
theorem exiting (overtaken : before.Overtaken state) (old : number < before.instances.length)
    (inst : Instance) : before.Overtaken (state.exiting number inst) :=
  overtaken.moved (overtaken.toGrounded.exiting number inst) number
    (fun inst => { inst with state := .finished }) rfl
    (fun _ => ⟨rfl, rfl, fun new => absurd old (Nat.not_lt.mpr new)⟩) rfl (fun _ => id) rfl rfl
    [.exiting number inst.name inst.stage] rfl (by simp)

theorem abandoned (overtaken : before.Overtaken state) (inst : Instance)
    {rest : List (Option Nat)} (lastAside : state.suspended = some number :: rest) :
    before.Overtaken (state.abandoned number inst rest) := by
  have below (entry : Option Nat) (member : entry ∈ rest) : entry ∈ state.suspended := by
    rw [lastAside]
    exact List.mem_cons_of_mem _ member
  have grounded : (state.abandoned number inst rest).Grounded :=
    { overtaken.toGrounded with
      suspended_lt := fun entry member => overtaken.suspended_lt entry (below entry member) }
  exact overtaken.moved grounded 0 id (List.modify_id ..).symm
    (fun _ => ⟨rfl, rfl, fun _ => rfl⟩) rfl below rfl rfl
    [.abandoned number inst.name, .popped (some number) inst.label rest.length] rfl (by simp)

theorem restored (overtaken : before.Overtaken state) (inst : Instance)
    {rest : List (Option Nat)} (lastAside : state.suspended = some number :: rest)
    (values : ValueMap) : before.Overtaken (state.restored number inst rest values) := by
  have below (entry : Option Nat) (member : entry ∈ rest) : entry ∈ state.suspended := by
    rw [lastAside]
    exact List.mem_cons_of_mem _ member
  exact overtaken.moved (Engine.grounded_restored overtaken.toGrounded lastAside inst values) number
    (fun inst => { inst with values := values }) rfl (fun _ => ⟨rfl, rfl, fun _ => rfl⟩) rfl below
    rfl rfl [.restoring number inst.name inst.stage, .popped (some number) inst.label rest.length]
    rfl (by simp)

/-- A new instance is the latest one, and it was not given back yet. -/
theorem begun (overtaken : before.Overtaken state) {invocation : Invocation}
    {definition : Definition}
    (known : Registry.get state.registry invocation.name = .ok definition) :
    before.Overtaken (state.detached.begun invocation) := by
  have length : (state.detached.begun invocation).instances.length =
      state.instances.length + 1 := List.length_append
  have journal : (state.detached.begun invocation).journal =
      [.invoking state.instances.length invocation] ++ state.journal := rfl
  have returned (other : Nat) (back : before.GivesBack (state.detached.begun invocation) other) :
      before.instances.length ≤ other ∧ other < state.instances.length := by
    rw [givesBack_append overtaken.journal journal] at back
    exact overtaken.returned other (back.resolve_left (by simp))
  exact {
    toGrounded := overtaken.toGrounded.detached.begun known
    registry := overtaken.registry
    journal := overtaken.journal.trans (List.suffix_cons ..)
    fewer := overtaken.fewer
    grown := by
      rw [length]
      exact Nat.le_succ_of_le overtaken.grown
    running := by
      intro other inst new found
      rcases State.found_begun found with old | ⟨-, rfl⟩
      · exact overtaken.running other inst new old
      · rfl
    returned := by
      intro other back
      rw [length]
      exact ⟨(returned other back).1, Nat.lt_succ_of_lt (returned other back).2⟩
    newest := by
      intro other back last
      rw [length] at last
      exact absurd (returned other back).2 (by omega) }

/-- An instance whose first stage is dispatched is given back, and the engine waits for it. -/
theorem dispatched (overtaken : before.Overtaken state) {inst : Instance}
    {definition : Definition} {stage : Stage}
    (stands : state.AtStage number inst definition stage)
    (new : before.instances.length ≤ number) (latest : number + 1 = state.instances.length)
    (arguments : Option (List String)) :
    before.Overtaken ((state.dispatched stage.name arguments).reporting [.returned number]) := by
  obtain ⟨events, silent, dispatched⟩ := state.journal_dispatched stage.name arguments
  have journal : ((state.dispatched stage.name arguments).reporting [.returned number]).journal =
      (.returned number :: events) ++ state.journal := by
    rw [List.cons_append, ← dispatched]
    rfl
  have back (other : Nat) (given : before.GivesBack
      ((state.dispatched stage.name arguments).reporting [.returned number]) other) :
      other = number ∨ before.GivesBack state other := by
    rw [givesBack_append overtaken.journal journal] at given
    exact given.imp_left (by simp [silent])
  exact {
    toGrounded := (overtaken.toGrounded.dispatched _ _).reporting _
    registry := overtaken.registry
    journal := overtaken.journal.trans (journal ▸ List.suffix_append ..)
    fewer := overtaken.fewer
    grown := overtaken.grown
    running := overtaken.running
    returned := by
      intro other given
      rcases back other given with rfl | earlier
      · exact ⟨new, latest ▸ Nat.lt_succ_self _⟩
      · exact overtaken.returned other earlier
    newest := by
      intro other given last
      have same : other = number := Nat.succ.inj (last.trans latest.symm)
      subst same
      exact ⟨state.dispatcher.handles.length, rfl, opens_dispatched stands arguments⟩ }

end Overtaken

end State

namespace Engine

variable {host : Host} {programs : Programs} {depth : Nat} {before state after : State}
  {number : Nat}

/-- Whatever becomes of an invocation, nothing but a new instance comes of it. -/
theorem overtaken_invoke (host : Host) (overtaken : before.Overtaken state)
    (source : InvocationSource) (force : Bool) :
    before.Overtaken (ending (perform host (.invoke source force)) state).2 := by
  simp only [ending, perform, bind_apply, invokeSource_apply overtaken.toNumbered]
  cases admitted : state.admitted source force with
  | error failure => exact overtaken
  | ok invocation =>
      obtain ⟨definition, known⟩ := known_of_admitted admitted
      have began := overtaken.begun known
      obtain ⟨inst, definition, runs⟩ := began.toGrounded.runs rfl
      have started := startStage_ending began.toGrounded runs
      simp only
      rw [ending] at started
      generalize startStage (state.detached.begun invocation) = result at started ⊢
      cases result with
      | error failure reached =>
          cases started with
          | failed => exact began
      | ok answer reached =>
          cases started with
          | @dispatched number inst definition stage arguments stands resolved =>
              obtain ⟨rfl, rfl, rfl⟩ := runs.unique stands.toRuns
              have length : (state.detached.begun invocation).instances.length =
                  state.instances.length + 1 := List.length_append
              have given := began.dispatched stands overtaken.grown length.symm arguments
              have found : (((state.detached.begun invocation).dispatched stage.name
                  arguments).reporting [.returned state.instances.length]).instances[
                    state.instances.length]? = some inst := stands.found
              simp only [pure_apply, note_eq_reporting, instanceAt_apply found]
              exact given

/-- A change of the mapping goes before what it leads to. -/
theorem overtaken_change {performing : Operation → Engine Answer} {next : Behaviour}
    (further : ∀ (shown : Shown) {state : State}, before.Overtaken state →
      before.Overtaken (ending (follow performing next shown) state).2)
    (revise : Payload → Except ValueFault Payload) (edit : Edit Unit) (shown : Shown)
    (overtaken : before.Overtaken state) : before.Overtaken
      (ending (do follow performing next (← shown.change revise edit)) state).2 := by
  have changed := shown.touched_change revise edit state
  simp only [ending, bind_apply]
  cases change : shown.change revise edit state with
  | ok other reached =>
      rw [change] at changed
      exact further other (overtaken.touched changed.2)
  | error failure reached =>
      rw [change] at changed
      exact overtaken.touched changed

/-- Whatever an acceptor does that only invokes workflows, no more comes of it than that. -/
theorem overtaken_follow {behaviour : Behaviour} (only : behaviour.OnlyInvokes) (shown : Shown)
    (overtaken : before.Overtaken state) :
    before.Overtaken (ending (follow (perform host) behaviour shown) state).2 := by
  induction behaviour generalizing shown state with
  | reply answer => exact overtaken
  | fail failure => exact overtaken
  | write key value next ih =>
      exact overtaken_change (fun other => ih only other) _ _ shown overtaken
  | remove key next ih =>
      exact overtaken_change (fun other => ih only other) _ _ shown overtaken
  | look next ih =>
      simp only [follow, ending, bind_apply]
      rcases shown.entries_keeps state with ⟨seen, looked⟩ | ⟨failure, looked⟩
      · rw [looked]
        exact ih seen (only seen) shown overtaken
      · rw [looked]
        exact overtaken
  | operate operation next ih =>
      obtain ⟨⟨source, force, rfl⟩, further⟩ := only
      have invoked := overtaken_invoke host overtaken source force
      simp only [follow, ending, bind_apply, outcome, Trace.outcomeOf] at invoked ⊢
      generalize perform host (.invoke source force) state = result at invoked ⊢
      cases result with
      | ok answer reached => exact ih _ (further _) shown invoked
      | error failure reached => exact ih _ (further _) shown invoked
  | tell event next ih =>
      have remarked : before.Overtaken (state.reporting [event]) := by
        refine overtaken.reporting fun number member => ?_
        cases List.mem_singleton.mp member
        cases only.1
      exact ih only.2 shown remarked

theorem overtaken_consult (depth : Nat) {hook : Hook}
    (does : hook.Does programs Behaviour.OnlyInvokes) (overtaken : before.Overtaken state)
    (inRange : number < state.instances.length) :
    before.Overtaken (ending (consult (programs.host depth) hook number .accept (.values number))
      state).2 := by
  have there (other : Nat) (same : Shown.values number = .values other) :
      other < state.instances.length := by
    cases same
    exact inRange
  have called : before.Overtaken (state.consulting hook number .accept (.values number)) :=
    overtaken.reporting (by simp)
  rw [ending, consult_apply _ hook number .accept (.values number) there]
  by_cases arity : hook.arity = (Question.accept.arguments
      (.dict ((Shown.values number).seen state))).length
  · rw [if_pos arity]
    cases hook with
    | alwaysValid => exact called
    | identityAcceptor => exact called
    | cancelDecision =>
        have found := List.getElem?_eq_getElem inRange
        rcases decideCancel_apply called.toNumbered found with
          ⟨-, decided⟩ | ⟨top, lost, rest, -, lastAside, -, decided⟩
        · simp only [answerOf, bind_apply, decided]
          exact called
        · simp only [answerOf, bind_apply, decided]
          exact called.abandoned lost lastAside
    | ready hook =>
        simp only [answerOf, bind_apply]
        cases hook.answer _ with
        | ok answer => exact called
        | error failure => exact called
    | custom program role name stamp =>
        cases depth with
        | zero => exact called
        | succ depth =>
            exact overtaken_follow (does program role name stamp rfl _) (.values number) called
  · rw [if_neg arity]
    exact overtaken

/-- An exit ends in a state in which only what was there before it is in progress: it comes to rest,
or it dispatches the stage of an instance of before. -/
inductive Outcome (before : State) : State → Prop where
  | rested {state : State} (overtaken : before.Overtaken state) : Outcome before state.rested
  | dispatched {state : State} {top : Nat} {stage : String} {arguments : Option (List String)}
      (overtaken : before.Overtaken state) (current : state.current = some top)
      (old : top < before.instances.length) : Outcome before (state.dispatched stage arguments)

/-- Concluding an instance of before runs no more than its acceptor, which may invoke workflows. -/
theorem overtaken_conclude (depth : Nat)
    (follows : ∀ definition ∈ before.registry.definitions,
      definition.acceptor.Does programs Behaviour.OnlyInvokes)
    (overtaken : before.Overtaken state) (current : state.current = some number)
    (old : number < before.instances.length) :
    before.Overtaken (ending (conclude (programs.host depth)) state).2 := by
  obtain ⟨inst, definition, runs⟩ := overtaken.toGrounded.runs current
  have defined := runs.defined
  rw [overtaken.registry] at defined
  have does := follows definition (Registry.mem_definitions defined)
  have exiting := overtaken.exiting old inst
  have asked := overtaken_consult depth does exiting (exiting.current_lt number runs.current)
  rw [ending, conclude_apply runs, bind_apply]
  rw [ending] at asked
  generalize consult _ _ _ _ _ _ = result at asked ⊢
  cases result <;> exact asked

/-- What is resumed is an instance of before. -/
theorem overtaken_resume (numbered : before.Numbered) (overtaken : before.Overtaken state)
    {contribution : Value} {past : Bool}
    (resumed : resume contribution state = .ok past after) :
    before.Overtaken after ∧ ∃ top, after.current = some top ∧ top < before.instances.length := by
  cases aside : state.suspended with
  | nil => simp [resume, Suspension.pop, bind_apply, aside] at resumed
  | cons entry rest =>
      obtain ⟨top, rfl, old⟩ := numbered.suspended_lt entry
        (overtaken.fewer entry (by rw [aside]; exact List.mem_cons_self))
      obtain ⟨inst, found⟩ : ∃ inst, state.instances[top]? = some inst :=
        ⟨_, List.getElem?_eq_getElem (Nat.lt_of_lt_of_le old overtaken.grown)⟩
      obtain ⟨definition, defined⟩ := overtaken.known top inst found
      rw [resume_apply aside found defined] at resumed
      cases merged : ValueMap.merge contribution inst.values with
      | error fault values => simp [merged] at resumed
      | ok done values =>
          simp only [merged, EStateM.Result.ok.injEq] at resumed
          rw [← resumed.2]
          exact ⟨overtaken.restored inst aside values, top, rfl, old⟩

theorem outcome_startStage (overtaken : before.Overtaken state)
    (current : state.current = some number) (old : number < before.instances.length)
    (started : startStage state = .ok () after) : Outcome before after := by
  obtain ⟨inst, definition, runs⟩ := overtaken.toGrounded.runs current
  have ends := startStage_ending overtaken.toGrounded runs
  rw [ending, started] at ends
  cases ends with
  | dispatched stands => exact .dispatched overtaken current old

/-- However many rounds an exit takes and whatever its acceptors invoke, only instances of before
are resumed. -/
theorem outcome_exit (numbered : before.Numbered)
    (follows : ∀ definition ∈ before.registry.definitions,
      definition.acceptor.Does programs Behaviour.OnlyInvokes)
    {bound : Nat} (overtaken : before.Overtaken state) (current : state.current = some number)
    (old : number < before.instances.length)
    (ended : exit (programs.host depth) bound state = .ok () after) : Outcome before after := by
  induction bound generalizing state number with
  | zero => cases ended
  | succ bound ih =>
      have concluded := overtaken_conclude depth follows overtaken current old
      rw [exit_succ, bind_apply] at ended
      rw [ending] at concluded
      generalize conclude (programs.host depth) state = result at concluded ended
      cases result with
      | error failure reached => cases ended
      | ok contribution answered =>
          simp only [bind_apply, get_apply] at ended
          cases empty : answered.suspended.isEmpty with
          | true =>
              simp only [empty, ↓reduceIte, comeToRest_apply] at ended
              cases ended
              exact .rested concluded
          | false =>
              simp only [empty, Bool.false_eq_true, ↓reduceIte, bind_apply] at ended
              cases resumed : resume contribution answered with
              | error failure reached => simp [resumed] at ended
              | ok past reached =>
                  obtain ⟨restored, top, running, below⟩ :=
                    overtaken_resume numbered concluded resumed
                  simp only [resumed] at ended
                  cases past with
                  | true => exact ih restored running below ended
                  | false => exact outcome_startStage restored running below ended

/-- What was given back since an exit began is forsaken where its end has put nothing else in
progress. -/
theorem forsaken_of_overtaken (numbered : before.Numbered) (overtaken : before.Overtaken state)
    (back : before.GivesBack state number) (instances : after.instances = state.instances)
    (suspended : after.suspended = state.suspended)
    (current : ∀ other, after.current = some other → other < before.instances.length)
    (listening : ∀ place, state.held = some place → state.Opens number place →
      after.Opens number place ∧ (after.held = some place ↔ after.current = none)) :
    after.Forsakes number := by
  obtain ⟨new, inRange⟩ := overtaken.returned number back
  have found : after.instances[number]? = some state.instances[number] := by
    rw [instances, List.getElem?_eq_getElem inRange]
  refine ⟨⟨_, found, overtaken.running number _ new (List.getElem?_eq_getElem inRange)⟩, ?_, ?_, ?_⟩
  · exact fun same => absurd (current number same) (Nat.not_lt.mpr new)
  · intro member
    rw [suspended] at member
    obtain ⟨other, same, old⟩ := numbered.suspended_lt _ (overtaken.fewer _ member)
    cases same
    exact absurd old (Nat.not_lt.mpr new)
  · intro latest
    rw [instances] at latest
    obtain ⟨place, held, opens⟩ := overtaken.newest number back latest
    exact ⟨place, listening place held opens⟩

namespace Outcome

theorem suffix (outcome : Outcome before after) : before.journal <:+ after.journal := by
  cases outcome with
  | @rested state overtaken =>
      obtain ⟨events, -, journal⟩ := state.journal_rested
      exact overtaken.journal.trans ⟨events, journal.symm⟩
  | @dispatched state top stage arguments overtaken current old =>
      obtain ⟨events, -, journal⟩ := state.journal_dispatched stage arguments
      exact overtaken.journal.trans ⟨events, journal.symm⟩

/-- Whatever was given back while an exit lasted is forsaken when it has come to its end. -/
theorem forsaken (outcome : Outcome before after) (numbered : before.Numbered)
    (back : before.GivesBack after number) : after.Forsakes number := by
  cases outcome with
  | @rested state overtaken =>
      obtain ⟨events, silent, journal⟩ := state.journal_rested
      rw [State.givesBack_append overtaken.journal journal] at back
      have earlier := back.resolve_left (silent number)
      refine forsaken_of_overtaken numbered overtaken earlier rfl rfl nofun ?_
      exact fun place held opens => ⟨opens, fun _ => rfl, fun _ => held⟩
  | @dispatched state top stage arguments overtaken current old =>
      obtain ⟨events, silent, journal⟩ := state.journal_dispatched stage arguments
      rw [State.givesBack_append overtaken.journal journal] at back
      have earlier := back.resolve_left (silent number)
      refine forsaken_of_overtaken numbered overtaken earlier rfl rfl ?_ fun place held opens => ?_
      · intro other same
        cases current.symm.trans same
        exact old
      · -- The handle that was waited for is still there, below the one of the resumed instance.
        obtain ⟨inst, definition, shown, handle, found, defined, there, handleAt, facts⟩ := opens
        have inRange := (List.getElem?_eq_some_iff.mp handleAt).1
        refine ⟨⟨inst, definition, shown, handle, found, defined, there, ?_, facts⟩, ?_, ?_⟩
        · exact (List.getElem?_append_left inRange).trans handleAt
        · intro same
          cases same
          exact absurd inRange (Nat.lt_irrefl _)
        · intro idle
          cases current.symm.trans idle

end Outcome

/-- There is a contained host that asks those hooks in the same way which keep to their mappings. -/
theorem exists_contained (programs : Programs) (depth : Nat) :
    ∃ other : Host, other.Contained ∧
      ∀ hook : Hook, hook.Does programs Behaviour.KeepsToMapping → ∀ inst question shown,
        consult (programs.host depth) hook inst question shown =
          consult other hook inst question shown := by
  classical
  refine ⟨{
    run := fun program occasion shown =>
      if (programs.behaviour program occasion).KeepsToMapping then
        (programs.host depth).run program occasion shown
      else pure (shown, .null) }, ?_, ?_⟩
  · intro program occasion shown state
    simp only
    split
    · next keeps =>
      cases depth with
      | zero => exact Shown.Touched.refl _ _
      | succ depth => exact follow_touched _ keeps shown state
    · exact Shown.Touched.refl _ _
  · intro hook does inst question shown
    cases hook with
    | custom program role name stamp =>
        simp only [consult, callHook, if_pos (does program role name stamp rfl _)]
    | _ => rfl

/-- A completion in which no instance departs, or what comes of the exit of one that was moved
on. -/
def Exits (host : Host) (number : Nat) (before after : State) : Prop :=
  after.departures = before.departures ∨ ∃ values events bound, Event.Quiet events ∧
    exit host bound (before.forwarded number values events) = .ok () after

section Exits

variable {inst : Instance} {definition : Definition} {stage : Stage}

/-- No instance departs where one is put aside for another. -/
theorem departures_diverted (grounded : state.Grounded) {events : List Event}
    (quiet : Event.Quiet events) (found : state.instances[number]? = some inst)
    {invocation : Invocation} {target : Definition}
    (known : Registry.get state.registry invocation.name = .ok target)
    (ended : startStage ((state.reporting events).diverted number inst invocation) =
      .ok () after) : after.departures = state.departures := by
  have started := diverted_started (grounded.reporting events) found known
  rw [ending, ended] at started
  exact diverted_departures quiet started

theorem proceed_exits (grounded : state.Grounded)
    (stands : state.AtStage number inst definition stage) {reached : State}
    (forwarded : state.Forwarded number inst definition reached) {name : Option String}
    {target : Option (String × Invocation)}
    (ended : proceed host number definition name target reached = .ok () after) :
    Exits host number state after := by
  have same := Forwarded.departures forwarded
  have reachedGrounded := forwarded.grounded grounded
  obtain ⟨values, runs⟩ := forwarded.runs stands.toRuns
  cases target with
  | none =>
      simp only [proceed, exitIfComplete, bind_apply, instanceAt_apply runs.found] at ended
      cases past : definition.isCompleteAt (inst.stage + 1) with
      | false =>
          simp only [past, Bool.false_eq_true, ↓reduceIte, pure_apply, EStateM.Result.ok.injEq,
            true_and] at ended
          exact .inl (ended ▸ same)
      | true =>
          simp only [past, ↓reduceIte, bind_apply, get_apply] at ended
          have counted := grounded.counted number inst stands.found
          obtain ⟨later, events, quiet, rfl⟩ := forwarded.last_of_over counted past
          exact .inr ⟨later, events, _, quiet, ended⟩
  | some answer =>
      obtain ⟨text, invocation⟩ := answer
      cases known : Registry.get reached.registry invocation.name with
      | error failure =>
          simp only [proceed, redirect, bind_apply, get_apply, known, lift_error] at ended
          cases ended
      | ok target =>
          rw [proceed, redirect_apply runs.current runs.found known] at ended
          have kept := departures_diverted reachedGrounded (by rfl) runs.found known ended
          exact .inl (kept.trans same)

theorem accept_exits {other : Host} (contained : other.Contained)
    (advice : ∀ reached, advise host number definition reached =
      advise other number definition reached)
    (grounded : state.Grounded) (stands : state.AtStage number inst definition stage)
    {events : List Event} (quiet : Event.Quiet events) {name : Option String} {staged : ValueMap}
    (storable : staged.Storable)
    (ended : accept host number definition name staged (state.reporting events) = .ok () after) :
    Exits host number state after := by
  have found : (state.reporting events).instances[number]? = some inst := stands.found
  have quietAccepted : Event.Quiet (.accepted number name inst.stage staged :: events) := quiet
  have started := startNext_forwarded grounded stands.toRuns (inst.values.merged staged)
    quietAccepted
  have same : (state.reporting events).forwarded number (inst.values.merged staged)
      [.accepted number name inst.stage staged] =
    state.forwarded number (inst.values.merged staged)
      (.accepted number name inst.stage staged :: events) := rfl
  rw [accept_apply found storable, same, bind_apply] at ended
  generalize startNext definition (inst.stage + 1) (state.forwarded number _ _) = result
    at started ended
  cases result with
  | error failure reached => cases ended
  | ok answer advanced =>
      have advancedGrounded := started.grounded grounded
      obtain ⟨values, runs⟩ := started.runs stands.toRuns
      have advised := advise_forwarded contained advancedGrounded
        (advancedGrounded.current_lt number runs.current) started (inst.stage + 1)
      simp only [bind_apply, advice] at ended
      rw [ending] at advised
      generalize advise other number definition (inst.stage + 1) advanced = result
        at advised ended
      cases result with
      | error failure reached => cases ended
      | ok target reached => exact proceed_exits grounded stands advised ended

theorem reject_exits (grounded : state.Grounded)
    (stands : state.AtStage number inst definition stage) {events : List Event}
    (quiet : Event.Quiet events) {name : Option String} {error : Value}
    (ended : reject number name error (state.reporting events) = .ok () after) :
    Exits host number state after := by
  obtain ⟨cancel, known⟩ := grounded.cancel_known
  have found : (state.reporting events).instances[number]? = some inst := stands.found
  have current : (state.reporting events).current = some number := stands.current
  cases writable : error.isWritable with
  | false => simp [reject_unwritable writable] at ended
  | true =>
      rw [reject_apply writable current found known] at ended
      cases worded : rejectionText error with
      | error failure => simp [worded] at ended
      | ok text =>
          have quietRejected : Event.Quiet (.rejected number name inst.stage error :: events) :=
            quiet
          simp only [worded] at ended
          exact .inl (departures_diverted grounded quietRejected found known ended)

end Exits

/-- A completion in which only acceptors call back ends like one without them up to the exit. -/
theorem stageFinished_exits
    (follows : ∀ definition ∈ state.registry.definitions, definition.FollowsUp programs)
    (grounded : state.Grounded) (current : state.current = some number) {payload left : Payload}
    (ended : stageFinished (programs.host depth) payload state = .ok left after) :
    Exits (programs.host depth) number state.detached after := by
  obtain ⟨inst, definition, runs⟩ := grounded.runs current
  have follow := follows definition (Registry.mem_definitions runs.defined)
  obtain ⟨other, contained, alike⟩ := exists_contained programs depth
  cases there : definition.stage? inst.stage with
  | none =>
      rw [stageFinished_outOfRange runs there] at ended
      cases ended
  | some stage =>
      have stands : state.AtStage number inst definition stage := ⟨runs, there⟩
      have waiting : state.detached.AtStage number inst definition stage :=
        ⟨⟨runs.current, runs.found, runs.defined⟩, there⟩
      have judges : judge (programs.host depth) number stage payload =
          judge other number stage payload := by
        simp only [judge, alike _ (follow.validators stage (Definition.mem_of_stage? there))]
      have advice (reached : Int) : advise (programs.host depth) number definition reached =
          advise other number definition reached := by
        simp only [advise]
        cases redirector : definition.redirector with
        | none => rfl
        | some hook => simp only [alike hook (follow.redirector hook redirector)]
      obtain ⟨events, quiet, kept⟩ :=
        judge_reporting contained grounded.detached number stage payload
      rw [stageFinished_apply stands, bind_apply, judges] at ended
      generalize judge other number stage payload state.detached = result at kept ended
      cases result with
      | error failure reached => cases ended
      | ok judged reached =>
          obtain ⟨left, staged⟩ := judged
          obtain ⟨rfl, storable⟩ := kept
          cases staged with
          | error error =>
              simp only [bind_apply] at ended
              cases rejects : reject number (definition.stageName? inst.stage) error
                  (state.detached.reporting events) with
              | error failure reached => simp [rejects] at ended
              | ok done reached =>
                  simp only [rejects, pure_apply, EStateM.Result.ok.injEq] at ended
                  exact reject_exits grounded.detached waiting quiet (ended.2 ▸ rejects)
          | ok staged =>
              simp only [bind_apply] at ended
              cases accepts : accept (programs.host depth) number definition
                  (definition.stageName? inst.stage) staged
                  (state.detached.reporting events) with
              | error failure reached => simp [accepts] at ended
              | ok done reached =>
                  simp only [accepts, pure_apply, EStateM.Result.ok.injEq] at ended
                  exact accept_exits contained advice grounded.detached waiting quiet
                    (storable staged rfl) (ended.2 ▸ accepts)

end Engine

namespace State

variable {before ready after : State} {number : Nat}

/-- An instance departs where its acceptor is called. -/
theorem FollowUp.departs (followUp : before.FollowUp after number) :
    after.departures ≠ before.departures := by
  obtain ⟨later, call, leaving, earlier, journal, accepts, -⟩ := followUp
  intro same
  have counted := congrArg List.length same
  simp only [departures, journal, List.filterMap_append, List.filterMap_cons, accepts,
    List.length_append, List.length_cons] at counted
  omega

/-- What is given back after an acceptor was called is given back after the exit began that called
it. -/
theorem FollowUp.givesBack (followUp : before.FollowUp after number) {quietly : List Event}
    (quiet : Event.Quiet quietly) (began : ready.journal = quietly ++ before.journal)
    (suffix : ready.journal <:+ after.journal) : ready.GivesBack after number := by
  obtain ⟨later, call, leaving, earlier, journal, accepts, member⟩ := followUp
  obtain ⟨since, whole⟩ := suffix
  refine ⟨since, whole.symm, ?_⟩
  have same : since ++ quietly = later ++ call :: earlier := by
    apply (List.append_left_inj before.journal).mp
    rw [List.append_assoc, ← began, whole, journal, List.append_assoc, List.cons_append]
  rcases List.append_eq_append_iff.mp same with ⟨between, -, below⟩ | ⟨between, above, -⟩
  · have called : call ∈ quietly := by
      rw [below]
      exact List.mem_append_right between List.mem_cons_self
    have quietCall := List.filterMap_eq_nil_iff.mp quiet call called
    cases quietCall.symm.trans accepts
  · rw [above]
    exact List.mem_append_left between member

end State

namespace Engine

variable {programs : Programs} {depth : Nat} {state after : State} {number : Nat}

/-- Whatever acceptors are given back while the engine takes in an output is forsaken. -/
theorem forsaken_of_stageFinished
    (follows : ∀ definition ∈ state.registry.definitions, definition.FollowsUp programs)
    (grounded : state.Grounded) {payload left : Payload}
    (ended : stageFinished (programs.host depth) payload state = .ok left after)
    (followUp : state.FollowUp after number) : after.Forsakes number := by
  cases current : state.current with
  | none =>
      have absent : state.detached.current = none := current
      simp [stageFinished, bind_apply, detach_apply, currentNumber, absent] at ended
  | some leaving =>
      rcases stageFinished_exits follows grounded current ended with
        same | ⟨values, events, bound, quiet, exits⟩
      · exact absurd same followUp.departs
      · have ready := grounded.detached.forwarded leaving values events
        have old := ready.current_lt leaving current
        have outcome := outcome_exit ready.toNumbered
          (fun definition member => (follows definition member).acceptor) (.refl ready) current old
          exits
        exact outcome.forsaken ready.toNumbered (followUp.givesBack quiet rfl outcome.suffix)

/-- An acceptor may invoke whatever it likes: the instance that it is given back is neither current
nor suspended once the completion that asked it has come to its end.  If no other instance came up
after it, its stage stays open and subscribed to, and an engine that is idle then waits for it. -/
theorem forsaken_of_followUp
    (follows : ∀ definition ∈ state.registry.definitions, definition.FollowsUp programs)
    (grounded : state.Grounded) (single : state.Single) {operation : Operation} {output : Value}
    (given : operation.output? = some output) {answer : Answer}
    (returned : perform (programs.host depth) operation state = .ok answer after)
    (followUp : state.FollowUp after number) : after.Forsakes number := by
  cases perform_completing given with
  | refused completed ends =>
      rw [ending, returned] at ends
      cases ends
  | @finished place handle completed found unfinished ends =>
      rw [ending, returned, finishHandle_ending found unfinished] at ends
      have finishing : (state.finishing place).Grounded := grounded_finishing grounded place
      cases read : Payload.ofOutput output with
      | error fault => simp [read] at ends
      | ok payload =>
          simp only [read] at ends
          have few := single handle (List.mem_of_getElem? found)
          cases listeners : handle.listeners with
          | nil =>
              rw [listeners] at ends
              cases ends
              exact absurd rfl followUp.departs
          | cons watcher others =>
              rw [listeners, List.length_cons] at few
              have alone : others = [] := List.eq_nil_of_length_eq_zero (by omega)
              rw [listeners, alone] at ends
              simp only [Handle.deliver, bind_pure, ending] at ends
              cases told : stageFinished (programs.host depth) payload (state.finishing place) with
              | error failure reached => simp [told] at ends
              | ok left reached =>
                  simp only [told, Prod.mk.injEq, true_and] at ends
                  rw [ends] at followUp ⊢
                  have also : ∀ definition ∈ (state.finishing place).registry.definitions,
                      definition.FollowsUp programs := follows
                  exact forsaken_of_stageFinished also finishing told followUp

end Engine

/-! ## A trip with a follow-up

The acceptor of a trip invokes a visit by force. -/

namespace Relay

def programs : Programs :=
  { behaviour := fun _ _ => .operate (.invoke (.text "Visit") true) fun _ => .reply .null }

def host : Host := programs.host 1

def operations : List Operation :=
  [.register { name := "Visit", plan := "Look" },
    .register { name := "Trip", plan := "Go", acceptor := .custom 0 .acceptor "follow" },
    .invoke (.text "Trip") false]

/-- The trip is about to end. -/
def ready : State :=
  Trace.final (Engine.perform host) Detour.start operations

/-- The trip has ended. -/
def after : State :=
  (Engine.ending (Engine.perform host (.complete (.dict []))) ready).2

theorem followUp : ready.FollowUp after 1 := by
  refine ⟨after.journal.take 5, after.journal[5], 0, (after.journal.drop 6).take 3, rfl, rfl, ?_⟩
  exact List.mem_of_getElem? (show (after.journal.take 5)[2]? = some (.returned 1) from rfl)

theorem followsUp : ∀ definition ∈ ready.registry.definitions, definition.FollowsUp programs := by
  have hooks : ∀ definition ∈ ready.registry.definitions, definition.redirector = none ∧
      ∀ stage ∈ definition.stages, stage.validator = .alwaysValid := by
    decide +kernel
  intro definition member
  obtain ⟨redirector, validators⟩ := hooks definition member
  refine ⟨fun program role name stamp _ occasion => ⟨⟨_, _, rfl⟩, fun _ => trivial⟩, ?_, ?_⟩
  · intro hook present
    cases redirector.symm.trans present
  · intro stage among program role name stamp custom
    cases (validators stage among).symm.trans custom

theorem grounded : ready.Grounded := by
  have current : ready.current = some 0 := by decide +kernel
  have suspended : ready.suspended = [] := by decide +kernel
  have single : ready.instances.length = 1 := by decide +kernel
  have instances : ∀ inst ∈ ready.instances, 0 ≤ inst.stage ∧
      (Registry.get ready.registry inst.name).toOption.isSome = true := by decide +kernel
  have cancels : (Registry.get ready.registry ready.settings.cancelWorkflow).toOption.isSome =
      true := by decide +kernel
  have known {name : String}
      (there : (Registry.get ready.registry name).toOption.isSome = true) :
      ∃ definition, Registry.get ready.registry name = .ok definition := by
    obtain ⟨definition, found⟩ := Option.isSome_iff_exists.mp there
    exact ⟨definition, eq_ok_of_toOption found⟩
  exact {
    current_lt := by
      intro number same
      cases current.symm.trans same
      rw [single]
      decide
    suspended_lt := by
      rw [suspended]
      nofun
    known := fun number inst found => known (instances inst (List.mem_of_getElem? found)).2
    counted := fun number inst found => (instances inst (List.mem_of_getElem? found)).1
    cancel_known := known cancels
    remembers := by decide +kernel }

end Relay

namespace Engine

/-- The visit that follows the trip is forsaken at once. -/
theorem forsaken_of_followUp_relay :
    Relay.ready.FollowUp Relay.after 1 ∧ Relay.after.Forsakes 1 := by
  have single : Relay.ready.Single := by
    show ∀ handle ∈ Relay.ready.dispatcher.handles, handle.listeners.length ≤ 1
    decide +kernel
  have returned : perform Relay.host (.complete (.dict [])) Relay.ready = .ok .done Relay.after :=
    rfl
  exact ⟨Relay.followUp, forsaken_of_followUp Relay.followsUp Relay.grounded single rfl returned
    Relay.followUp⟩

/-- The trip ends normally, and its acceptor is given back the visit.  The visit is neither current
nor suspended then, and the idle engine waits for its stage. -/
theorem lost_relay :
    (Trace.take (perform Relay.host) Relay.ready (.complete (.dict []))).outcome.isOk = true ∧
      Relay.ready.FollowUp Relay.after 1 ∧
      Relay.after.instances.map (fun inst => (inst.name, inst.state)) =
        [("Trip", .finished), ("Visit", .running)] ∧
      Relay.after.current = none ∧ Relay.after.suspended = [] ∧ Relay.after.held = some 1 ∧
      Relay.after.dispatcher.handles.map (fun handle => (handle.finished, handle.listeners)) =
        [(true, []), (false, [.controller])] :=
  ⟨by decide +kernel, Relay.followUp, by decide +kernel⟩

end Engine

end Workflow
