import Workflow.Proofs.Account

/-!
# What lasts

Whatever becomes of an operation, some things stay: how the engine was set up, which workflow an
instance runs, and everything that was ever taken down in the journal.  Only registrations change
the registry, and only exits let instances depart.
-/

namespace Workflow

namespace State

/-- The settings and the names of instances are the same, and the journal only grew. -/
structure Lasts (before after : State) : Prop where
  settings : after.settings = before.settings
  named : ∀ (number : Nat) (inst : Instance), before.instances[number]? = some inst →
    ∃ later, after.instances[number]? = some later ∧ later.name = inst.name
  journal : before.journal <:+ after.journal

namespace Lasts

variable {before middle after : State}

theorem of_same (settings : after.settings = before.settings)
    (instances : after.instances = before.instances) (journal : before.journal <:+ after.journal) :
    before.Lasts after where
  settings := settings
  named := by
    intro number inst found
    exact ⟨inst, instances ▸ found, rfl⟩
  journal := journal

theorem refl (state : State) : state.Lasts state :=
  of_same rfl rfl (List.suffix_refl _)

theorem trans (earlier : before.Lasts middle) (later : middle.Lasts after) :
    before.Lasts after where
  settings := later.settings.trans earlier.settings
  named := by
    intro number inst found
    obtain ⟨between, there, same⟩ := earlier.named number inst found
    obtain ⟨last, present, also⟩ := later.named number between there
    exact ⟨last, present, also.trans same⟩
  journal := earlier.journal.trans later.journal

/-- What departed has departed. -/
theorem departed (lasts : before.Lasts after) {departure : Departure}
    (member : departure ∈ before.departures) : departure ∈ after.departures :=
  (lasts.journal.filterMap _).subset member

end Lasts

variable (state : State)

theorem lasts_reporting (events : List Event) : state.Lasts (state.reporting events) :=
  .of_same rfl rfl (List.suffix_append _ _)

theorem lasts_changing (number : Nat) {change : Instance → Instance}
    (keepsName : ∀ inst, (change inst).name = inst.name) :
    state.Lasts (state.changing number change) where
  settings := rfl
  named := by
    intro other inst found
    refine ⟨if number = other then change inst else inst, ?_, ?_⟩
    · simp only [changing, List.getElem?_modify, found]
      split <;> rfl
    · split
      · exact keepsName inst
      · rfl
  journal := List.suffix_refl _

theorem lasts_editing (number : Nat) (edit : ValueMap → ValueMap) :
    state.Lasts (state.editing number edit) :=
  state.lasts_changing number fun _ => rfl

theorem lasts_detached : state.Lasts state.detached :=
  .of_same rfl rfl (List.suffix_refl _)

theorem lasts_finishing (number : Nat) : state.Lasts (state.finishing number) :=
  .of_same rfl rfl (List.suffix_refl _)

theorem lasts_forwarded (number : Nat) (values : ValueMap) (events : List Event) :
    state.Lasts (state.forwarded number values events) := by
  have moved : state.Lasts
      (state.changing number fun inst => { inst with values, stage := inst.stage + 1 }) :=
    state.lasts_changing number fun _ => rfl
  exact moved.trans (lasts_reporting _ events)

theorem lasts_dispatched (stage : String) (arguments : Option (List String)) :
    state.Lasts (state.dispatched stage arguments) :=
  .of_same rfl rfl ((List.suffix_cons _ _).trans (List.suffix_append _ _))

theorem lasts_asided (number : Nat) (inst : Instance) :
    state.Lasts (state.asided number inst) :=
  .of_same rfl rfl (List.suffix_append [_, _] _)

theorem lasts_begun (invocation : Invocation) : state.Lasts (state.begun invocation) where
  settings := rfl
  named := by
    intro number inst found
    exact ⟨inst, List.getElem?_append_left (List.getElem?_eq_some_iff.mp found).1 ▸ found, rfl⟩
  journal := List.suffix_cons _ _

theorem lasts_diverted (number : Nat) (inst : Instance) (invocation : Invocation) :
    state.Lasts (state.diverted number inst invocation) :=
  state.lasts_detached.trans
    ((state.detached.lasts_asided number inst).trans (lasts_begun _ invocation))

theorem lasts_rested : state.Lasts state.rested :=
  .of_same rfl rfl
    (((List.suffix_cons _ _).trans (List.suffix_append _ _)).trans (List.suffix_cons _ _))

theorem lasts_recalled (number : Nat) (inst : Instance) (rest : List (Option Nat)) :
    state.Lasts (state.recalled number inst rest) :=
  .of_same rfl rfl (List.suffix_cons _ _)

theorem lasts_restored (number : Nat) (inst : Instance) (rest : List (Option Nat))
    (values : ValueMap) : state.Lasts (state.restored number inst rest values) :=
  ((state.lasts_recalled number inst rest).trans (lasts_editing _ number _)).trans
    (lasts_reporting _ _)

end State

namespace Engine

variable {host : Host} {state : State} {number : Nat} {inst : Instance} {definition : Definition}

theorem Conclusion.lasts {answered : State} (found : state.instances[number]? = some inst)
    (conclusion : Conclusion state number inst definition answered) : state.Lasts answered where
  settings := conclusion.settings
  named := by
    intro other before present
    by_cases same : other = number
    · subst same
      cases found.symm.trans present
      obtain ⟨values, own⟩ := conclusion.own
      exact ⟨_, own, rfl⟩
    · exact ⟨before, (conclusion.others other same).trans present, rfl⟩
  journal := conclusion.journal_suffix

theorem Started.lasts {result : Option Failure × State} (started : state.Started result) :
    state.Lasts result.2 := by
  cases started with
  | dispatched stands => exact state.lasts_dispatched _ _
  | failed => exact .refl state

theorem lasts_round (contained : host.Contained) (grounded : state.Grounded) {answered : State}
    {top : Nat} {resumed : Instance} {rest : List (Option Nat)} {contribution : Value}
    (values : ValueMap)
    (concluded : Concluded host state number inst definition contribution answered) :
    state.Lasts (answered.restored top resumed rest values) :=
  ((concluded.conclusion contained grounded).lasts concluded.found).trans
    (answered.lasts_restored top resumed rest values)

theorem Exit.lasts (contained : host.Contained) {result : Option Failure × State}
    (exits : Exit host state result) (poised : state.Poised) : state.Lasts result.2 := by
  induction exits with
  | @unanswered state number inst definition failure reached runs asked =>
      obtain ⟨edit, events, rfl⟩ := unanswered_reached contained poised.toGrounded runs asked
      have marked : state.Lasts
          (state.changing number fun inst => { inst with state := .finished }) :=
        state.lasts_changing number fun _ => rfl
      have exiting : state.Lasts (state.exiting number inst) :=
        marked.trans (State.lasts_reporting _ _)
      exact (exiting.trans (State.lasts_editing _ number edit)).trans (State.lasts_reporting _ _)
  | @rested state answered number inst definition contribution concluded empty =>
      have conclusion := concluded.conclusion contained poised.toGrounded
      exact (conclusion.lasts concluded.found).trans answered.lasts_rested
  | @unmerged state answered number top inst resumed definition contribution rest fault values
      concluded lastAside there merged =>
      have conclusion := concluded.conclusion contained poised.toGrounded
      have edited := (answered.recalled top resumed rest).lasts_editing top fun _ => values
      exact (conclusion.lasts concluded.found).trans
        ((answered.lasts_recalled top resumed rest).trans edited)
  | @continued state answered number top inst resumed definition next contribution rest values
      result concluded restoring past further ih =>
      exact (lasts_round contained poised.toGrounded values concluded).trans
        (ih (poised_round contained poised concluded restoring))
  | @dispatched state answered number top inst resumed definition next contribution rest values
      concluded restoring unfinished =>
      exact (lasts_round contained poised.toGrounded values concluded).trans
        (Started.lasts (started_round contained poised concluded restoring))

theorem Forwarded.lasts {reached : State}
    (forwarded : state.Forwarded number inst definition reached) : state.Lasts reached := by
  cases forwarded with
  | last quiet past => exact state.lasts_forwarded _ _ _
  | @dispatched values earlier later stage arguments quietBefore quietAfter there =>
      exact ((state.lasts_forwarded number values earlier).trans
        (State.lasts_dispatched _ stage.name arguments)).trans (State.lasts_reporting _ later)

theorem Completion.lasts (contained : host.Contained) {result : Option Failure × State}
    (completion : Completion host state result) (poised : state.Poised) :
    state.Lasts result.2 := by
  cases completion with
  | unjudged quiet => exact state.lasts_reporting _
  | unworded stands quiet => exact (state.lasts_reporting _).trans (State.lasts_asided _ _ _)
  | prompted stands quiet named started =>
      exact ((state.lasts_reporting _).trans (State.lasts_diverted _ _ _ _)).trans
        (Started.lasts started)
  | stuck stands quiet => exact state.lasts_forwarded _ _ _
  | misdirected stands forwarded => exact Forwarded.lasts forwarded
  | redirected stands forwarded found known quiet started =>
      exact (((Forwarded.lasts forwarded).trans (State.lasts_reporting _ _)).trans
        (State.lasts_diverted _ _ _ _)).trans (Started.lasts started)
  | carried stands forwarded unfinished => exact Forwarded.lasts forwarded
  | ended stands quiet past exits =>
      exact (state.lasts_forwarded _ _ _).trans (exits.lasts contained (poised.forwarded _ _ _))

theorem Passage.lasts (contained : host.Contained) {operation : Operation}
    {result : Option Failure × State} (passage : Passage host state operation result)
    (sound : state.Sound) : state.Lasts result.2 := by
  cases passage with
  | refused refusal => exact .refl state
  | registered quiet kept => exact .of_same rfl rfl (List.suffix_append _ _)
  | @invoked source force invocation reached admitted started =>
      have began := state.lasts_detached.trans (state.detached.lasts_begun invocation)
      exact (began.trans (Started.lasts started)).trans (State.lasts_reporting _ _)
  | stranded admitted => exact state.lasts_detached.trans (state.detached.lasts_begun _)
  | unheard completed unheld => exact state.lasts_finishing _
  | @completed operation number result completed held completion =>
      exact ((state.lasts_finishing number).trans (State.lasts_detached _)).trans
        (completion.lasts contained (poised_finishing sound held))

theorem lasts_final (contained : host.Contained) (sound : state.Sound)
    {operations : List Operation}
    (controls : ∀ operation ∈ operations, operation.controls = true) :
    state.Lasts (Trace.final (perform host) state operations) := by
  refine invariant_final contained sound controls state.Lasts ?_ (.refl state)
  intro operation member before result sound passage lasts
  exact lasts.trans (passage.lasts contained sound)

theorem Forwarded.registry {reached : State}
    (forwarded : state.Forwarded number inst definition reached) :
    reached.registry = state.registry := by
  cases forwarded <;> rfl

theorem Completion.registry (contained : host.Contained) {result : Option Failure × State}
    (completion : Completion host state result) (poised : state.Poised) :
    result.2.registry = state.registry := by
  cases completion with
  | unjudged quiet => rfl
  | unworded stands quiet => rfl
  | prompted stands quiet named started =>
      have registry := started_registry started
      exact registry
  | stuck stands quiet => rfl
  | misdirected stands forwarded => exact Forwarded.registry forwarded
  | redirected stands forwarded found known quiet started =>
      have registry := started_registry started
      have moved := Forwarded.registry forwarded
      exact registry.trans moved
  | carried stands forwarded unfinished => exact Forwarded.registry forwarded
  | ended stands quiet past exits => exact exits.registry contained (poised.forwarded _ _ _)

theorem started_departures {result : Option Failure × State} (started : state.Started result) :
    result.2.departures = state.departures := by
  cases started with
  | dispatched stands => exact state.departures_dispatched _ _
  | failed => rfl

theorem Forwarded.departures {reached : State}
    (forwarded : state.Forwarded number inst definition reached) :
    reached.departures = state.departures := by
  cases forwarded with
  | last quiet past => exact State.departures_reporting _ quiet
  | @dispatched values earlier later stage arguments quietBefore quietAfter there =>
      rw [State.departures_reporting _ quietAfter, State.departures_dispatched]
      exact State.departures_reporting _ quietBefore

theorem diverted_departures {invocation : Invocation} {events : List Event}
    (quiet : Event.Quiet events) {result : Option Failure × State}
    (started : ((state.reporting events).diverted number inst invocation).Started result) :
    result.2.departures = state.departures :=
  (started_departures started).trans (state.departures_reporting quiet)

/-- Instances depart in exits only. -/
theorem Completion.exits_of_departed {result : Option Failure × State}
    (completion : Completion host state result)
    (departed : result.2.departures ≠ state.departures) :
    ∃ number inst definition stage values events,
      state.AtStage number inst definition stage ∧ Event.Quiet events ∧
        definition.isCompleteAt (inst.stage + 1) = true ∧
          Exit host (state.forwarded number values events) result := by
  cases completion with
  | unjudged quiet => exact absurd (state.departures_reporting quiet) departed
  | unworded stands quiet => exact absurd (state.departures_reporting quiet) departed
  | prompted stands quiet named started =>
      exact absurd (diverted_departures quiet started) departed
  | stuck stands quiet => exact absurd (State.departures_reporting _ quiet) departed
  | misdirected stands forwarded => exact absurd (Forwarded.departures forwarded) departed
  | redirected stands forwarded found known quiet started =>
      have moved := Forwarded.departures forwarded
      exact absurd ((diverted_departures quiet started).trans moved) departed
  | carried stands forwarded unfinished => exact absurd (Forwarded.departures forwarded) departed
  | ended stands quiet past exits => exact ⟨_, _, _, _, _, _, stands, quiet, past, exits⟩

/-- An operation in which an instance departs completes the stage that the engine waited for, which
was the last one of the current instance. -/
theorem Passage.exits_of_departed {operation : Operation} {result : Option Failure × State}
    (passage : Passage host state operation result)
    (departed : result.2.departures ≠ state.departures) :
    ∃ place number inst definition stage values events, state.held = some place ∧
      (state.finishing place).detached.AtStage number inst definition stage ∧ Event.Quiet events ∧
        definition.isCompleteAt (inst.stage + 1) = true ∧
          Exit host ((state.finishing place).detached.forwarded number values events) result := by
  cases passage with
  | refused refusal => exact absurd rfl departed
  | registered quiet kept => exact absurd (state.departures_reporting quiet) departed
  | @invoked source force invocation reached admitted started =>
      have quiet : Event.Quiet [.returned state.instances.length] := rfl
      have reported := reached.departures_reporting quiet
      exact absurd (reported.trans (started_departures started)) departed
  | stranded admitted => exact absurd rfl departed
  | unheard completed unheld => exact absurd rfl departed
  | completed completed held completion =>
      obtain ⟨current, inst, definition, stage, values, events, exits⟩ :=
        completion.exits_of_departed departed
      exact ⟨_, current, inst, definition, stage, values, events, held, exits⟩

end Engine

end Workflow
