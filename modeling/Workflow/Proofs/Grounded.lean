import Workflow.Proofs.Containment

/-!
# Grounded states

Steps fail in the middle only where the engine means them to.  What rules out the other failures is
that a state is grounded: nothing in it refers to something that is not there.  Every change that a
step makes keeps a state grounded.
-/

namespace Workflow

/-- What the steps of an engine rely on: numbers refer to instances, whose stages are counted from
the first one, the names of instances and of the built-in workflow are registered, and the
dispatcher exposes the stages that it shows. -/
structure State.Grounded (state : State) : Prop extends state.Numbered where
  known : ∀ (number : Nat) (inst : Instance), state.instances[number]? = some inst →
    ∃ definition, Registry.get state.registry inst.name = .ok definition
  counted : ∀ (number : Nat) (inst : Instance), state.instances[number]? = some inst →
    0 ≤ inst.stage
  cancel_known : ∃ definition,
    Registry.get state.registry state.settings.cancelWorkflow = .ok definition
  remembers : state.dispatcher.remembers = true

/-- An instance is current, and this is the definition that it runs by. -/
structure State.Runs (state : State) (number : Nat) (inst : Instance) (definition : Definition) :
    Prop where
  current : state.current = some number
  found : state.instances[number]? = some inst
  defined : Registry.get state.registry inst.name = .ok definition

theorem State.Runs.unique {state : State} {number other : Nat} {inst again : Instance}
    {definition same : Definition} (runs : state.Runs number inst definition)
    (also : state.Runs other again same) : number = other ∧ inst = again ∧ definition = same := by
  obtain ⟨current, found, defined⟩ := runs
  obtain ⟨currentAgain, foundAgain, definedAgain⟩ := also
  rw [current] at currentAgain
  cases currentAgain
  rw [found] at foundAgain
  cases foundAgain
  rw [defined] at definedAgain
  cases definedAgain
  exact ⟨rfl, rfl, rfl⟩

namespace State.Grounded

variable {state : State}

theorem runs (grounded : state.Grounded) {number : Nat} (current : state.current = some number) :
    ∃ inst definition, state.Runs number inst definition := by
  obtain ⟨inst, found⟩ := grounded.found_current current
  obtain ⟨definition, defined⟩ := grounded.known number inst found
  exact ⟨inst, definition, current, found, defined⟩

theorem reporting (grounded : state.Grounded) (events : List Event) :
    (state.reporting events).Grounded :=
  { grounded with }

theorem changing (grounded : state.Grounded) (number : Nat) {change : Instance → Instance}
    (keepsName : ∀ inst, (change inst).name = inst.name)
    (counts : ∀ inst, 0 ≤ inst.stage → 0 ≤ (change inst).stage) :
    (state.changing number change).Grounded where
  current_lt := by simpa [State.changing] using grounded.current_lt
  suspended_lt := by simpa [State.changing] using grounded.suspended_lt
  known := by
    intro other inst found
    obtain ⟨before, old, rfl⟩ := State.found_changing found
    obtain ⟨definition, defined⟩ := grounded.known other before old
    refine ⟨definition, ?_⟩
    split
    · simpa [State.changing, keepsName] using defined
    · exact defined
  counted := by
    intro other inst found
    obtain ⟨before, old, rfl⟩ := State.found_changing found
    split
    · exact counts before (grounded.counted other before old)
    · exact grounded.counted other before old
  cancel_known := grounded.cancel_known
  remembers := grounded.remembers

theorem editing (grounded : state.Grounded) (number : Nat) (edit : ValueMap → ValueMap) :
    (state.editing number edit).Grounded :=
  grounded.changing number (fun _ => rfl) fun _ counted => counted

/-- What was put aside last may become the current instance again. -/
theorem recalled (grounded : state.Grounded) {number : Nat} (inst : Instance)
    {rest : List (Option Nat)} (lastAside : state.suspended = some number :: rest) :
    (state.recalled number inst rest).Grounded :=
  { grounded with
    current_lt := by
      intro other same
      cases same
      obtain ⟨found, same, inRange⟩ :=
        grounded.suspended_lt (some number) (by rw [lastAside]; exact List.mem_cons_self)
      cases same
      exact inRange
    suspended_lt := by
      intro entry member
      apply grounded.suspended_lt entry
      rw [lastAside]
      exact List.mem_cons_of_mem _ member }

theorem detached (grounded : state.Grounded) : state.detached.Grounded :=
  { grounded with
    remembers := by
      simp only [State.detached]
      split <;> exact grounded.remembers }

theorem dispatched (grounded : state.Grounded) (stage : String)
    (arguments : Option (List String)) : (state.dispatched stage arguments).Grounded :=
  { grounded with }

theorem forwarded (grounded : state.Grounded) (number : Nat) (values : ValueMap)
    (events : List Event) : (state.forwarded number values events).Grounded := by
  have moved : (state.changing number fun inst =>
      { inst with values, stage := inst.stage + 1 }).Grounded := by
    apply grounded.changing number
    · intro inst
      rfl
    · intro inst counted
      exact Int.add_nonneg counted (by decide)
  exact moved.reporting events

theorem asided (grounded : state.Grounded) {number : Nat} {inst : Instance}
    (found : state.instances[number]? = some inst) : (state.asided number inst).Grounded :=
  { grounded with
    suspended_lt := by
      intro entry member
      rcases List.mem_cons.mp member with same | earlier
      · exact ⟨number, same, (List.getElem?_eq_some_iff.mp found).1⟩
      · exact grounded.suspended_lt entry earlier }

theorem begun (grounded : state.Grounded) {invocation : Invocation} {definition : Definition}
    (defined : Registry.get state.registry invocation.name = .ok definition) :
    (state.begun invocation).Grounded where
  current_lt := by
    intro number same
    cases same
    simp [State.begun]
  suspended_lt := by
    intro entry member
    obtain ⟨number, same, inRange⟩ := grounded.suspended_lt entry member
    refine ⟨number, same, ?_⟩
    simp only [State.begun, List.length_append]
    exact Nat.lt_add_right _ inRange
  known := by
    intro number inst found
    rcases State.found_begun found with old | ⟨-, rfl⟩
    · exact grounded.known number inst old
    · exact ⟨definition, defined⟩
  counted := by
    intro number inst found
    rcases State.found_begun found with old | ⟨-, rfl⟩
    · exact grounded.counted number inst old
    · exact Int.le_refl 0
  cancel_known := grounded.cancel_known
  remembers := grounded.remembers

theorem diverted (grounded : state.Grounded) {number : Nat} {inst : Instance}
    {invocation : Invocation} {definition : Definition}
    (found : state.instances[number]? = some inst)
    (defined : Registry.get state.registry invocation.name = .ok definition) :
    (state.diverted number inst invocation).Grounded :=
  (grounded.detached.asided found).begun defined

end State.Grounded

end Workflow
