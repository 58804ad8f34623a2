import Workflow.Engine.Transition

/-!
# What the parts of a step do

A step of an engine is a program over its state.  The equations here say what the parts that all
steps are made of do to a state, so that a step can be followed from one state to the next without
opening the programs again.
-/

namespace Workflow.Engine

variable {α β : Type}

/-- A step that goes on goes on from where the first part ended; a failure ends it. -/
theorem bind_apply (step : Engine α) (next : α → Engine β) (state : State) :
    (step >>= next) state =
      match step state with
      | .ok answer reached => next answer reached
      | .error failure reached => .error failure reached := by
  simp only [bind, EStateM.bind]
  cases step state <;> rfl

theorem map_apply (change : α → β) (step : Engine α) (state : State) :
    (change <$> step) state =
      match step state with
      | .ok answer reached => .ok (change answer) reached
      | .error failure reached => .error failure reached := by
  simp only [Functor.map, EStateM.map]
  cases step state <;> rfl

@[simp] theorem pure_apply (answer : α) (state : State) :
    (pure answer : Engine α) state = .ok answer state := rfl

@[simp] theorem throw_apply (failure : Failure) (state : State) :
    (throw failure : Engine α) state = .error failure state := rfl

@[simp] theorem get_apply (state : State) :
    (get : Engine State) state = .ok state state := rfl

@[simp] theorem modify_apply (change : State → State) (state : State) :
    (modify change : Engine Unit) state = .ok () (change state) := rfl

@[simp] theorem note_apply (event : Event) (state : State) :
    note event state = .ok () { state with journal := event :: state.journal } := rfl

@[simp] theorem ask_apply (part : State → α) (state : State) :
    ask part state = .ok (part state) state := rfl

@[simp] theorem lift_ok (answer : α) (state : State) :
    lift (.ok answer) state = .ok answer state := rfl

@[simp] theorem lift_error (failure : Failure) (state : State) :
    (lift (.error failure) : Engine α) state = .error failure state := rfl

@[simp] theorem mapError_ok {ε ε' : Type} (change : ε → ε') (answer : α) :
    Except.mapError change (.ok answer) = .ok answer := rfl

@[simp] theorem mapError_error {ε ε' : Type} (change : ε → ε') (fault : ε) :
    (Except.mapError change (.error fault) : Except ε' α) = .error (change fault) := rfl

@[simp] theorem modifyInstance_apply (number : Nat) (change : Instance → Instance)
    (state : State) :
    modifyInstance number change state =
      .ok () { state with instances := state.instances.modify number change } := rfl

@[simp] theorem addInstance_apply (inst : Instance) (state : State) :
    addInstance inst state =
      .ok state.instances.length { state with instances := state.instances ++ [inst] } := by
  simp only [addInstance, bind_apply, get_apply, modify_apply, pure_apply]

theorem instanceAt_apply {state : State} {number : Nat} {inst : Instance}
    (found : state.instances[number]? = some inst) :
    instanceAt number state = .ok inst state := by
  simp [instanceAt, bind_apply, found]

theorem currentNumber_apply {state : State} {number : Nat}
    (current : state.current = some number) :
    currentNumber state = .ok number state := by
  simp [currentNumber, bind_apply, current]

theorem definitionOf_apply {state : State} {number : Nat} {inst : Instance}
    (found : state.instances[number]? = some inst) :
    definitionOf number state = lift (Registry.get state.registry inst.name) state := by
  simp [definitionOf, bind_apply, instanceAt_apply found]

theorem labelOf_apply {state : State} {number : Nat} {inst : Instance}
    (found : state.instances[number]? = some inst) :
    labelOf (some number) state = .ok inst.label state := by
  simp [labelOf, bind_apply, instanceAt_apply found]

/-- An edit of an instance's values is kept, whether or not it comes to its end. -/
theorem editValues_apply {state : State} {number : Nat} {inst : Instance}
    (found : state.instances[number]? = some inst) (edit : Edit Unit) :
    editValues number edit state =
      match edit inst.values with
      | .ok () values =>
        .ok () { state with
          instances := state.instances.modify number fun inst => { inst with values } }
      | .error fault values =>
        .error (.value fault) { state with
          instances := state.instances.modify number fun inst => { inst with values } } := by
  simp only [editValues, bind_apply, instanceAt_apply found]
  cases edit inst.values <;> simp [bind_apply]

end Workflow.Engine
