import Workflow.Proofs.Grounded

/-!
# Rounds of an exit

An exit goes round by round: the current instance is concluded, and then either nothing is left or
what was put aside last is current again.  `Exit` lists what a round can come to.  Every exit that
may take more rounds than there are suspended entries ends in one of these ways.
-/

namespace Workflow

/-- How a step ends: its failure, if it has one, and the state that it leaves behind. -/
def Engine.ending {α : Type} (step : Engine α) (state : State) : Option Failure × State :=
  match step state with
  | .ok _ reached => (none, reached)
  | .error failure reached => (some failure, reached)

/-- A step ends in the same way whatever answer is made of its own. -/
theorem Engine.ending_bind_pure {α β : Type} (step : Engine α) (answer : α → β) (state : State) :
    ending (step >>= fun answered => pure (answer answered)) state = ending step state := by
  simp only [ending, bind_apply]
  cases step state <;> rfl

namespace State

/-- The state in which the acceptor of a finishing instance is about to be asked. -/
def exiting (state : State) (number : Nat) (inst : Instance) : State :=
  (state.changing number fun inst => { inst with state := .finished }).reporting
    [.exiting number inst.name inst.stage]

/-- The state in which what was put aside last is current again with the given values, and `rest`
is left. -/
def restored (state : State) (number : Nat) (inst : Instance) (rest : List (Option Nat))
    (values : ValueMap) : State :=
  ((state.recalled number inst rest).editing number fun _ => values).reporting
    [.restoring number inst.name inst.stage]

theorem Grounded.exiting {state : State} (grounded : state.Grounded) (number : Nat)
    (inst : Instance) : (state.exiting number inst).Grounded := by
  have marked : (state.changing number fun inst => { inst with state := .finished }).Grounded :=
    grounded.changing number (fun _ => rfl) fun _ counted => counted
  exact marked.reporting _

end State

namespace Engine

variable {host : Host} {state : State} {number : Nat} {inst : Instance}

/-- Marks the current instance as finished and asks its acceptor what it contributes. -/
def conclude (host : Host) : Engine Value := do
  let number ← currentNumber
  let definition ← definitionOf number
  modifyInstance number fun inst => { inst with state := .finished }
  let finishing ← instanceAt number
  note (.exiting number finishing.name finishing.stage)
  let (_, contribution) ← consult host definition.acceptor number .accept (.values number)
  return contribution

/-- Makes what was put aside last current again with a contribution, and tells whether it is over
as well. -/
def resume (contribution : Value) : Engine Bool := do
  let entry ← Suspension.pop
  modify fun state => { state with current := entry }
  let resumed ← currentNumber
  editValues resumed (ValueMap.merge contribution)
  let inst ← instanceAt resumed
  note (.restoring resumed inst.name inst.stage)
  let definition ← definitionOf resumed
  return definition.isCompleteAt inst.stage

/-- Shows and runs nothing any more. -/
def comeToRest : Engine Unit := do
  modify fun state => { state with current := none }
  deactivate
  note .idle

theorem exit_succ (host : Host) (bound : Nat) :
    exit host (bound + 1) = (do
      let contribution ← conclude host
      if (← get).suspended.isEmpty then comeToRest
      else if ← resume contribution then exit host bound else startStage) := by
  simp only [exit, conclude, resume, comeToRest, bind_assoc, pure_bind]

theorem conclude_apply {definition : Definition} (runs : state.Runs number inst definition) :
    conclude host state =
      (do
        let (_, contribution) ← consult host definition.acceptor number .accept (.values number)
        return contribution : Engine Value) (state.exiting number inst) := by
  have finishing : instanceAt number
      { state with
        instances := state.instances.modify number fun inst => { inst with state := .finished } } =
      .ok { inst with state := .finished } { state with
        instances := state.instances.modify number fun inst => { inst with state := .finished } } :=
    instanceAt_apply (by simp [runs.found])
  simp only [conclude, bind_apply, currentNumber_apply runs.current,
    definitionOf_apply runs.found, runs.defined, lift_ok, modifyInstance_apply, finishing,
    note_apply]
  rfl

theorem comeToRest_apply (state : State) : comeToRest state = .ok () state.rested := by
  simp [comeToRest, bind_apply, deactivate_apply, State.rested]

theorem resume_apply {contribution : Value} {rest : List (Option Nat)} {definition : Definition}
    (top : state.suspended = some number :: rest) (found : state.instances[number]? = some inst)
    (defined : Registry.get state.registry inst.name = .ok definition) :
    resume contribution state =
      match ValueMap.merge contribution inst.values with
      | .ok () values =>
        .ok (definition.isCompleteAt inst.stage) (state.restored number inst rest values)
      | .error fault values =>
        .error (.value fault)
          ((state.recalled number inst rest).editing number fun _ => values) := by
  have there : (state.recalled number inst rest).instances[number]? = some inst := found
  have edited := editValues_apply there (ValueMap.merge contribution)
  simp only [State.recalled] at edited
  simp only [resume, bind_apply, pop_apply top found, modify_apply, currentNumber, get_apply,
    pure_apply, edited]
  cases ValueMap.merge contribution inst.values with
  | error fault values => rfl
  | ok answer values =>
      simp [instanceAt, definitionOf, bind_apply, found, defined, State.restored,
        State.recalled, State.editing, State.changing, State.reporting]

/-- The current instance was concluded: it was marked as finished, and its acceptor answered. -/
structure Concluded (host : Host) (state : State) (number : Nat) (inst : Instance)
    (definition : Definition) (contribution : Value) (answered : State) : Prop
    extends state.Runs number inst definition where
  asked : ∃ other, consult host definition.acceptor number .accept (.values number)
    (state.exiting number inst) = .ok (other, contribution) answered

/-- What was put aside last takes over a contribution; `rest` is left. -/
structure Restoring (answered : State) (contribution : Value) (number : Nat) (inst : Instance)
    (rest : List (Option Nat)) (definition : Definition) (values : ValueMap) : Prop where
  lastAside : answered.suspended = some number :: rest
  found : answered.instances[number]? = some inst
  defined : Registry.get answered.registry inst.name = .ok definition
  merged : ValueMap.merge contribution inst.values = .ok () values

theorem Restoring.onTop {answered : State} {contribution : Value} {rest : List (Option Nat)}
    {definition : Definition} {values : ValueMap}
    (restoring : Restoring answered contribution number inst rest definition values) :
    some number ∈ answered.suspended := by
  rw [restoring.lastAside]
  exact List.mem_cons_self

/-- The ways in which an exit can end. -/
inductive Exit (host : Host) : State → Option Failure × State → Prop where
  /-- The acceptor of the current instance does not answer. -/
  | unanswered {state : State} {number : Nat} {inst : Instance} {definition : Definition}
      {failure : Failure} {reached : State} (runs : state.Runs number inst definition)
      (asked : consult host definition.acceptor number .accept (.values number)
        (state.exiting number inst) = .error failure reached) :
      Exit host state (some failure, reached)
  /-- Nothing is left that could go on. -/
  | rested {state answered : State} {number : Nat} {inst : Instance} {definition : Definition}
      {contribution : Value}
      (concluded : Concluded host state number inst definition contribution answered)
      (empty : answered.suspended = []) :
      Exit host state (none, answered.rested)
  /-- What was put aside last cannot take over all of the contribution. -/
  | unmerged {state answered : State} {number top : Nat} {inst resumed : Instance}
      {definition : Definition} {contribution : Value} {rest : List (Option Nat)}
      {fault : ValueFault} {values : ValueMap}
      (concluded : Concluded host state number inst definition contribution answered)
      (lastAside : answered.suspended = some top :: rest)
      (there : answered.instances[top]? = some resumed)
      (merged : ValueMap.merge contribution resumed.values = .error fault values) :
      Exit host state
        (some (.value fault), (answered.recalled top resumed rest).editing top fun _ => values)
  /-- What was put aside last was over already, so it exits as well. -/
  | continued {state answered : State} {number top : Nat} {inst resumed : Instance}
      {definition next : Definition} {contribution : Value} {rest : List (Option Nat)}
      {values : ValueMap} {result : Option Failure × State}
      (concluded : Concluded host state number inst definition contribution answered)
      (restoring : Restoring answered contribution top resumed rest next values)
      (past : next.isCompleteAt resumed.stage = true)
      (further : Exit host (answered.restored top resumed rest values) result) :
      Exit host state result
  /-- What was put aside last goes on at its stage. -/
  | dispatched {state answered : State} {number top : Nat} {inst resumed : Instance}
      {definition next : Definition} {contribution : Value} {rest : List (Option Nat)}
      {values : ValueMap}
      (concluded : Concluded host state number inst definition contribution answered)
      (restoring : Restoring answered contribution top resumed rest next values)
      (unfinished : next.isCompleteAt resumed.stage = false) :
      Exit host state (ending startStage (answered.restored top resumed rest values))

/-- What concluding an instance leaves as it was, and what it does to the stack and the journal: the
acceptor is called once, and it may be the decision that gives up what was put aside last. -/
structure Conclusion (state : State) (number : Nat) (inst : Instance) (definition : Definition)
    (answered : State) : Prop where
  settings : answered.settings = state.settings
  registry : answered.registry = state.registry
  current : answered.current = state.current
  dispatcher : answered.dispatcher = state.dispatcher
  held : answered.held = state.held
  others : ∀ other, other ≠ number → answered.instances[other]? = state.instances[other]?
  own : ∃ values,
    answered.instances[number]? = some { inst with state := .finished, values := values }
  length : answered.instances.length = state.instances.length
  moved : ∃ arguments,
    (answered.suspended = state.suspended ∧ ∃ remarks,
      (∀ event ∈ remarks, event.isRemark = true) ∧
      answered.journal = remarks ++
        [.consulted definition.acceptor (some (number, .accept)) arguments,
          .exiting number inst.name inst.stage] ++ state.journal) ∨
    ∃ top name label rest, state.suspended = some top :: rest ∧ answered.suspended = rest ∧
      definition.acceptor = .cancelDecision ∧
      answered.journal = [.abandoned top name, .popped (some top) label rest.length,
        .consulted definition.acceptor (some (number, .accept)) arguments,
        .exiting number inst.name inst.stage] ++ state.journal

/-- Asking the acceptor of the current instance is a consultation about its own values. -/
theorem consultation_accept (contained : host.Contained) (grounded : state.Grounded)
    {definition : Definition} (runs : state.Runs number inst definition) :
    Consultation definition.acceptor number .accept (.values number) (state.exiting number inst)
      (consult host definition.acceptor number .accept (.values number)
        (state.exiting number inst)) := by
  have exiting := grounded.exiting number inst
  apply consultation_consult contained exiting.toNumbered
  intro other same
  cases same
  exact exiting.current_lt number runs.current

theorem Concluded.conclusion (contained : host.Contained) (grounded : state.Grounded)
    {definition : Definition} {contribution : Value} {answered : State}
    (concluded : Concluded host state number inst definition contribution answered) :
    Conclusion state number inst definition answered := by
  obtain ⟨other, asked⟩ := concluded.asked
  have found := concluded.found
  have outcome := consultation_accept contained grounded concluded.toRuns
  rw [asked] at outcome
  cases outcome with
  | answered touched keeps =>
      obtain ⟨edit, remarks, plain, rfl⟩ := touched
      exact {
        settings := rfl, registry := rfl, current := rfl, dispatcher := rfl, held := rfl
        others := by
          intro other different
          simp [Shown.editing, State.editing, State.changing, State.reporting, State.consulting,
            State.exiting, different.symm]
        own := by
          refine ⟨edit inst.values, ?_⟩
          simp [Shown.editing, State.editing, State.changing, State.reporting, State.consulting,
            State.exiting, found]
        length := by
          simp [Shown.editing, State.editing, State.changing, State.reporting, State.consulting,
            State.exiting]
        moved := ⟨_, .inl ⟨rfl, remarks, plain, by
          simp only [Shown.editing, State.editing, State.changing, State.reporting,
            State.consulting, State.exiting, List.append_assoc]
          rfl⟩⟩ }
  | declined single declines lastAside there =>
      exact {
        settings := rfl, registry := rfl, current := rfl, dispatcher := rfl, held := rfl
        others := by
          intro other different
          simp [State.abandoned, State.changing, State.reporting, State.consulting,
            State.exiting, different.symm]
        own := by
          refine ⟨inst.values, ?_⟩
          simp [State.abandoned, State.changing, State.reporting, State.consulting,
            State.exiting, found]
        length := by
          simp [State.abandoned, State.changing, State.reporting, State.consulting,
            State.exiting]
        moved := ⟨_, .inr ⟨_, _, _, _, lastAside, rfl, declines.1, rfl⟩⟩ }

/-- An acceptor that does not answer has done no more than to edit the values that it was shown. -/
theorem unanswered_reached (contained : host.Contained) (grounded : state.Grounded)
    {definition : Definition} {failure : Failure} {reached : State}
    (runs : state.Runs number inst definition)
    (asked : consult host definition.acceptor number .accept (.values number)
      (state.exiting number inst) = .error failure reached) :
    ∃ edit events,
      reached = ((state.exiting number inst).editing number edit).reporting events := by
  have outcome := consultation_accept contained grounded runs
  rw [asked] at outcome
  cases outcome with
  | refused =>
      refine ⟨id, [], ?_⟩
      rw [show (state.exiting number inst).editing number id = state.exiting number inst from
        Shown.editing_id (.values number) _]
      rfl
  | failed touched =>
      obtain ⟨edit, remarks, -, rfl⟩ := touched
      let seen := (Shown.values number).seen (state.exiting number inst)
      refine ⟨edit, remarks ++ [.consulted definition.acceptor (some (number, .accept))
        [.dict seen]], ?_⟩
      rw [State.reporting, State.reporting, List.append_assoc]
      rfl

/-- Concluding an instance leaves no fewer entries suspended than all but the last of them. -/
theorem Conclusion.fewer {definition : Definition} {answered : State}
    (conclusion : Conclusion state number inst definition answered) :
    answered.suspended = state.suspended ∨
      ∃ top, state.suspended = some top :: answered.suspended := by
  obtain ⟨arguments, ⟨same, -⟩ | ⟨top, name, label, rest, before, after, -⟩⟩ := conclusion.moved
  · exact .inl same
  · exact .inr ⟨top, by rw [before, after]⟩

theorem Conclusion.length_suspended_le {definition : Definition} {answered : State}
    (conclusion : Conclusion state number inst definition answered) :
    answered.suspended.length ≤ state.suspended.length := by
  rcases conclusion.fewer with same | ⟨top, before⟩
  · exact Nat.le_of_eq (congrArg List.length same)
  · rw [before]
    exact Nat.le_succ _

theorem Conclusion.grounded {definition : Definition} {answered : State}
    (conclusion : Conclusion state number inst definition answered)
    (found : state.instances[number]? = some inst) (grounded : state.Grounded) :
    answered.Grounded where
  current_lt := by
    rw [conclusion.current, conclusion.length]
    exact grounded.current_lt
  suspended_lt := by
    intro entry member
    rw [conclusion.length]
    apply grounded.suspended_lt
    rcases conclusion.fewer with same | ⟨top, before⟩
    · rwa [← same]
    · rw [before]
      exact List.mem_cons_of_mem _ member
  known := by
    intro other before present
    rw [conclusion.registry]
    by_cases same : other = number
    · subst same
      obtain ⟨values, own⟩ := conclusion.own
      rw [own] at present
      cases present
      exact grounded.known other inst found
    · rw [conclusion.others other same] at present
      exact grounded.known other before present
  counted := by
    intro other before present
    by_cases same : other = number
    · subst same
      obtain ⟨values, own⟩ := conclusion.own
      rw [own] at present
      cases present
      exact grounded.counted other inst found
    · rw [conclusion.others other same] at present
      exact grounded.counted other before present
  cancel_known := by
    rw [conclusion.registry, conclusion.settings]
    exact grounded.cancel_known
  remembers := by
    rw [conclusion.dispatcher]
    exact grounded.remembers

theorem grounded_restored {answered : State} {top : Nat} {rest : List (Option Nat)}
    (grounded : answered.Grounded) (lastAside : answered.suspended = some top :: rest)
    (resumed : Instance) (values : ValueMap) :
    (answered.restored top resumed rest values).Grounded :=
  ((grounded.recalled resumed lastAside).editing top _).reporting _

section Round

variable {answered : State} {definition : Definition} {contribution : Value}

/-- A round whose acceptor answered goes on from the state that the acceptor left. -/
theorem exit_concluded (bound : Nat)
    (concluded : Concluded host state number inst definition contribution answered) :
    ending (exit host (bound + 1)) state =
      ending (do
        if (← get).suspended.isEmpty then comeToRest
        else if ← resume contribution then exit host bound else startStage) answered := by
  obtain ⟨other, asked⟩ := concluded.asked
  rw [ending, exit_succ, bind_apply, conclude_apply concluded.toRuns, bind_apply, asked]
  rfl

/-- A round after which nothing is suspended is the last one. -/
theorem exit_rested (bound : Nat)
    (concluded : Concluded host state number inst definition contribution answered)
    (empty : answered.suspended = []) :
    ending (exit host (bound + 1)) state = (none, answered.rested) := by
  rw [exit_concluded bound concluded]
  simp only [ending, bind_apply, get_apply, empty, List.isEmpty_nil, ↓reduceIte, comeToRest_apply]

/-- A round that resumes an instance goes on with its exit or with its stage. -/
theorem exit_resumed (bound : Nat)
    (concluded : Concluded host state number inst definition contribution answered) {top : Nat}
    {resumed : Instance} {rest : List (Option Nat)} {next : Definition} {values : ValueMap}
    (restoring : Restoring answered contribution top resumed rest next values) :
    ending (exit host (bound + 1)) state =
      if next.isCompleteAt resumed.stage then
        ending (exit host bound) (answered.restored top resumed rest values)
      else ending startStage (answered.restored top resumed rest values) := by
  rw [exit_concluded bound concluded]
  simp only [ending, bind_apply, get_apply, restoring.lastAside, List.isEmpty_cons,
    Bool.false_eq_true, ↓reduceIte,
    resume_apply restoring.lastAside restoring.found restoring.defined, restoring.merged]
  cases next.isCompleteAt resumed.stage <;> rfl

end Round

/-- An exit that may take more rounds than entries are suspended ends in one of the ways of
`Exit`. -/
theorem exit_ending (contained : host.Contained) {bound : Nat} (grounded : state.Grounded)
    (current : state.current = some number) (enough : state.suspended.length < bound) :
    Exit host state (ending (exit host bound) state) := by
  -- Every round takes an entry off the stack, so the bound is never used up.
  induction bound generalizing state number with
  | zero => simp at enough
  | succ bound ih =>
      obtain ⟨inst, definition, runs⟩ := grounded.runs current
      cases asked : consult host definition.acceptor number .accept (.values number)
          (state.exiting number inst) with
      | error failure reached =>
          rw [ending, exit_succ, bind_apply, conclude_apply runs, bind_apply, asked]
          exact .unanswered runs asked
      | ok answer answered =>
          obtain ⟨other, contribution⟩ := answer
          have concluded : Concluded host state number inst definition contribution answered :=
            ⟨runs, other, asked⟩
          have conclusion := concluded.conclusion contained grounded
          have answeredGrounded := conclusion.grounded runs.found grounded
          cases suspended : answered.suspended with
          | nil =>
              rw [exit_rested bound concluded suspended]
              exact .rested concluded suspended
          | cons entry rest =>
              obtain ⟨top, resumed, rfl, there⟩ :=
                answeredGrounded.found_suspended (show entry ∈ _ by simp [suspended])
              obtain ⟨next, nextDefined⟩ := answeredGrounded.known top resumed there
              cases merged : ValueMap.merge contribution resumed.values with
              | error fault values =>
                  rw [exit_concluded bound concluded]
                  simp only [ending, bind_apply, get_apply, suspended, List.isEmpty_cons,
                    Bool.false_eq_true, ↓reduceIte, resume_apply suspended there nextDefined,
                    merged]
                  exact .unmerged concluded suspended there merged
              | ok done values =>
                  have restoring : Restoring answered contribution top resumed rest next values :=
                    ⟨suspended, there, nextDefined, merged⟩
                  rw [exit_resumed bound concluded restoring]
                  cases past : next.isCompleteAt resumed.stage with
                  | false => exact .dispatched concluded restoring past
                  | true =>
                      refine .continued concluded restoring past
                        (ih (grounded_restored answeredGrounded suspended resumed values) rfl ?_)
                      have shorter := conclusion.length_suspended_le
                      simp only [suspended, List.length_cons] at shorter
                      exact Nat.lt_of_lt_of_le shorter (Nat.le_of_lt_succ enough)

end Engine

end Workflow
