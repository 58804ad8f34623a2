import Workflow.Proofs.Course
import Workflow.Proofs.Guarded
import Workflow.Proofs.Storing
import Workflow.Proofs.Tally

/-!
# Routine steps

Whatever an engine does between two calls of hooks is made of a few kinds of steps.  Most of them
leave alone what runs, what is suspended and the instances.  `Routine` lists all of them, so that
whatever they keep is kept by every part of the engine that calls no hook.
-/

namespace Workflow

/-- Nothing moves, and the journal says no less than before. -/
structure State.Steady (before after : State) : Prop extends before.Still after where
  journal : before.journal <:+ after.journal

theorem State.Steady.of_same {before after : State} (current : after.current = before.current)
    (suspended : after.suspended = before.suspended)
    (instances : after.instances = before.instances) (journal : after.journal = before.journal) :
    before.Steady after :=
  ⟨⟨current, suspended, instances⟩, journal ▸ List.suffix_rfl⟩

namespace Engine

variable {α β : Type}

/-- A step that calls no hook.  What runs changes when a workflow begins, when one is taken up again
and when everything is over; what is suspended changes when the current workflow is put aside and
when an entry is taken back. -/
inductive Routine : {α : Type} → Engine α → Prop where
  | answer {α : Type} (answer : α) : Routine (pure answer)
  | fail {α : Type} (failure : Failure) : Routine (throw failure : Engine α)
  | look : Routine (get : Engine State)
  | change (change : State → State) (steady : ∀ state, State.Steady state (change state)) :
      Routine (modify change)
  | begin (invocation : Invocation) : Routine (do
      let number ← addInstance (.ofInvocation invocation)
      modify fun state => { state with current := some number }
      return number)
  | mark (number : Nat) (change : Instance → Instance)
      (same : ∀ inst, (change inst).name = inst.name ∧ (change inst).arguments = inst.arguments ∧
        (change inst).values = inst.values) : Routine (modifyInstance number change)
  | edit (number : Nat) (command : ValueCommand) : Routine (editValues number command.edit)
  | aside : Routine (do Suspension.push (← get).current)
  | take : Routine Suspension.pop
  | regain : Routine (do
      let entry ← Suspension.pop
      modify fun state => { state with current := entry })
  | rest : Routine (modify fun state => { state with current := none })
  | bind {α β : Type} {step : Engine α} {next : α → Engine β} (routine : Routine step)
      (further : ∀ answer, Routine (next answer)) : Routine (step >>= next)

/-- A routine step is a guarded one. -/
theorem Routine.guarded {step : Engine α} (routine : Routine step) : Guarded step := by
  induction routine with
  | answer answer => exact .answer answer
  | fail failure => exact .fail failure
  | look => exact .look
  | change change steady => exact .change change fun state => (steady state).instances
  | begin invocation =>
      exact (Guarded.begin invocation).bind fun _ => .bind (.change _ fun _ => rfl) fun _ =>
        .answer _
  | mark number change same => exact .mark number change fun inst => (same inst).2.2
  | edit number command => exact .edit number command
  | aside => exact .bind .look fun _ => guarded_push _
  | take => exact guarded_pop
  | regain => exact guarded_pop.bind fun _ => .change _ fun _ => rfl
  | rest => exact .change _ fun _ => rfl
  | bind routine further first rest => exact first.bind rest

/-! ## What routine steps come to -/

/-- However an edit of values ends, it did nothing but change the values of one instance. -/
theorem outcomeOf_editValues (number : Nat) (edit : Edit Unit) (state : State) :
    ∃ change, (Trace.outcomeOf (editValues number edit) state).2 = state.editing number change := by
  cases found : state.instances[number]? with
  | none =>
      refine ⟨id, ?_⟩
      simp only [Trace.outcomeOf, editValues, instanceAt, bind_apply, get_apply, found, throw_apply]
      exact congrArg (fun instances => { state with instances })
        (List.modify_id number state.instances).symm
  | some inst =>
      rw [Trace.outcomeOf, editValues_apply found]
      cases edit inst.values with
      | ok answer values => exact ⟨fun _ => values, rfl⟩
      | error fault values => exact ⟨fun _ => values, rfl⟩

theorem outcomeOf_labelOf (entry : Option Nat) (state : State) :
    (Trace.outcomeOf (labelOf entry) state).2 = state := by
  cases entry with
  | none => rfl
  | some number =>
      simp only [Trace.outcomeOf, labelOf, instanceAt, bind_apply, get_apply]
      cases state.instances[number]? <;> rfl

/-- Whatever is current, or nothing, is put aside. -/
theorem outcomeOf_aside (state : State) : ∃ journal, state.journal <:+ journal ∧
    (Trace.outcomeOf (do Suspension.push (← get).current) state).2 =
      { state with suspended := state.current :: state.suspended, journal } := by
  let pushed := { state with suspended := state.current :: state.suspended }
  have named := outcomeOf_labelOf state.current pushed
  simp only [Trace.outcomeOf, Suspension.push, bind_apply, get_apply, modify_apply] at named ⊢
  cases labelled : labelOf state.current pushed with
  | error failure reached =>
      rw [labelled] at named
      exact ⟨state.journal, List.suffix_rfl, named⟩
  | ok label reached =>
      rw [labelled] at named
      simp only at named
      subst named
      exact ⟨_, List.suffix_cons _ _, rfl⟩

/-- What was put aside last is taken back, if there is anything. -/
theorem outcomeOf_pop (state : State) :
    (Trace.outcomeOf Suspension.pop state).2 = state ∧
        (∀ entry, (Trace.outcomeOf Suspension.pop state).1 ≠ .ok entry) ∨
      ∃ last rest journal, state.suspended = last :: rest ∧ state.journal <:+ journal ∧
        (Trace.outcomeOf Suspension.pop state).2 = { state with suspended := rest, journal } ∧
        ∀ entry, (Trace.outcomeOf Suspension.pop state).1 = .ok entry → entry = last := by
  cases suspended : state.suspended with
  | nil =>
      have failed : Suspension.pop state = .error .nothingToResume state := by
        simp only [Suspension.pop, bind_apply, get_apply, suspended, throw_apply]
      rw [Trace.outcomeOf, failed]
      refine .inl ⟨rfl, ?_⟩
      intro entry answered
      cases answered
  | cons last rest =>
      have named := outcomeOf_labelOf last { state with suspended := rest }
      simp only [Trace.outcomeOf, Suspension.pop, bind_apply, get_apply, suspended, modify_apply]
        at named ⊢
      cases labelled : labelOf last { state with suspended := rest } with
      | error failure reached =>
          rw [labelled] at named
          refine .inr ⟨last, rest, state.journal, rfl, List.suffix_rfl, named, ?_⟩
          intro entry answered
          cases answered
      | ok label reached =>
          rw [labelled] at named
          simp only at named
          subst named
          exact .inr ⟨last, rest, _, rfl, List.suffix_cons _ _, rfl,
            fun entry same => (Except.ok.inj same).symm⟩

/-- What was put aside last is taken back and becomes current, unless its label cannot be told. -/
theorem outcomeOf_regain (state : State) :
    let recalled := (Trace.outcomeOf (do
      let entry ← Suspension.pop
      modify fun state => { state with current := entry } : Engine Unit) state).2
    recalled = state ∨ ∃ last rest journal current, state.suspended = last :: rest ∧
      state.journal <:+ journal ∧ (current = state.current ∨ current = last) ∧
      recalled = { state with current, suspended := rest, journal } := by
  intro recalled
  have taken := outcomeOf_pop state
  simp only [recalled, Trace.outcomeOf, bind_apply] at taken ⊢
  cases popped : Suspension.pop state with
  | error failure reached =>
      rw [popped] at taken
      rcases taken with ⟨same, -⟩ | ⟨last, rest, journal, lastAside, grown, same, -⟩
      · exact .inl same
      · exact .inr ⟨last, rest, journal, state.current, lastAside, grown, .inl rfl, same⟩
  | ok entry reached =>
      rw [popped] at taken
      rcases taken with ⟨-, empty⟩ | ⟨last, rest, journal, lastAside, grown, same, answered⟩
      · exact absurd rfl (empty entry)
      · obtain rfl := answered entry rfl
        simp only at same
        subst same
        exact .inr ⟨entry, rest, journal, entry, lastAside, grown, .inr rfl, rfl⟩

/-! ## What routine steps keep -/

end Engine

/-- How a routine step can change a state: nothing moves, a workflow begins, an instance changes
without becoming another one, what is current is put aside, what was put aside last is taken back
and may become current, or everything comes to rest. -/
inductive State.Move (state : State) : State → Prop where
  | steady {after : State} (steady : state.Steady after) : Move state after
  | begun (invocation : Invocation) : Move state { state with
      instances := state.instances ++ [.ofInvocation invocation]
      current := some state.instances.length }
  | changed (number : Nat) {change : Instance → Instance}
      (same : ∀ inst, (change inst).name = inst.name ∧ (change inst).arguments = inst.arguments) :
      Move state (state.changing number change)
  | aside {journal : List Event} (grown : state.journal <:+ journal) :
      Move state { state with suspended := state.current :: state.suspended, journal }
  | back {last current : Option Nat} {rest : List (Option Nat)} {journal : List Event}
      (lastAside : state.suspended = last :: rest)
      (now : current = state.current ∨ current = last) (grown : state.journal <:+ journal) :
      Move state { state with current, suspended := rest, journal }
  | rested : Move state { state with current := none }

namespace Engine

/-- What no move ends is kept by every routine step. -/
theorem Routine.keeps {kind : State → Prop}
    (kept : ∀ state after, state.Move after → kind state → kind after) {step : Engine α}
    (routine : Routine step) : Trace.Keeps kind step := by
  induction routine with
  | answer answer => exact Trace.keeps_pure answer
  | fail failure => exact Trace.keeps_throw failure
  | look => exact Trace.keeps_of fun _ held => held
  | change change steady => exact Trace.keeps_of fun state => kept _ _ (.steady (steady state))
  | begin invocation =>
      apply Trace.keeps_of
      intro state
      simp only [Trace.outcomeOf, bind_apply, addInstance_apply, modify_apply, pure_apply]
      exact kept _ _ (.begun invocation)
  | mark number change same =>
      exact Trace.keeps_of fun state =>
        kept _ _ (.changed number fun inst => ⟨(same inst).1, (same inst).2.1⟩)
  | edit number command =>
      apply Trace.keeps_of
      intro state
      obtain ⟨change, edited⟩ := outcomeOf_editValues number command.edit state
      rw [edited]
      exact kept _ _ (.changed number fun _ => ⟨rfl, rfl⟩)
  | aside =>
      apply Trace.keeps_of
      intro state
      obtain ⟨journal, grown, pushed⟩ := outcomeOf_aside state
      rw [pushed]
      exact kept _ _ (.aside grown)
  | take =>
      apply Trace.keeps_of
      intro state held
      rcases outcomeOf_pop state with ⟨same, -⟩ | ⟨last, rest, journal, lastAside, grown, taken, -⟩
      · rw [same]
        exact held
      · rw [taken]
        exact kept _ _ (.back lastAside (.inl rfl) grown) held
  | regain =>
      apply Trace.keeps_of
      intro state held
      rcases outcomeOf_regain state with
        same | ⟨last, rest, journal, current, lastAside, grown, now, taken⟩
      · rw [same]
        exact held
      · rw [taken]
        exact kept _ _ (.back lastAside now grown) held
  | rest => exact Trace.keeps_of fun _ => kept _ _ .rested
  | bind routine further first rest => exact first.bind rest

/-! ## Parts that call no hook -/

theorem Routine.ite {condition : Prop} [Decidable condition] {step other : Engine α}
    (routine : Routine step) (also : Routine other) :
    Routine (if condition then step else other) := by
  split
  · exact routine
  · exact also

theorem routine_note (event : Event) : Routine (note event) :=
  .change _ fun _ => ⟨⟨rfl, rfl, rfl⟩, List.suffix_cons _ _⟩

theorem routine_ask (part : State → α) : Routine (ask part) :=
  .bind .look fun _ => .answer _

theorem routine_lift (answer : Except Failure α) : Routine (lift answer) := by
  cases answer with
  | ok answer => exact .answer answer
  | error failure => exact .fail failure

theorem routine_merge (number : Nat) (other : Value) :
    Routine (editValues number (ValueMap.merge other)) := by
  rw [← ValueCommand.edit_merge]
  exact .edit number _

theorem routine_instanceAt (number : Nat) : Routine (instanceAt number) :=
  .bind .look fun state => by
    cases state.instances[number]? with
    | none => exact .fail _
    | some inst => exact .answer inst

theorem routine_currentNumber : Routine currentNumber :=
  .bind .look fun state => by
    cases state.current with
    | none => exact .fail _
    | some number => exact .answer number

theorem routine_definitionOf (number : Nat) : Routine (definitionOf number) :=
  (routine_instanceAt number).bind fun _ => .bind .look fun _ => routine_lift _

theorem routine_stageOf (definition : Definition) (number : Int) :
    Routine (stageOf definition number) := by
  simp only [stageOf]
  cases definition.stage? number with
  | none => exact .fail _
  | some stage => exact .answer stage

theorem routine_display (line : String) : Routine (display line) :=
  .bind .look fun state => by
    cases state.dispatcher.backend with
    | inMemory => exact .answer ()
    | console => exact routine_note _

theorem routine_activate (stage : String) (arguments : Option (List String)) :
    Routine (activate stage arguments) :=
  .bind (.change _ fun _ => .of_same rfl rfl rfl rfl) fun _ => (routine_note _).bind fun _ =>
    routine_display _

theorem routine_deactivate : Routine deactivate :=
  .bind (.change _ fun _ => .of_same rfl rfl rfl rfl) fun _ => (routine_note _).bind fun _ =>
    routine_display _

theorem routine_modifyHandle (number : Nat) (change : Handle Watcher → Handle Watcher) :
    Routine (modifyHandle number change) :=
  .change _ fun _ => .of_same rfl rfl rfl rfl

theorem routine_attach : Routine attach :=
  .bind .look fun state => by
    cases state.dispatcher.current with
    | none => exact .fail _
    | some number =>
        exact (routine_modifyHandle number _).bind fun _ =>
          .change _ fun _ => .of_same rfl rfl rfl rfl

theorem routine_detach : Routine detach :=
  .bind .look fun state => by
    cases state.held with
    | none => exact .answer ()
    | some number =>
        exact (routine_modifyHandle number _).bind fun _ =>
          .change _ fun _ => .of_same rfl rfl rfl rfl

theorem routine_startStage : Routine startStage :=
  routine_currentNumber.bind fun number => (routine_definitionOf number).bind fun definition =>
    (routine_instanceAt number).bind fun inst =>
      (routine_stageOf definition inst.stage).bind fun _ => (routine_lift _).bind fun _ =>
        (routine_activate _ _).bind fun _ => routine_attach

theorem routine_startNext (definition : Definition) (reached : Int) :
    Routine (startNext definition reached) :=
  routine_startStage.ite (.answer ())

theorem routine_requireIdle (force : Bool) : Routine (requireIdle force) :=
  .bind .look fun state => by
    cases state.current with
    | none => exact .answer ()
    | some number =>
        exact (Routine.answer ()).ite ((routine_instanceAt number).bind fun _ => .fail _)

/-- Starting a workflow begins an instance, which becomes the current one. -/
theorem routine_start (invocation : Invocation) : Routine (start invocation) := by
  have begun (number : Nat) : Routine (do
      note (.invoking number invocation)
      startStage
      return number : Engine Nat) :=
    (routine_note _).bind fun _ => routine_startStage.bind fun _ => .answer _
  have starts : Routine (do
      let _ ← lift (Registry.get (← get).registry invocation.name)
      detach
      let number ← (do
        let number ← addInstance (.ofInvocation invocation)
        modify fun state => { state with current := some number }
        return number : Engine Nat)
      note (.invoking number invocation)
      startStage
      return number : Engine Nat) :=
    .bind .look fun _ => (routine_lift _).bind fun _ => routine_detach.bind fun _ =>
      (Routine.begin invocation).bind begun
  simpa only [start, bind_assoc, pure_bind] using starts

theorem routine_invoke (invocation : Invocation) (force : Bool) :
    Routine (invoke invocation force) :=
  (routine_requireIdle force).bind fun _ => routine_start invocation

theorem routine_invokeSource (source : InvocationSource) (force : Bool) :
    Routine (invokeSource source force) := by
  cases source with
  | text text =>
      exact (routine_requireIdle force).bind fun _ => (routine_lift _).bind fun _ =>
        routine_start _
  | fields name arguments => exact (routine_lift _).bind fun _ => routine_invoke _ force

theorem routine_discard : Routine Suspension.discard :=
  Routine.take.bind fun entry => by
    cases entry with
    | none => exact .fail _
    | some number =>
        exact (routine_instanceAt number).bind fun _ => (routine_note _).bind fun _ => .answer _

theorem routine_decideCancel (shown : Shown) : Routine (decideCancel shown) := by
  cases shown with
  | output payload => exact .fail _
  | values number =>
      exact .bind .look fun _ => (routine_instanceAt number).bind fun _ =>
        (routine_lift _).bind fun _ =>
          Routine.ite (routine_discard.bind fun _ => .answer _) (.answer _)

theorem routine_entries (shown : Shown) : Routine shown.entries := by
  cases shown with
  | output payload => exact .answer payload
  | values number => exact (routine_instanceAt number).bind fun _ => .answer _

/-- A change that a command makes is a routine step, on whichever mapping it is made. -/
theorem routine_change (revise : Payload → Except ValueFault Payload) (command : ValueCommand)
    (shown : Shown) : Routine (shown.change revise command.edit) := by
  cases shown with
  | output payload => exact (routine_lift _).bind fun _ => .answer _
  | values number => exact (Routine.edit number command).bind fun _ => .answer _

theorem routine_put (key value : Value) (shown : Shown) : Routine (shown.put key value) := by
  rw [Shown.put, ← ValueCommand.edit_set]
  exact routine_change _ _ shown

theorem routine_remove (key : Value) (shown : Shown) : Routine (shown.remove key) := by
  rw [Shown.remove, ← ValueCommand.edit_delete]
  exact routine_change _ _ shown

/-- What is current is put aside, and stays current. -/
theorem routine_hold : Routine hold := by
  have holds : Routine (do
      Suspension.push (← get).current
      let number ← currentNumber
      note (.holding number (← instanceAt number).name) : Engine Unit) := by
    have put : Routine (do Suspension.push (← get).current) := .aside
    have named : Routine (do
        let number ← currentNumber
        note (.holding number (← instanceAt number).name) : Engine Unit) :=
      routine_currentNumber.bind fun number => (routine_instanceAt number).bind fun _ =>
        routine_note _
    simpa only [bind_assoc] using put.bind fun _ => named
  exact holds

theorem routine_noteRejection (number : Nat) (stageName : Option String) (error : Value) :
    Routine (noteRejection number stageName error) :=
  Routine.ite ((routine_instanceAt number).bind fun _ => routine_note _) (.fail _)

theorem routine_reject (number : Nat) (stageName : Option String) (error : Value) :
    Routine (reject number stageName error) :=
  (routine_noteRejection number stageName error).bind fun _ => routine_hold.bind fun _ =>
    (routine_lift _).bind fun _ => (routine_ask _).bind fun _ =>
      (routine_invoke _ true).bind fun _ => .answer ()

theorem routine_redirect (number : Nat) (stageName : Option String) (target : String)
    (invocation : Invocation) : Routine (redirect number stageName target invocation) :=
  .bind .look fun _ => (routine_lift _).bind fun _ => (routine_instanceAt number).bind fun _ =>
    (routine_note _).bind fun _ => routine_hold.bind fun _ =>
      (routine_invoke invocation true).bind fun _ => .answer ()

theorem routine_comeToRest : Routine comeToRest :=
  .bind .rest fun _ => routine_deactivate.bind fun _ => routine_note _

/-- What was put aside last becomes current, and a contribution is merged into its values. -/
theorem routine_resume (contribution : Value) : Routine (resume contribution) := by
  have recalled : Routine (do
      let resumed ← currentNumber
      editValues resumed (ValueMap.merge contribution)
      let inst ← instanceAt resumed
      note (.restoring resumed inst.name inst.stage)
      let definition ← definitionOf resumed
      return definition.isCompleteAt inst.stage : Engine Bool) :=
    routine_currentNumber.bind fun number => (routine_merge number contribution).bind fun _ =>
      (routine_instanceAt number).bind fun _ => (routine_note _).bind fun _ =>
        (routine_definitionOf number).bind fun _ => .answer _
  simpa only [resume, bind_assoc] using Routine.regain.bind fun _ => recalled

theorem routine_receive : Routine receive :=
  routine_detach.bind fun _ => routine_currentNumber.bind fun number =>
    (routine_definitionOf number).bind fun definition =>
      (routine_instanceAt number).bind fun inst =>
        (routine_stageOf definition inst.stage).bind fun _ => .answer _

/-- An accepted output is merged into the values of the current instance. -/
theorem routine_advance (number : Nat) (definition : Definition) (stageName : Option String)
    (staged : ValueMap) : Routine (advance number definition stageName staged) :=
  (routine_instanceAt number).bind fun _ => (routine_note _).bind fun _ =>
    (routine_merge number _).bind fun _ =>
      (Routine.mark number (fun inst => { inst with stage := inst.stage + 1 })
          fun _ => ⟨rfl, rfl, rfl⟩).bind
        fun _ => (routine_instanceAt number).bind fun _ =>
          (routine_startNext definition _).bind fun _ => .answer _

theorem routine_leave : Routine leave :=
  routine_currentNumber.bind fun number => (routine_definitionOf number).bind fun _ =>
    (Routine.mark number (fun inst => { inst with state := .finished })
          fun _ => ⟨rfl, rfl, rfl⟩).bind
      fun _ => (routine_instanceAt number).bind fun _ => (routine_note _).bind fun _ => .answer _

theorem routine_close (number : Nat) (output : Value) : Routine (close number output) :=
  .bind .look fun state => by
    cases state.dispatcher.handle? number with
    | none => exact .fail _
    | some handle =>
        cases finished : handle.finish? with
        | none =>
            simp only [finished]
            exact .fail _
        | some done =>
            simp only [finished]
            exact (routine_modifyHandle number _).bind fun _ => (routine_lift _).bind fun _ =>
              .answer _

theorem routine_announce (hook : Hook) (asked : Option (Nat × Question))
    (arguments : List Value) : Routine (announce hook asked arguments) := by
  have called : Routine (do
      let journal ← ask State.journal
      note (.consulted hook asked arguments)
      return journal : Engine (List Event)) :=
    (routine_ask _).bind fun _ => (routine_note _).bind fun _ => .answer _
  unfold announce
  exact Routine.ite (.bind (.fail _) fun _ => called) called

theorem routine_register (registration : Registration) : Routine (register registration) := by
  have entered (registry : Registry) (definition : Definition) : Routine (do
      modify fun state => { state with registry }
      note (.registered definition.name definition.stageNames)
      return definition : Engine Definition) :=
    .bind (.change _ fun _ => .of_same rfl rfl rfl rfl) fun _ => (routine_note _).bind fun _ =>
      .answer _
  unfold register
  refine Routine.ite ((routine_note _).bind fun _ => ?_) ?_
  all_goals
    refine (routine_ask _).bind fun before => (routine_lift _).bind fun answer => ?_
    exact Routine.ite ((routine_note _).bind fun _ => entered answer.1 answer.2)
      (entered answer.1 answer.2)

theorem routine_hookOf (host : Host) (source : HookSource) : Routine (hookOf host source) := by
  cases source with
  | default => exact .answer none
  | path path => exact (routine_lift _).bind fun _ => .answer _
  | custom program role name =>
      exact .bind .look fun _ => .bind (.change _ fun _ => .of_same rfl rfl rfl rfl) fun _ =>
        .answer _

theorem routine_hooksOf (host : Host) (sources : List HookSource) :
    Routine (hooksOf host sources) := by
  induction sources with
  | nil => exact .answer []
  | cons source rest ih =>
      exact (routine_hookOf host source).bind fun _ => ih.bind fun _ => .answer _

theorem routine_registerRequested (host : Host) (request : RegistrationRequest) :
    Routine (registerRequested host request) :=
  (routine_hookOf host _).bind fun _ => (routine_hookOf host _).bind fun _ =>
    (routine_hooksOf host _).bind fun _ => routine_register _

theorem routine_registerDeclared (host : Host) (declared : List DeclaredWorkflow) :
    Routine (registerDeclared host declared) := by
  induction declared with
  | nil => exact .answer ()
  | cons first rest ih =>
      exact (routine_lift _).bind fun _ => (routine_register _).bind fun _ => ih

theorem routine_loadAll (host : Host) (document : Value) (path : String) :
    Routine (loadAll host document path) := by
  refine .bind ?_ fun _ => .bind .look fun _ => .answer _
  exact (routine_lift _).bind fun declared => (routine_registerDeclared host declared).bind fun _ =>
    routine_note _

theorem routine_returnedAt (position : Int) : Routine (returnedAt position) := by
  refine (routine_ask State.journal).bind fun journal => ?_
  simp only
  split
  · exact routine_instanceAt _
  · exact .fail _

end Engine

end Workflow
