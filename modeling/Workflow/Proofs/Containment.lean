import Workflow.Engine.Behaviour
import Workflow.Proofs.Successor

/-!
# Hooks that keep to their mapping

A hook may write to the mapping that it is shown, add remarks of its own to the journal and answer
or fail as it likes.  A host is contained if none of its hooks does more than that; in particular
none calls back into the engine.  Consulting a hook of a contained host has few outcomes, and the
built-in decision about a cancelled workflow is the only one that moves anything.
-/

namespace Workflow

/-- What a hook adds to the journal itself: lines that it displays and accounts of what it did. -/
def Event.isRemark : Event → Bool
  | .displayed _ | .performed _ _ => true
  | _ => false

theorem Event.quiet_remarks {remarks : List Event}
    (plain : ∀ event ∈ remarks, event.isRemark = true) : Quiet remarks := by
  apply List.filterMap_eq_nil_iff.mpr
  intro event member
  have remark := plain event member
  cases event <;> first | rfl | cases remark

namespace Shown

/-- The entries that a hook is shown in a state. -/
def seen (shown : Shown) (state : State) : List (Value × Value) :=
  match shown with
  | output payload => payload
  | values number =>
    match state.instances[number]? with
    | some inst => inst.values.entries.map fun (key, value) => (.text key, value)
    | none => []

/-- The state after an edit of the mapping that is shown; an output is no part of the state. -/
def editing (shown : Shown) (edit : ValueMap → ValueMap) (state : State) : State :=
  match shown with
  | output _ => state
  | values number => state.editing number edit

/-- Nothing but the shown mapping was touched, and nothing but remarks was added to the journal. -/
def Touched (shown : Shown) (state reached : State) : Prop :=
  ∃ edit remarks, (∀ event ∈ remarks, event.isRemark = true) ∧
    reached = (shown.editing edit state).reporting remarks

end Shown

/-- No hook of the host does more than touch the mapping that it is shown. -/
def Host.Contained (host : Host) : Prop :=
  ∀ program occasion shown state,
    Shown.Touched shown state (Trace.outcomeOf (host.run program occasion shown) state).2

/-- A behaviour that performs no operation, and adds nothing but remarks to the journal. -/
def Behaviour.KeepsToMapping : Behaviour → Prop
  | .reply _ | .fail _ => True
  | .write _ _ next | .remove _ next => next.KeepsToMapping
  | .look next => ∀ entries, (next entries).KeepsToMapping
  | .operate _ _ => False
  | .tell event next => event.isRemark = true ∧ next.KeepsToMapping

namespace Shown

/-- Two mappings are the same part of the state. -/
def SamePart : Shown → Shown → Prop
  | output _, output _ => True
  | values number, values other => number = other
  | _, _ => False

theorem SamePart.refl (shown : Shown) : shown.SamePart shown := by
  cases shown <;> simp [SamePart]

@[simp] theorem editing_id (shown : Shown) (state : State) : shown.editing id state = state := by
  cases shown with
  | output payload => rfl
  | values number =>
      have unchanged : (fun inst : Instance => { inst with values := id inst.values }) = id := rfl
      simp only [editing, State.editing, State.changing, unchanged, List.modify_id]

theorem touched_reporting (shown : Shown) (state : State) {remarks : List Event}
    (plain : ∀ event ∈ remarks, event.isRemark = true) :
    shown.Touched state (state.reporting remarks) :=
  ⟨id, remarks, plain, by rw [editing_id]⟩

theorem Touched.refl (shown : Shown) (state : State) : shown.Touched state state :=
  ⟨id, [], by simp, by rw [editing_id]; rfl⟩

theorem Touched.trans {shown other : Shown} {first second third : State}
    (same : shown.SamePart other) (earlier : shown.Touched first second)
    (later : other.Touched second third) : shown.Touched first third := by
  obtain ⟨firstEdit, firstRemarks, firstPlain, rfl⟩ := earlier
  obtain ⟨secondEdit, secondRemarks, secondPlain, rfl⟩ := later
  refine ⟨secondEdit ∘ firstEdit, secondRemarks ++ firstRemarks, ?_, ?_⟩
  · intro event member
    rcases List.mem_append.mp member with new | old
    · exact secondPlain event new
    · exact firstPlain event old
  · cases shown <;> cases other <;> simp only [SamePart] at same
    · simp [editing, State.reporting]
    · subst same
      simp [editing, State.editing, State.changing, State.reporting, List.modify_modify_eq,
        Function.comp_def]

/-- Changing a mapping touches nothing else, also where the change fails. -/
theorem touched_change (revise : Payload → Except ValueFault Payload) (edit : Edit Unit)
    (shown : Shown) (state : State) :
    match shown.change revise edit state with
    | .ok other reached => shown.SamePart other ∧ shown.Touched state reached
    | .error _ reached => shown.Touched state reached := by
  cases shown with
  | output payload =>
      simp only [change, Engine.bind_apply]
      cases revise payload with
      | error fault => exact Touched.refl _ _
      | ok revised => exact ⟨trivial, Touched.refl _ _⟩
  | values number =>
      simp only [change, Engine.bind_apply]
      cases found : state.instances[number]? with
      | none =>
          simp only [Engine.editValues, Engine.instanceAt, Engine.bind_apply, Engine.get_apply,
            found, Engine.throw_apply]
          exact Touched.refl _ _
      | some inst =>
          have edited (values : ValueMap) : (Shown.values number).Touched state
              (state.editing number fun _ => values) := ⟨fun _ => values, [], by simp, rfl⟩
          rw [Engine.editValues_apply found]
          cases edit inst.values with
          | ok _ values => exact ⟨rfl, edited values⟩
          | error _ values => exact edited values

theorem entries_apply {shown : Shown} {state : State}
    (there : ∀ number, shown = .values number → number < state.instances.length) :
    shown.entries state = .ok (shown.seen state) state := by
  cases shown with
  | output payload => rfl
  | values number =>
      have found := List.getElem?_eq_getElem (there number rfl)
      simp only [entries, seen, Engine.bind_apply, Engine.instanceAt_apply found, found,
        Engine.pure_apply]

/-- Looking at the entries changes nothing, also where there is nothing to look at. -/
theorem entries_keeps (shown : Shown) (state : State) :
    (∃ seen, shown.entries state = .ok seen state) ∨
      ∃ failure, shown.entries state = .error failure state := by
  cases shown with
  | output payload => exact .inl ⟨payload, rfl⟩
  | values number =>
      cases found : state.instances[number]? with
      | none =>
          exact .inr ⟨.noInstance, by
            simp [entries, Engine.instanceAt, Engine.bind_apply, found]⟩
      | some inst =>
          refine .inl ⟨inst.values.entries.map fun (key, value) => (.text key, value), ?_⟩
          simp only [entries, Engine.bind_apply, Engine.instanceAt_apply found, Engine.pure_apply]

end Shown

namespace Engine

/-- A behaviour that goes on after a change of its mapping touches nothing else, if it touches
nothing else from there on. -/
theorem follow_change_touched {performing : Operation → Engine Answer} {next : Behaviour}
    (further : ∀ (shown : Shown) (state : State),
      shown.Touched state (Trace.outcomeOf (follow performing next shown) state).2)
    (revise : Payload → Except ValueFault Payload) (edit : Edit Unit) (shown : Shown)
    (state : State) :
    shown.Touched state (Trace.outcomeOf
      (do follow performing next (← shown.change revise edit)) state).2 := by
  have changed := shown.touched_change revise edit state
  simp only [Trace.outcomeOf, bind_apply]
  cases change : shown.change revise edit state with
  | ok other reached =>
      rw [change] at changed
      exact changed.2.trans changed.1 (further other reached)
  | error failure reached =>
      rw [change] at changed
      exact changed

/-- Following a behaviour that keeps to its mapping touches nothing else. -/
theorem follow_touched (performing : Operation → Engine Answer) {behaviour : Behaviour}
    (keeps : behaviour.KeepsToMapping) (shown : Shown) (state : State) :
    shown.Touched state (Trace.outcomeOf (follow performing behaviour shown) state).2 := by
  induction behaviour generalizing shown state with
  | reply answer => exact Shown.Touched.refl _ _
  | fail failure => exact Shown.Touched.refl _ _
  | write key value next ih => exact follow_change_touched (ih keeps) _ _ shown state
  | remove key next ih => exact follow_change_touched (ih keeps) _ _ shown state
  | look next ih =>
      simp only [follow, Trace.outcomeOf, bind_apply]
      rcases shown.entries_keeps state with ⟨seen, looked⟩ | ⟨failure, looked⟩
      · rw [looked]
        exact ih seen (keeps seen) shown state
      · rw [looked]
        exact Shown.Touched.refl _ _
  | operate operation next ih => exact False.elim keeps
  | tell event next ih =>
      have remarked : shown.Touched state (state.reporting [event]) :=
        shown.touched_reporting state (by simpa using keeps.1)
      simp only [follow, Trace.outcomeOf, bind_apply, note_apply]
      exact remarked.trans (Shown.SamePart.refl shown) (ih keeps.2 shown _)

end Engine

/-- Programs whose behaviours keep to their mappings make a contained host. -/
theorem Programs.contained_host {programs : Programs}
    (keeps : ∀ program occasion, (programs.behaviour program occasion).KeepsToMapping)
    (depth : Nat) : (programs.host depth).Contained := by
  intro program occasion shown state
  cases depth with
  | zero => exact Shown.Touched.refl _ _
  | succ depth => exact Engine.follow_touched _ (keeps program occasion) shown state

/-- The state in which the call of a hook was taken down. -/
def State.consulting (state : State) (hook : Hook) (inst : Nat) (question : Question)
    (shown : Shown) : State :=
  state.reporting
    [.consulted hook (some (inst, question)) (question.arguments (.dict (shown.seen state)))]

/-- A hook that is the built-in decision is shown values that say not to continue, and something is
suspended that it can give up. -/
def State.Declines (state : State) (hook : Hook) (shown : Shown) : Prop :=
  hook = .cancelDecision ∧ state.suspended ≠ [] ∧
    ∃ number inst, shown = .values number ∧ state.instances[number]? = some inst ∧
      inst.values.checkEquals (.text state.settings.continueKey) (.bool false) = .ok true

/-- Every suspended entry is an instance, and so is the current one. -/
structure State.Numbered (state : State) : Prop where
  current_lt : ∀ number, state.current = some number → number < state.instances.length
  suspended_lt : ∀ entry ∈ state.suspended,
    ∃ number, entry = some number ∧ number < state.instances.length

namespace State.Numbered

variable {state : State} (numbered : state.Numbered)
include numbered

theorem found_current {number : Nat} (current : state.current = some number) :
    ∃ inst, state.instances[number]? = some inst :=
  ⟨_, List.getElem?_eq_getElem (numbered.current_lt number current)⟩

theorem found_suspended {entry : Option Nat} (member : entry ∈ state.suspended) :
    ∃ number inst, entry = some number ∧ state.instances[number]? = some inst := by
  obtain ⟨number, same, inRange⟩ := numbered.suspended_lt entry member
  exact ⟨number, _, same, List.getElem?_eq_getElem inRange⟩

end State.Numbered

namespace Engine

/-- What a consultation of a contained host can come to: a hook that does not take the question, an
answer or a failure after which only the mapping is touched, or a built-in decision that gives up
what was put aside last. -/
inductive Consultation (hook : Hook) (inst : Nat) (question : Question) (shown : Shown)
    (state : State) : EStateM.Result Failure State (Shown × Value) → Prop where
  | refused : Consultation hook inst question shown state (.error .badCall state)
  | answered {other : Shown} {answer : Value} {reached : State}
      (touched : shown.Touched (state.consulting hook inst question shown) reached)
      (keeps : ¬ state.Declines hook shown) :
      Consultation hook inst question shown state (.ok (other, answer) reached)
  | failed {failure : Failure} {reached : State}
      (touched : shown.Touched (state.consulting hook inst question shown) reached) :
      Consultation hook inst question shown state (.error failure reached)
  | declined {top : Nat} {lost : Instance} {rest : List (Option Nat)}
      (single : (question.arguments (.dict (shown.seen state))).length = 1)
      (declines : state.Declines hook shown) (lastAside : state.suspended = some top :: rest)
      (there : state.instances[top]? = some lost) :
      Consultation hook inst question shown state
        (.ok (shown, .null) ((state.consulting hook inst question shown).abandoned top lost rest))

theorem checkEquals_text (map : ValueMap) (key : String) (value : Value) :
    ∃ answer, map.checkEquals (.text key) value = .ok answer := by
  simp only [ValueMap.checkEquals, ValueMap.find?, ValueMap.keyText?, Except.map, bind, Except.bind]
  cases (some key).bind map.get? with
  | none => exact ⟨false, rfl⟩
  | some stored => exact ⟨_, rfl⟩

/-- The built-in decision gives up what was put aside last exactly if the values decline. -/
theorem decideCancel_apply {state : State} (numbered : state.Numbered) {number : Nat}
    {inst : Instance} (found : state.instances[number]? = some inst) :
    (¬ state.Declines .cancelDecision (.values number) ∧
        decideCancel (.values number) state = .ok .null state) ∨
      ∃ top lost rest, state.Declines .cancelDecision (.values number) ∧
        state.suspended = some top :: rest ∧ state.instances[top]? = some lost ∧
        decideCancel (.values number) state = .ok .null (state.abandoned top lost rest) := by
  obtain ⟨declined, checked⟩ :=
    checkEquals_text inst.values state.settings.continueKey (.bool false)
  cases suspended : state.suspended with
  | nil =>
      refine .inl ⟨fun declines => declines.2.1 suspended, ?_⟩
      simp [decideCancel, bind_apply, map_apply, instanceAt_apply found, checked, suspended]
  | cons entry rest =>
      obtain ⟨top, lost, rfl, there⟩ :=
        numbered.found_suspended (show entry ∈ _ by simp [suspended])
      cases declined with
      | false =>
          refine .inl ⟨?_, ?_⟩
          · rintro ⟨-, -, other, values, same, foundOther, declines⟩
            cases same
            rw [found] at foundOther
            cases foundOther
            simp [checked] at declines
          · simp [decideCancel, bind_apply, instanceAt_apply found, checked]
      | true =>
          refine .inr ⟨top, lost, rest,
            ⟨rfl, by simp [suspended], number, inst, rfl, found, checked⟩, rfl, there, ?_⟩
          simp [decideCancel, bind_apply, map_apply, instanceAt_apply found, checked,
            suspended, discard_apply suspended there]

/-- What a hook does once its call was taken down; `before` is the journal before that. -/
def answerOf (host : Host) (before : List Event) (arguments : List Value) (shown : Shown) :
    Hook → Engine (Shown × Value)
  | .alwaysValid => return (shown, ReadyHook.verdict true (.text ""))
  | .identityAcceptor => return (shown, .null)
  | .cancelDecision => return (shown, ← decideCancel shown)
  | .ready hook => return (shown, ← lift (hook.answer arguments))
  | hook@(.custom program _ _ _) =>
    host.run program
      { consultation := before.countP isConsultation, call := before.countP (isCallOf hook),
        arguments } shown

theorem consult_apply (host : Host) {state : State} (hook : Hook) (inst : Nat)
    (question : Question) (shown : Shown)
    (there : ∀ number, shown = .values number → number < state.instances.length) :
    consult host hook inst question shown state =
      if hook.arity = (question.arguments (.dict (shown.seen state))).length then
        answerOf host state.journal (question.arguments (.dict (shown.seen state))) shown hook
          (state.consulting hook inst question shown)
      else .error .badCall state := by
  simp only [consult, bind_apply, Shown.entries_apply there, callHook]
  by_cases arity : hook.arity = (question.arguments (.dict (shown.seen state))).length
  · simp only [ne_eq, arity, not_true_eq_false, ↓reduceIte, bind_apply, ask_apply, note_apply]
    cases hook <;> rfl
  · simp only [ne_eq, arity, not_false_eq_true, ↓reduceIte, bind_apply, throw_apply]

/-- Consulting a hook of a contained host has no other outcomes than `Consultation` lists. -/
theorem consultation_consult {host : Host} (contained : host.Contained) {state : State}
    (numbered : state.Numbered) (hook : Hook) (inst : Nat) (question : Question) (shown : Shown)
    (there : ∀ number, shown = .values number → number < state.instances.length) :
    Consultation hook inst question shown state
      (consult host hook inst question shown state) := by
  rw [consult_apply host hook inst question shown there]
  split
  case isFalse => exact .refused
  case isTrue arity =>
    cases hook with
    | alwaysValid =>
        exact .answered (Shown.Touched.refl _ _) (fun declines => by cases declines.1)
    | identityAcceptor =>
        exact .answered (Shown.Touched.refl _ _) (fun declines => by cases declines.1)
    | cancelDecision =>
        simp only [answerOf, bind_apply]
        cases shown with
        | output payload =>
            exact .failed (Shown.Touched.refl _ _)
        | values number =>
            have found := List.getElem?_eq_getElem (there number rfl)
            have asked :
                (state.consulting .cancelDecision inst question (.values number)).Numbered :=
              ⟨numbered.current_lt, numbered.suspended_lt⟩
            rcases decideCancel_apply asked found with
              ⟨keeps, decided⟩ | ⟨top, lost, rest, declines, lastAside, foundTop, decided⟩
            · rw [decided]
              exact .answered (Shown.Touched.refl _ _) keeps
            · rw [decided]
              exact .declined arity.symm declines lastAside foundTop
    | ready hook =>
        simp only [answerOf, bind_apply]
        cases hook.answer (question.arguments (.dict (shown.seen state))) with
        | ok answer =>
            exact .answered (Shown.Touched.refl _ _) (fun declines => by cases declines.1)
        | error failure => exact .failed (Shown.Touched.refl _ _)
    | custom program role name stamp =>
        have touched := contained program
          { consultation := state.journal.countP isConsultation
            call := state.journal.countP (isCallOf (.custom program role name stamp))
            arguments := question.arguments (.dict (shown.seen state)) } shown
          (state.consulting (.custom program role name stamp) inst question shown)
        simp only [Trace.outcomeOf] at touched
        simp only [answerOf]
        generalize host.run program _ shown _ = outcome at touched ⊢
        cases outcome with
        | ok answer reached => exact .answered touched (fun declines => by cases declines.1)
        | error failure reached => exact .failed touched

end Engine

end Workflow
