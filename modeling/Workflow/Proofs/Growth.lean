import Workflow.Proofs.Exit
import Workflow.Proofs.Placing

/-!
# Values that only grow

A hook that is shown the values of an instance may add to them and overwrite them.  As long as no
hook takes a key away, an instance never loses one: merging adds keys as well, and nothing else
writes to the values.
-/

namespace Workflow

namespace ValueMap

/-- Every key of a map is one of the other map as well. -/
def Within (map other : ValueMap) : Prop :=
  ∀ key, map.has key = true → other.has key = true

theorem Within.refl (map : ValueMap) : map.Within map :=
  fun _ present => present

theorem Within.trans {first second third : ValueMap} (earlier : first.Within second)
    (later : second.Within third) : first.Within third :=
  fun key present => later key (earlier key present)

/-- An edit takes no key away, whether or not it comes to its end. -/
def Grows (edit : Edit Unit) : Prop :=
  ∀ map : ValueMap, map.Within (Trace.outcomeOf edit map).2

theorem grows_pure : Grows (pure ()) :=
  fun map => .refl map

theorem Grows.bind {first second : Edit Unit} (earlier : Grows first) (later : Grows second) :
    Grows (do first; second) := by
  intro map
  have reached := earlier map
  simp only [Trace.outcomeOf, Bind.bind, EStateM.bind] at reached ⊢
  cases done : first map with
  | ok answer between =>
      rw [done] at reached
      exact reached.trans (later between)
  | error fault between =>
      rw [done] at reached
      exact reached

theorem grows_put (key value : Value) : Grows (put key value) := by
  intro map
  cases key with
  | text name =>
      simp only [Trace.outcomeOf, put]
      cases value.kind.isSupported with
      | true => exact fun other present => Entries.has_put name value present
      | false => exact .refl map
  | _ => exact .refl map

theorem grows_putAll (entries : List (Value × Value)) : Grows (putAll entries) := by
  induction entries with
  | nil => exact grows_pure
  | cons entry rest ih => exact (grows_put entry.1 entry.2).bind ih

/-- Merging adds keys and takes none away, also where it stops at an entry. -/
theorem grows_merge (other : Value) : Grows (merge other) := by
  simp only [merge]
  split
  · cases other with
    | dict entries => exact grows_putAll entries
    | _ => exact fun map => .refl map
  · exact grows_pure

end ValueMap

namespace State

/-- Every instance is still there, with all the keys that its values had. -/
def Grown (before after : State) : Prop :=
  ∀ (number : Nat) (inst : Instance), before.instances[number]? = some inst →
    ∃ later, after.instances[number]? = some later ∧ inst.values.Within later.values

variable {before middle after : State}

theorem Grown.of_same (same : after.instances = before.instances) : before.Grown after := by
  intro number inst found
  exact ⟨inst, same ▸ found, .refl _⟩

theorem Grown.trans (earlier : before.Grown middle) (later : middle.Grown after) :
    before.Grown after := by
  intro number inst found
  obtain ⟨between, there, within⟩ := earlier number inst found
  obtain ⟨last, present, further⟩ := later number between there
  exact ⟨last, present, within.trans further⟩

theorem grown_editing {state : State} {number : Nat} {inst : Instance} {values : ValueMap}
    (found : state.instances[number]? = some inst) (within : inst.values.Within values) :
    state.Grown (state.editing number fun _ => values) := by
  intro other before there
  by_cases same : number = other
  · subst same
    cases found.symm.trans there
    exact ⟨{ inst with values }, by simp [editing, changing, found], within⟩
  · exact ⟨before, by simp [editing, changing, same, there], .refl _⟩

end State

/-- The hooks of the host keep to the mappings that they are shown, and take no key of an instance
away. -/
structure Host.Additive (host : Host) : Prop where
  contained : host.Contained
  grows : ∀ program occasion shown state,
    State.Grown state (Trace.outcomeOf (host.run program occasion shown) state).2

/-- A behaviour that keeps to its mapping and removes nothing from it. -/
def Behaviour.OnlyAdds : Behaviour → Prop
  | .reply _ | .fail _ => True
  | .write _ _ next => next.OnlyAdds
  | .remove _ _ => False
  | .look next => ∀ entries, (next entries).OnlyAdds
  | .operate _ _ => False
  | .tell event next => event.isRemark = true ∧ next.OnlyAdds

theorem Behaviour.OnlyAdds.keepsToMapping {behaviour : Behaviour} (adds : behaviour.OnlyAdds) :
    behaviour.KeepsToMapping := by
  induction behaviour with
  | reply answer => trivial
  | fail failure => trivial
  | write key value next ih => exact ih adds
  | remove key next ih => exact False.elim adds
  | look next ih => exact fun entries => ih entries (adds entries)
  | operate operation next ih => exact False.elim adds
  | tell event next ih => exact ⟨adds.1, ih adds.2⟩

theorem Shown.grown_put (shown : Shown) (key value : Value) (state : State) :
    state.Grown (Trace.outcomeOf (shown.put key value) state).2 := by
  cases shown with
  | output payload =>
      simp only [put, change, Trace.outcomeOf, Engine.bind_apply]
      cases payload.put key value <;> exact .of_same rfl
  | values number =>
      simp only [put, change, Trace.outcomeOf, Engine.bind_apply]
      cases found : state.instances[number]? with
      | none =>
          simp only [Engine.editValues, Engine.instanceAt, Engine.bind_apply, Engine.get_apply,
            found, Engine.throw_apply]
          exact .of_same rfl
      | some inst =>
          have grows := ValueMap.grows_put key value inst.values
          simp only [Trace.outcomeOf] at grows
          rw [Engine.editValues_apply found]
          cases done : ValueMap.put key value inst.values with
          | ok answer values =>
              rw [done] at grows
              exact State.grown_editing found grows
          | error fault values =>
              rw [done] at grows
              exact State.grown_editing found grows

namespace Engine

/-- A behaviour that only adds to its mapping takes nothing away. -/
theorem follow_grown (performing : Operation → Engine Answer) {behaviour : Behaviour}
    (adds : behaviour.OnlyAdds) (shown : Shown) (state : State) :
    state.Grown (Trace.outcomeOf (follow performing behaviour shown) state).2 := by
  induction behaviour generalizing shown state with
  | reply answer => exact .of_same rfl
  | fail failure => exact .of_same rfl
  | write key value next ih =>
      have written := shown.grown_put key value state
      simp only [follow, Trace.outcomeOf, bind_apply] at written ⊢
      cases put : shown.put key value state with
      | ok other reached =>
          rw [put] at written
          exact written.trans (ih adds other reached)
      | error failure reached =>
          rw [put] at written
          exact written
  | remove key next ih => exact False.elim adds
  | look next ih =>
      simp only [follow, Trace.outcomeOf, bind_apply]
      rcases shown.entries_keeps state with ⟨seen, looked⟩ | ⟨failure, looked⟩
      · rw [looked]
        exact ih seen (adds seen) shown state
      · rw [looked]
        exact .of_same rfl
  | operate operation next ih => exact False.elim adds
  | tell event next ih =>
      have told : state.Grown (state.reporting [event]) := .of_same rfl
      simp only [follow, Trace.outcomeOf, bind_apply, note_apply]
      exact told.trans (ih adds.2 shown _)

end Engine

/-- Programs whose behaviours only add to their mappings make an additive host. -/
theorem Programs.additive_host {programs : Programs}
    (adds : ∀ program occasion, (programs.behaviour program occasion).OnlyAdds)
    (depth : Nat) : (programs.host depth).Additive where
  contained :=
    programs.contained_host (fun program occasion => (adds program occasion).keepsToMapping) depth
  grows := by
    intro program occasion shown state
    cases depth with
    | zero => exact .of_same rfl
    | succ depth => exact Engine.follow_grown _ (adds program occasion) shown state

namespace Engine

variable {host : Host} {state : State}

/-- Whatever a hook of an additive host is asked, no instance loses a key. -/
theorem consult_grown (additive : host.Additive) (numbered : state.Numbered) (hook : Hook)
    (inst : Nat) (question : Question) (shown : Shown)
    (there : ∀ number, shown = .values number → number < state.instances.length) :
    state.Grown (ending (consult host hook inst question shown) state).2 := by
  have asked : state.Grown (state.consulting hook inst question shown) := .of_same rfl
  rw [ending, consult_apply host hook inst question shown there]
  by_cases arity : hook.arity = (question.arguments (.dict (shown.seen state))).length
  case neg =>
    rw [if_neg arity]
    exact .of_same rfl
  case pos =>
    rw [if_pos arity]
    apply asked.trans
    cases hook with
    | alwaysValid => exact .of_same rfl
    | identityAcceptor => exact .of_same rfl
    | ready hook =>
        simp only [answerOf, bind_apply]
        cases hook.answer (question.arguments (.dict (shown.seen state))) <;> exact .of_same rfl
    | cancelDecision =>
        simp only [answerOf, bind_apply]
        cases shown with
        | output payload => exact .of_same rfl
        | values number =>
            have found := List.getElem?_eq_getElem (there number rfl)
            have consulting :
                (state.consulting .cancelDecision inst question (.values number)).Numbered :=
              ⟨numbered.current_lt, numbered.suspended_lt⟩
            rcases decideCancel_apply consulting found with
              ⟨-, decided⟩ | ⟨top, lost, rest, -, -, -, decided⟩
            · rw [decided]
              exact .of_same rfl
            · rw [decided]
              exact .of_same rfl
    | custom program role name stamp =>
        have grows := additive.grows program
          { consultation := state.journal.countP isConsultation
            call := state.journal.countP (isCallOf (.custom program role name stamp))
            arguments := question.arguments (.dict (shown.seen state)) } shown
          (state.consulting (.custom program role name stamp) inst question shown)
        simp only [Trace.outcomeOf] at grows
        simp only [answerOf]
        generalize host.run program _ shown _ = outcome at grows ⊢
        cases outcome with
        | ok answer reached => exact grows
        | error failure reached => exact grows

end Engine

end Workflow
