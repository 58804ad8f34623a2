import Workflow.Engine.Loading
import Workflow.ValueMap.Command

/-!
# Guarded steps

Most parts of a step call no hook.  They do little to instances: they start new ones, they say how
far an instance got, and they run commands on its values.
-/

namespace Workflow

/-- A command as an edit, which has no answer. -/
def ValueCommand.edit (command : ValueCommand) : Edit Unit := do
  let _ ← command.run

theorem ValueCommand.edit_set (key value : Value) :
    (set key value).edit = ValueMap.put key value := by
  simp only [edit, run, bind_assoc, pure_bind, bind_pure_unit]

theorem ValueCommand.edit_delete (key : Value) : (delete key).edit = ValueMap.remove key := by
  simp only [edit, run, bind_assoc, pure_bind, bind_pure_unit]

theorem ValueCommand.edit_merge (other : Value) : (merge other).edit = ValueMap.merge other := by
  simp only [edit, run, bind_assoc, pure_bind, bind_pure_unit]

namespace Engine

variable {α β : Type}

/-- A step that may change everything but instances, and that changes instances in three ways: it
starts new ones, it leaves their values alone, or it runs a command on their values. -/
inductive Guarded : {α : Type} → Engine α → Prop where
  | answer {α : Type} (answer : α) : Guarded (pure answer)
  | fail {α : Type} (failure : Failure) : Guarded (throw failure : Engine α)
  | look : Guarded (get : Engine State)
  | change (change : State → State) (same : ∀ state, (change state).instances = state.instances) :
      Guarded (modify change)
  | begin (invocation : Invocation) : Guarded (addInstance (.ofInvocation invocation))
  | mark (number : Nat) (change : Instance → Instance)
      (same : ∀ inst, (change inst).values = inst.values) : Guarded (modifyInstance number change)
  | edit (number : Nat) (command : ValueCommand) : Guarded (editValues number command.edit)
  | bind {α β : Type} {step : Engine α} {next : α → Engine β} (guarded : Guarded step)
      (further : ∀ answer, Guarded (next answer)) : Guarded (step >>= next)

theorem guarded_note (event : Event) : Guarded (note event) :=
  .change _ fun _ => rfl

theorem guarded_instanceAt (number : Nat) : Guarded (instanceAt number) :=
  .bind .look fun state => by
    cases state.instances[number]? with
    | none => exact .fail _
    | some inst => exact .answer inst

theorem guarded_labelOf (number : Option Nat) : Guarded (labelOf number) := by
  cases number with
  | none => exact .answer _
  | some number => exact (guarded_instanceAt number).bind fun _ => .answer _

theorem guarded_push (entry : Option Nat) : Guarded (Suspension.push entry) :=
  .bind (.change _ fun _ => rfl) fun _ => (guarded_labelOf entry).bind fun _ =>
    .bind .look fun _ => guarded_note _

theorem guarded_pop : Guarded Suspension.pop :=
  .bind .look fun state => by
    cases state.suspended with
    | nil => exact .fail _
    | cons entry rest =>
        exact .bind (.change _ fun _ => rfl) fun _ => (guarded_labelOf entry).bind fun _ =>
          (guarded_note _).bind fun _ => .answer entry

end Engine

end Workflow
