import Workflow.Document.Field
import Workflow.Failure
import Workflow.Instance

/-!
# Requests for instances

An instance can be asked for by its fields, each of which may be left out or be something else than
it should be.  The fields are checked in their order; values that no map can be built from are
reported alone.
-/

namespace Workflow

/-- The fields of an instance as they are given. -/
structure InstanceRequest where
  name : Option Value := none
  stage : Option Value := none
  state : Option Value := none
  arguments : Option Value := none
  values : Option Value := none
  /-- Whether the values are made a map before the fields are looked at. -/
  asMap : Bool := false

namespace InstanceRequest

/-- A given field is checked, a missing one has its default. -/
def field {α : Type} (name : String) (given : Option Value) (check : Value → Checked α)
    (default : Checked α) : Checked α :=
  Checked.inside (.field name) <|
    match given with
    | some value => check value
    | none => default

/-- A state of an instance. -/
def lifecycle : Value → Checked Lifecycle
  | .text name =>
    match Lifecycle.ofName? name with
    | some state => .ok state
    | none => Checked.problem .notState
  | _ => Checked.problem .notState

/-- The values of an instance. -/
def valuesOf (request : InstanceRequest) : Except ValueFault ValueMap :=
  match request.values with
  | none => .ok .empty
  | some value => if request.asMap then ValueMap.ofValue value else ValueMap.ofDict value

/-- The instance with given values. -/
def withValues (request : InstanceRequest) (values : ValueMap) : Checked Instance :=
  Checked.apply
    (Checked.apply
      (Checked.zipWith (fun name stage state arguments => ⟨name, stage, state, arguments, values⟩)
        (field "name" request.name Field.text (Checked.problem .missing))
        (field "stage" request.stage Field.integer (.ok 0)))
      (field "state" request.state lifecycle (.ok .running)))
    (field "arguments" request.arguments Field.bindings? (.ok none))

/-- The instance that is asked for. -/
def make (request : InstanceRequest) : Except Failure Instance := do
  let values ← request.valuesOf.mapError Failure.value
  (request.withValues values).mapError Failure.invalid

end InstanceRequest

end Workflow
