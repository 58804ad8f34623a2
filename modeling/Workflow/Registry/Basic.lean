import Workflow.Hook.Basic
import Workflow.Plan
import Workflow.Position

/-!
# Definitions and the registry

A definition is a plan whose stages have validators, with an acceptor and perhaps a redirector.
The registry keeps definitions under their names in the order in which the names first came up.
`Registry.register` is the only way in: it builds the definition, or says why there is none and
leaves the registry as it is.
-/

namespace Workflow

/-- A stage of a registered workflow. -/
structure Stage where
  name : String
  tokens : Option (List String)
  validator : Hook
  deriving DecidableEq, Repr

/-- A registered workflow. -/
structure Definition where
  name : String
  stages : List Stage
  acceptor : Hook
  redirector : Option Hook
  deriving DecidableEq, Repr

namespace Definition

/-- How many stages there are. -/
def stageCount (definition : Definition) : Nat :=
  definition.stages.length

/-- The names of the stages. -/
def stageNames (definition : Definition) : List String :=
  definition.stages.map (·.name)

/-- The stage of a number, counted from the end if it is negative. -/
def stage? (definition : Definition) (number : Int) : Option Stage :=
  Position.item? definition.stages number

/-- The name of the stage of a number; none is left after the last stage. -/
def stageName? (definition : Definition) (number : Int) : Option String :=
  if 0 ≤ number then definition.stages[number.toNat]?.map (·.name) else none

/-- Whether every stage is over for an instance at the given stage. -/
def isCompleteAt (definition : Definition) (stage : Int) : Bool :=
  decide ((definition.stageCount : Int) ≤ stage)

end Definition

/-- What a workflow is registered with; a missing hook stands for the default. -/
structure Registration where
  name : String
  plan : String
  acceptor : Option Hook := none
  redirector : Option Hook := none
  validators : List (Option Hook) := []

/-- Registered workflows under their names. -/
abbrev Registry := Entries String Definition

namespace Registry

/-- A hook for every stage of a plan: no hooks at all stand for the default at every stage. -/
def validatorsFor (plan : Plan) (validators : List (Option Hook)) : List Hook :=
  let given := if validators.isEmpty then plan.map fun _ => none else validators
  given.map fun validator => validator.getD .alwaysValid

/-- The definition of a registration, or why there is none. -/
def define (registration : Registration) : Except ConfigurationFault Definition :=
  if registration.name = "" then .error .emptyName
  else
    let plan := Plan.parse registration.plan
    let validators := validatorsFor plan registration.validators
    if plan.isEmpty then .error (.noStages registration.name)
    else if validators.length ≠ plan.length then
      .error (.validatorCount registration.name plan.length validators.length)
    else
      .ok
        { name := registration.name
          stages := plan.zipWith (fun stage validator => ⟨stage.name, stage.tokens, validator⟩)
            validators
          acceptor := registration.acceptor.getD .identityAcceptor
          redirector := registration.redirector }

/-- The registry with a further workflow, and its definition; a workflow of the same name is
replaced in its place. -/
def register (registry : Registry) (registration : Registration) :
    Except ConfigurationFault (Registry × Definition) := do
  let definition ← define registration
  return (Entries.put registry definition.name definition, definition)

/-- The names of the registered workflows. -/
def names (registry : Registry) : List String :=
  Entries.keys registry

/-- The registered workflows. -/
def definitions (registry : Registry) : List Definition :=
  registry.map (·.2)

/-- The workflow of a name, which has to be registered. -/
def get (registry : Registry) (name : String) : Except Failure Definition :=
  match Entries.lookup registry name with
  | some definition => .ok definition
  | none => .error (.unknownWorkflow name)

end Registry

end Workflow
