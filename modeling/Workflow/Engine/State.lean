import Workflow.Dispatcher
import Workflow.Event

/-!
# The state of an engine

An engine runs one workflow at a time.  Instances are numbered in the order in which they came up
and are referred to by their numbers, so an instance that is resumed is the one that was
suspended.  Each step is a program over the state whose failures keep what was changed before them.
-/

namespace Workflow

/-- Everything that an engine remembers. -/
structure State where
  settings : ControllerSettings := {}
  registry : Registry := []
  /-- All instances ever made, by their numbers. -/
  instances : List Instance := []
  /-- The instance that is running. -/
  current : Option Nat := none
  /-- What was current each time the engine put something aside, the latest first. -/
  suspended : List (Option Nat) := []
  dispatcher : Dispatcher := {}
  /-- The handle whose completion the engine waits for. -/
  held : Option Nat := none
  /-- A number that no hook bears as its stamp yet. -/
  stamp : Nat := 0
  /-- What happened, the latest first. -/
  journal : List Event := []

/-- A step of an engine. -/
abbrev Engine := EStateM Failure State

namespace Engine

/-- A computation that does not touch the state. -/
def lift {α : Type} : Except Failure α → Engine α
  | .ok answer => pure answer
  | .error failure => throw failure

/-- A part of the state. -/
def ask {α : Type} (part : State → α) : Engine α :=
  return part (← get)

/-- Writes an event into the journal. -/
def note (event : Event) : Engine Unit :=
  modify fun state => { state with journal := event :: state.journal }

/-- The instance of a number. -/
def instanceAt (number : Nat) : Engine Instance := do
  match (← get).instances[number]? with
  | some inst => return inst
  | none => throw .noInstance

/-- The number of the current instance, which there has to be. -/
def currentNumber : Engine Nat := do
  match (← get).current with
  | some number => return number
  | none => throw .noInstance

/-- Changes the instance of a number. -/
def modifyInstance (number : Nat) (change : Instance → Instance) : Engine Unit :=
  modify fun state => { state with instances := state.instances.modify number change }

/-- Edits the values of an instance; an edit that fails keeps what it wrote. -/
def editValues (number : Nat) (edit : Edit Unit) : Engine Unit := do
  let inst ← instanceAt number
  match edit inst.values with
  | .ok () values => modifyInstance number fun inst => { inst with values }
  | .error fault values => do
    modifyInstance number fun inst => { inst with values }
    throw (.value fault)

/-- A new instance, and its number. -/
def addInstance (inst : Instance) : Engine Nat := do
  let number := (← get).instances.length
  modify fun state => { state with instances := state.instances ++ [inst] }
  return number

/-- The definition that an instance runs by, as it is registered at this moment. -/
def definitionOf (number : Nat) : Engine Definition := do
  let inst ← instanceAt number
  lift (Registry.get (← get).registry inst.name)

/-- A stage of a definition, which has to be there. -/
def stageOf (definition : Definition) (number : Int) : Engine Stage :=
  match definition.stage? number with
  | some stage => return stage
  | none => throw .outOfRange

/-- How messages refer to something that was suspended. -/
def labelOf (number : Option Nat) : Engine String := do
  match number with
  | some number => return (← instanceAt number).label
  | none => return "None"

/-- Registers a workflow; the registry stays as it is if the workflow is refused. -/
def register (registration : Registration) : Engine Definition := do
  if registration.name ≠ "" then
    note (.planParsed registration.plan (Plan.parse registration.plan).names)
  let before ← ask State.registry
  let (registry, definition) ←
    lift ((before.register registration).mapError Failure.configuration)
  if Entries.has before definition.name then note (.replacing definition.name)
  modify fun state => { state with registry }
  note (.registered definition.name definition.stageNames)
  return definition

end Engine

end Workflow
