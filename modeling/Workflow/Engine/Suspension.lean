import Workflow.Engine.State

/-!
# Suspension

What is in progress but not running is kept on a stack: whatever was put aside last is resumed
first.
-/

namespace Workflow.Suspension

open Engine

/-- Puts something aside. -/
def push (entry : Option Nat) : Engine Unit := do
  modify fun state => { state with suspended := entry :: state.suspended }
  note (.suspended entry (← labelOf entry) (← get).suspended.length)

/-- Takes back what was put aside last. -/
def pop : Engine (Option Nat) := do
  match (← get).suspended with
  | [] => throw .nothingToResume
  | entry :: rest =>
    modify fun state => { state with suspended := rest }
    note (.popped entry (← labelOf entry) rest.length)
    return entry

/-- What was put aside last. -/
def peek : Engine (Option Nat) := do
  match (← get).suspended with
  | [] => throw .nothingSuspended
  | entry :: _ => return entry

/-- Gives up what was put aside last. -/
def discard : Engine (Option Nat) := do
  let entry ← pop
  match entry with
  | none => throw .noInstance
  | some number =>
    note (.abandoned number (← instanceAt number).name)
    return entry

/-- Gives up everything. -/
def clear : Engine Unit :=
  modify fun state => { state with suspended := [] }

end Workflow.Suspension
