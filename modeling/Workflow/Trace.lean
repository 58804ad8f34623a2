/-!
# Traces

A list of commands is run one after the other, whatever becomes of each of them: a command that
fails leaves behind what it changed, and the next one starts from there.  The trace keeps every
outcome with the states around it.
-/

namespace Workflow

/-- A command that was run: its outcome, and the states before and after it. -/
structure Taken (κ ε σ α : Type) where
  command : κ
  before : σ
  outcome : Except ε α
  after : σ

namespace Trace

variable {κ ε σ α : Type}

/-- The outcome of a program and the state that it leaves behind. -/
def outcomeOf (program : EStateM ε σ α) (state : σ) : Except ε α × σ :=
  match program state with
  | .ok answer after => (.ok answer, after)
  | .error failure after => (.error failure, after)

/-- Runs one command. -/
def take (perform : κ → EStateM ε σ α) (state : σ) (command : κ) : Taken κ ε σ α :=
  let (outcome, after) := outcomeOf (perform command) state
  { command, before := state, outcome, after }

/-- Runs commands one after the other. -/
def run (perform : κ → EStateM ε σ α) (state : σ) : List κ → List (Taken κ ε σ α)
  | [] => []
  | command :: rest =>
    let taken := take perform state command
    taken :: run perform taken.after rest

/-- The state after all commands. -/
def final (perform : κ → EStateM ε σ α) (state : σ) (commands : List κ) : σ :=
  commands.foldl (fun reached command => (take perform reached command).after) state

/-- Running a list of commands and then another is running both together. -/
theorem run_append (perform : κ → EStateM ε σ α) (state : σ) (first second : List κ) :
    run perform state (first ++ second) =
      run perform state first ++ run perform (final perform state first) second := by
  induction first generalizing state with
  | nil => rfl
  | cons command rest ih => simp [run, final, ih]

end Trace

end Workflow
