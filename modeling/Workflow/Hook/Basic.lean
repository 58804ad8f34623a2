import Workflow.Hook.Ready

/-!
# Hooks

Workflows are steered by hooks: validators look at the output of a stage, acceptors turn the values
of a finished workflow into what the resumed one receives, and redirectors may name another
workflow to run first.  A hook is data here; the programs behind custom hooks are supplied by
whoever runs the engine.
-/

namespace Workflow

/-- What a hook is for. -/
inductive Role where
  | validator
  | acceptor
  | redirector
  deriving DecidableEq, Repr

/-- Something that a workflow can be steered by. -/
inductive Hook where
  /-- Accepts any output. -/
  | alwaysValid
  /-- Contributes nothing to the resumed workflow. -/
  | identityAcceptor
  /-- Abandons the interrupted workflow if the user chose not to continue. -/
  | cancelDecision
  | ready (hook : ReadyHook)
  /-- A hook with a program of its own.  The stamp tells apart the hooks made of one program, each
  of which counts its own calls. -/
  | custom (program : Nat) (role : Role) (name : String) (stamp : Nat)
  deriving DecidableEq, Repr

namespace Hook

/-- The name under which a hook is shown. -/
def name : Hook → String
  | alwaysValid => "always_valid"
  | identityAcceptor => "identity_acceptor"
  | cancelDecision => "_on_cancel_request_finish"
  | ready hook => hook.name
  | custom _ _ name _ => name

/-- How many arguments a hook takes. -/
def arity : Hook → Nat
  | ready hook => if hook.isRedirector then 4 else 1
  | custom _ .redirector _ _ => 4
  | _ => 1

end Hook

/-- What a hook is asked about the mapping that it is shown. -/
inductive Question where
  | validate
  | accept
  | redirect (stage : Int) (next : Option String) (valid : Bool)
  deriving DecidableEq, Repr

/-- The arguments of a call: what comes with the question, and the mapping last. -/
def Question.arguments (question : Question) (mapping : Value) : List Value :=
  match question with
  | validate | accept => [mapping]
  | redirect stage next valid =>
    [.int stage, (next.map Value.text).getD .null, .bool valid, mapping]

end Workflow
