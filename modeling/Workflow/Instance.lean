import Workflow.Invocation
import Workflow.ValueMap.Basic

/-!
# Workflow instances

One run of a workflow: how far it got, what it was invoked with and what it has accumulated.  The
stage of an instance is the number of the stage that comes next, which for a finished one is the
number of stages.
-/

namespace Workflow

/-- The lifecycle of an instance.  No transition enters or leaves the waiting state. -/
inductive Lifecycle where
  | running
  | waitingForRedirects
  | finished
  deriving DecidableEq, Repr

namespace Lifecycle

/-- The name under which a state is reported. -/
def name : Lifecycle → String
  | running => "running"
  | waitingForRedirects => "waiting_for_redirects"
  | finished => "finished"

/-- The state that goes by a name. -/
def ofName? (name : String) : Option Lifecycle :=
  [running, waitingForRedirects, finished].find? fun state => state.name == name

end Lifecycle

/-- One execution of a workflow. -/
structure Instance where
  name : String
  stage : Int := 0
  state : Lifecycle := .running
  arguments : Option Bindings := none
  values : ValueMap := .empty

namespace Instance

instance : Inhabited Instance := ⟨{ name := "" }⟩

/-- A fresh instance of the workflow that an invocation names. -/
def ofInvocation (invocation : Invocation) : Instance :=
  { name := invocation.name, arguments := invocation.arguments }

/-- How messages refer to an instance: its name and its stage. -/
def label (inst : Instance) : String :=
  s!"{inst.name}@{inst.stage}"

end Instance

end Workflow
