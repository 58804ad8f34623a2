import Workflow.Document.Problem
import Workflow.Invocation
import Workflow.ValueMap.Basic

/-!
# Failures

Everything that an operation can fail with, as causes.  The wording of the causes that are reported
in words is in `Failure.message`; the others only say that something was used as what it is not.
-/

namespace Workflow

/-- Why an import path gives no hook. -/
inductive ImportFault where
  | noModule (name : String)
  | notPackage (name parent : String)
  | noAttribute (moduleName attributeName : String)
  deriving DecidableEq, Repr

/-- The text of an import fault.  The names of modules that are not there are quoted; a missing
attribute is named as it is, between single quotes. -/
def ImportFault.message : ImportFault → String
  | noModule name => s!"No module named {Text.quote name}"
  | notPackage name parent =>
    s!"No module named {Text.quote name}; {Text.quote parent} is not a package"
  | noAttribute moduleName attributeName =>
    s!"module '{moduleName}' has no attribute '{attributeName}'"

/-- Why a workflow cannot be registered. -/
inductive ConfigurationFault where
  | emptyName
  | noStages (name : String)
  | validatorCount (name : String) (stages validators : Nat)
  | invalidPath (path : String)
  | importFailed (path : String) (fault : ImportFault)
  | notCallable (path : String)
  deriving DecidableEq, Repr

/-- The text of a configuration fault. -/
def ConfigurationFault.message : ConfigurationFault → String
  | emptyName => "Invalid workflow name"
  | noStages name => s!"Workflow {Text.quote name} must have at least one stage"
  | validatorCount name stages validators =>
    s!"Workflow {Text.quote name} has {stages} stages but {validators} validators"
  | invalidPath path => s!"Invalid hook path {Text.quote path}"
  | importFailed path fault => s!"Failed to import hook {Text.quote path}: {fault.message}"
  | notCallable path => s!"Hook {Text.quote path} is not callable"

/-- Why an operation failed. -/
inductive Failure where
  | value (fault : ValueFault)
  | binding (fault : BindingFault)
  | configuration (fault : ConfigurationFault)
  | unknownWorkflow (name : String)
  /-- A workflow is running that must not be replaced. -/
  | active (label : String)
  /-- There is no stage to complete. -/
  | nothingToComplete
  /-- The dispatcher does not show the stage that it was given. -/
  | stageNotExposed
  /-- Nothing is suspended that could be resumed. -/
  | nothingToResume
  /-- Nothing is suspended that could be looked at. -/
  | nothingSuspended
  | alreadyFinished (stage : String)
  /-- A hook failed with a message of its own. -/
  | raised (message : String)
  | invalid (problems : List Problem)
  /-- A stage or a position that is not there. -/
  | outOfRange
  /-- There is no current instance where one is needed. -/
  | noInstance
  /-- A hook named a redirect target by something that is no text. -/
  | targetKind (kind : Kind)
  /-- A hook was called with something that it cannot work on. -/
  | badCall
  /-- A hook was called with something that has no entries. -/
  | noEntries
  /-- Hooks called each other back more deeply than the host allows. -/
  | tooDeep
  | missingFile
  | isDirectory
  /-- A path that goes on behind a file. -/
  | notDirectory
  /-- A path that no file can have. -/
  | pathTooLong
  /-- A settings document that is no record. -/
  | notRecord
  | unknownBackend (name : String)
  | unknownLevel

namespace Failure

/-- The text of a failure that is reported in words. -/
def message : Failure → String
  | value fault => fault.message
  | binding fault => fault.message
  | configuration fault => fault.message
  | unknownWorkflow name => s!"Unknown workflow: {Text.quote name}"
  | active label => s!"Cannot invoke workflow: {label} is already active"
  | nothingToComplete => "No active stage to complete"
  | stageNotExposed => "Dispatcher did not expose the activated stage"
  | nothingToResume => "No suspended workflow to resume"
  | nothingSuspended => "No suspended workflow"
  | alreadyFinished stage => s!"Stage '{stage}' already finished"
  | raised message => message
  | unknownBackend name => s!"Unsupported dispatcher backend: {name}"
  | _ => ""

/-- The failures of the workflow engine itself, which the command line reports in words. -/
def isReported : Failure → Bool
  | value fault =>
    fault.isTypeFault || (match fault with | .unknownReference _ => true | _ => false)
  | binding _ | configuration _ | unknownWorkflow _ | active _ | nothingToComplete
  | stageNotExposed | nothingToResume | nothingSuspended | alreadyFinished _ => true
  | _ => false

end Failure

end Workflow
