import Workflow.Document.Field
import Workflow.Failure

/-!
# Settings

What can be set about the engine: the workflow that asks whether to continue after a rejection, how
stages are shown, where the registered workflows are declared and how much is logged.
-/

namespace Workflow

/-- How stages are shown. -/
inductive Backend where
  | inMemory
  | console
  deriving DecidableEq, Repr

namespace Backend

/-- The word for a backend. -/
def name : Backend → String
  | inMemory => "inmemory"
  | console => "console"

/-- The backend that goes by a word. -/
def ofName? (word : String) : Option Backend :=
  [inMemory, console].find? fun backend => backend.name == word

end Backend

/-- The argument under which the built-in workflow is told why an output was rejected. -/
def cancelErrorArgument : String := "error"

/-- The built-in workflow that asks whether to continue. -/
structure ControllerSettings where
  cancelWorkflow : String := "__CancelRequest"
  cancelContent : String := "CancelRequest(error)"
  continueKey : String := "continue"
  deriving DecidableEq, Repr

/-- All settings. -/
structure Settings where
  controller : ControllerSettings := {}
  backend : Backend := .inMemory
  registryFile : Option String := none
  logLevel : String := "WARNING"
  deriving DecidableEq, Repr

namespace Settings

/-- The part of a document on the built-in workflow. -/
def controllerOf (fields : List (Value × Value)) : Checked ControllerSettings :=
  let defaults : ControllerSettings := {}
  Checked.apply
    (Checked.zipWith ControllerSettings.mk
      (Field.optional fields "cancel_workflow" Field.text defaults.cancelWorkflow)
      (Field.optional fields "cancel_content" Field.text defaults.cancelContent))
    (Field.optional fields "continue_key" Field.text defaults.continueKey)

/-- The part of a document on how stages are shown. -/
def backendOf (fields : List (Value × Value)) : Checked Backend :=
  (Field.optional fields "backend" (Field.word ["inmemory", "console"]) "inmemory").map fun word =>
    (Backend.ofName? word).getD .inMemory

/-- The settings in the fields of a document; fields that are not known are passed over. -/
def ofFields (fields : List (Value × Value)) : Checked Settings :=
  let defaults : Settings := {}
  Checked.apply
    (Checked.apply
      (Checked.zipWith Settings.mk
        (Field.optional fields "controller" (Field.record controllerOf) defaults.controller)
        (Field.optional fields "dispatcher" (Field.record backendOf) defaults.backend))
      (Field.optional fields "registry_file" Field.text? defaults.registryFile))
    (Field.optional fields "log_level" Field.text defaults.logLevel)

/-- Whether all keys are texts. -/
def hasTextKeys (fields : List (Value × Value)) : Bool :=
  fields.all fun field => field.1.kind == .text

/-- The settings in a document; an empty document leaves everything at its default. -/
def ofDocument (document : Value) : Except Failure Settings :=
  if document.isTruthy then
    match document with
    | .dict fields =>
      if hasTextKeys fields then (ofFields fields).mapError Failure.invalid
      else .error .notRecord
    | _ => .error .notRecord
  else .ok {}

end Settings

end Workflow
