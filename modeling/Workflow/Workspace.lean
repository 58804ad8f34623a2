import Workflow.Path
import Workflow.Settings
import Workflow.Text.LowerCase

/-!
# Workspaces

The documents in the working directory and the environment variables, which between them decide the
settings that are in force.
-/

namespace Workflow

/-- The documents by their names, and the variables that are set. -/
structure Workspace where
  files : Entries String Value := []
  environment : Entries String String := []

namespace Workspace

/-- A variable of the environment. -/
def fromEnvironment? (workspace : Workspace) (name : String) : Option String :=
  Entries.lookup workspace.environment name

/-- The document whose path is the given one in its normal form. -/
def nearest? (workspace : Workspace) (path : String) : Option Value :=
  Entries.lookup workspace.files (Path.normal path)

/-- The document at a path. -/
def document? (workspace : Workspace) (path : String) : Option Value :=
  if path = "" || Path.endsAsDirectory path then none else workspace.nearest? path

/-- Whether there is something at a path. -/
def contains (workspace : Workspace) (path : String) : Bool :=
  Path.isDirectory path || (workspace.document? path).isSome

/-- Reads the document at a path.  A path that ends as only a directory's may does not lead to a
document. -/
def read (workspace : Workspace) (path : String) : Except Failure Value :=
  if Path.isDirectory path then .error .isDirectory
  else
    match workspace.document? path, workspace.nearest? path with
    | some document, _ => .ok document
    | none, some _ => .error .notDirectory
    | none, none => .error .missingFile

/-- The path of the settings: the one that is asked for, else the one that the environment names. -/
def settingsPath (workspace : Workspace) (asked : Option String) : String :=
  (Text.given? asked).getD ((workspace.fromEnvironment? "STAGEFLOW_CONFIG").getD "stageflow.yaml")

/-- The settings that are in force; the environment may name another registry file. -/
def settings (workspace : Workspace) (asked : Option String) : Except Failure Settings := do
  let path := workspace.settingsPath asked
  let settings ←
    if workspace.contains path then workspace.read path >>= Settings.ofDocument else pure {}
  match Text.given? (workspace.fromEnvironment? "STAGEFLOW_REGISTRY") with
  | some path => return { settings with registryFile := some path }
  | none => return settings

/-- How stages are shown: as asked for, as the environment says, or as set, in this order. -/
def backend (workspace : Workspace) (asked : Option String) (settings : Settings) :
    Except Failure Backend :=
  let word := (Text.given? asked).getD
    ((Text.given? (workspace.fromEnvironment? "STAGEFLOW_DISPATCHER")).getD settings.backend.name)
  let word := String.ofList (Text.lower word.toList)
  match Backend.ofName? word with
  | some backend => .ok backend
  | none => .error (.unknownBackend word)

end Workspace

end Workflow
