import Workflow.Console.Session
import Workflow.Document.Json
import Workflow.Hook.Modules

/-!
# The command line

Reads documents, environment and lines, and prints what the session says.
-/

namespace Workflow.Terminal

/-- The variables of the environment that matter. -/
def environment : IO (Entries String String) := do
  let names := ["STAGEFLOW_CONFIG", "STAGEFLOW_REGISTRY", "STAGEFLOW_DISPATCHER"]
  let found ← names.mapM fun name => do return (name, ← IO.getEnv name)
  return found.filterMap fun (name, text) => text.map fun text => (name, text)

/-- The document in a file, under the normal form of its path; there may be no such file. -/
def documentAt (path : String) : IO (Entries String Value) := do
  match ← (IO.FS.readFile path).toBaseIO with
  | .error _ => return []
  | .ok text =>
    match Json.document? text with
    | some document => return [(Path.normal path, document)]
    | none => throw (IO.userError s!"{path} is no JSON document")

/-- The path of the registry document that a request asks for. -/
def requestedRegistry : Console.Request → Option String
  | .parse _ => none
  | .list registry => registry
  | .show _ registry => registry
  | .run _ registry _ => registry

/-- The documents that a request may need. -/
def workspaceFor (request : Console.Request) : IO Workspace := do
  let bare : Workspace := { environment := ← environment }
  let settingsFile ← documentAt (bare.settingsPath none)
  let workspace := { bare with files := settingsFile }
  let configured := (workspace.settings none).toOption.bind Settings.registryFile
  match (requestedRegistry request).orElse fun _ => configured with
  | none => return workspace
  | some path => return { workspace with files := settingsFile ++ (← documentAt path) }

/-- Ends the program. -/
def finish (ending : Console.Ending) : IO UInt32 := do
  match ending with
  | .exited code => return UInt32.ofNat code
  | .failed failure =>
    IO.eprintln s!"Unexpected failure. {failure.message}"
    return 1

/-- Prints a turn and goes on with the lines that are typed. -/
partial def converse (turn : Console.Turn) : IO UInt32 := do
  IO.print turn.output
  IO.eprint turn.errors
  (← IO.getStdout).flush
  match turn.next with
  | .ended ending => finish ending
  | .waiting session =>
    let typed ← (← IO.getStdin).getLine
    match (Console.lines typed).head? with
    | some line => converse (session.submit line)
    | none =>
      IO.eprint Console.Session.abortedText
      finish Console.Session.aborted

end Workflow.Terminal

open Workflow in
/-- Answers the request of a command line. -/
def main (arguments : List String) : IO UInt32 := do
  match Console.Request.ofArguments? arguments with
  | none =>
    IO.eprintln "Usage: workflow parse|list|show ..., or run INVOCATION"
    return 2
  | some request =>
    let workspace ← Terminal.workspaceFor request
    let programs : Programs := { modules := HookModule.engine ++ [HookModule.signup] }
    Terminal.converse (Console.respond programs workspace request)
