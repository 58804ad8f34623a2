import Workflow.Hook.Import

/-!
# Modules of hooks

The modules that hooks can be imported from: those of the engine itself, a demonstration module and
the signup example.
-/

namespace Workflow.HookModule

/-- The exports of ready-made hooks under their own names. -/
def exportsOf (hooks : List ReadyHook) : Entries String Exported :=
  hooks.map fun hook => (hook.name, .hook (.ready hook))

/-- The hooks that stand in where none is given. -/
def defaults : Entries String Exported :=
  [("always_valid", .hook .alwaysValid), ("identity_acceptor", .hook .identityAcceptor)]

/-- Exports that cannot be called. -/
def constants (names : List String) : Entries String Exported :=
  names.map fun name => (name, .constant)

/-- The modules of the engine.  A module has the default hooks and the constants that it declares or
uses; the others can only be named. -/
def engine : List HookModule :=
  [ { name := "stageflow", isPackage := true, exports := defaults },
    { name := "stageflow.cli" },
    { name := "stageflow.config"
      exports :=
        constants ["CANCEL_WORKFLOW_NAME", "DEFAULT_CANCEL_CONTENT", "DEFAULT_CONTINUE_KEY"] },
    { name := "stageflow.constants"
      exports :=
        constants
          ["CANCEL_WORKFLOW_NAME", "DEFAULT_CANCEL_CONTENT", "DEFAULT_CONTINUE_KEY",
            "CANCEL_ERROR_ARGUMENT"] },
    { name := "stageflow.content", isPackage := true },
    { name := "stageflow.content.base" },
    { name := "stageflow.content.console" },
    { name := "stageflow.content.inmemory" },
    { name := "stageflow.contracts", exports := defaults },
    { name := "stageflow.controller", exports := constants ["CANCEL_ERROR_ARGUMENT"] },
    { name := "stageflow.errors" },
    { name := "stageflow.parsing" },
    { name := "stageflow.registry", isPackage := true },
    { name := "stageflow.registry.loader" },
    { name := "stageflow.registry.workflows", exports := defaults },
    { name := "stageflow.resolver", exports := constants ["LITERAL_PREFIX", "VALUE_PREFIX"] },
    { name := "stageflow.suspension" },
    { name := "stageflow.values" } ]

/-- The demonstration module under a given name; it also has an object that cannot be called. -/
def demonstration (name : String) : HookModule :=
  { name
    exports :=
      ("NOT_CALLABLE", .constant) ::
        exportsOf
          [.reject, .bareFalse, .checkAge, .checkName, .acceptNone, .acceptDone, .acceptValues,
            .redirectFirst, .redirectEnd] }

/-- The module of the signup example. -/
def signup : HookModule :=
  { name := "signup_workflow"
    exports := exportsOf [.checkSignupName, .needsAddress, .acceptAddress] }

end Workflow.HookModule
