import Workflow.Hook.Basic
import Workflow.Text.Split

/-!
# Importing hooks

A hook can be named by a path: a module, a separator and the name of something that the module
exports.  Modules are nested by points in their names, and only packages have modules inside; the
modules around a module are looked for first.
-/

namespace Workflow

/-- Something that can be imported from a module: a hook, or an object that cannot be called. -/
inductive Exported where
  | hook (hook : Hook)
  | constant
  deriving DecidableEq, Repr

/-- A module that hooks can be imported from. -/
structure HookModule where
  name : String
  isPackage : Bool := false
  exports : Entries String Exported := []

namespace HookModule

/-- The module and the name that a path consists of: a colon separates them, or else the last
point. -/
def splitPath? (path : String) : Option (String × String) :=
  let text := path.toList
  let parts :=
    match Text.cut ':' text with
    | some parts => parts
    | none => (Text.cutLast '.' text).getD ([], text)
  if parts.1.isEmpty || parts.2.isEmpty then none
  else some (String.ofList parts.1, String.ofList parts.2)

/-- The names of the modules around a module, the outermost first, and its own name. -/
def ancestry (name : String) : List String :=
  let parts := (Text.splitAt '.' name.toList).map String.ofList
  (List.range parts.length).map fun count => ".".intercalate (parts.take (count + 1))

/-- Looks for modules one inside of the other; the one around has to be a package. -/
def findNested (modules : List HookModule) (around : Option HookModule) :
    List String → Except ImportFault (Option HookModule)
  | [] => .ok around
  | name :: names =>
    match around with
    | some parent =>
      if parent.isPackage then visit modules name names
      else .error (.notPackage name parent.name)
    | none => visit modules name names
where
  /-- Finds one module and goes on inside of it. -/
  visit (modules : List HookModule) (name : String) (names : List String) :
      Except ImportFault (Option HookModule) :=
    match modules.find? fun found => found.name == name with
    | some found => findNested modules (some found) names
    | none => .error (.noModule name)

/-- Whether a module lies directly inside of another one, under a name without points. -/
def isInside (outer : HookModule) (name : String) (inner : HookModule) : Bool :=
  Text.cutLast '.' inner.name.toList == some (outer.name.toList, name.toList)

/-- What a module has under a name; a package also has the modules directly inside of it. -/
def export? (modules : List HookModule) (found : HookModule) (name : String) : Option Exported :=
  match Entries.lookup found.exports name with
  | some exported => some exported
  | none => if modules.any (isInside found name) then some .constant else none

/-- Imports the hook that a path names. -/
def importHook (modules : List HookModule) (path : String) : Except Failure Hook :=
  match splitPath? path with
  | none => .error (.configuration (.invalidPath path))
  | some (moduleName, name) =>
    if moduleName.toList.head? = some '.' then .error .badCall
    else
      match findNested modules none (ancestry moduleName) with
      | .error fault => .error (.configuration (.importFailed path fault))
      | .ok none => .error (.configuration (.invalidPath path))
      | .ok (some found) =>
        match export? modules found name with
        | none => .error (.configuration (.importFailed path (.noAttribute found.name name)))
        | some .constant => .error (.configuration (.notCallable path))
        | some (.hook hook) => .ok hook

end HookModule

end Workflow
