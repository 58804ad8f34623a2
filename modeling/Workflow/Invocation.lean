import Workflow.Call
import Workflow.Entries
import Workflow.Text.Quoted

/-!
# Invocations

A workflow is invoked by its name, and may be given bindings in parentheses: keys and values with an
equals sign between them, separated by commas.  `Invocation.parse` reads an invocation and
`Invocation.render` writes one.  Bindings are also what the command line reads as the output of a
stage.
-/

namespace Workflow

/-- Why a text is no list of bindings; the part of it that is to blame is kept. -/
inductive BindingFault where
  | noEquals (part : String)
  | noKey (part : String)
  deriving DecidableEq, Repr

/-- The text of a fault in bindings. -/
def BindingFault.message : BindingFault → String
  | noEquals part => s!"Expected key=value, got {Text.quote part}"
  | noKey part => s!"Missing key in {Text.quote part}"

/-- Bindings of texts to keys, in the order in which the keys first came up. -/
abbrev Bindings := Entries String String

namespace Bindings

/-- Reads one binding; the first equals sign separates the key from the value. -/
def parsePair (part : List Char) : Except BindingFault (String × String) :=
  match Text.cut '=' part with
  | none => .error (.noEquals (String.ofList (Text.trim part)))
  | some (key, value) =>
    let key := Text.trim key
    if key.isEmpty then .error (.noKey (String.ofList (Text.trim part)))
    else .ok (String.ofList key, String.ofList (Text.trim value))

/-- Reads the parts of a list of bindings; blank parts bind nothing. -/
def parseParts (bound : Bindings) : List (List Char) → Except BindingFault Bindings
  | [] => .ok bound
  | part :: parts =>
    if Text.isBlankText part then parseParts bound parts
    else
      match parsePair part with
      | .ok (key, value) => parseParts (Entries.put bound key value) parts
      | .error fault => .error fault

/-- Reads a list of bindings; a later binding of a key replaces an earlier one. -/
def parse (text : List Char) : Except BindingFault Bindings :=
  parseParts [] (Text.splitAt ',' text)

/-- Writes a list of bindings. -/
def render (bindings : Bindings) : String :=
  ", ".intercalate (bindings.map fun binding => s!"{binding.1}={binding.2}")

end Bindings

/-- A request for a workflow, with bindings for its arguments if it was written with parentheses. -/
structure Invocation where
  name : String
  arguments : Option Bindings
  deriving DecidableEq, Repr

namespace Invocation

/-- Reads an invocation. -/
def parse (text : String) : Except BindingFault Invocation :=
  let text := Text.trim text.toList
  match Text.call? text with
  | none => .ok ⟨String.ofList text, none⟩
  | some (name, body) =>
    (Bindings.parse body).map fun bindings => ⟨String.ofList name, some bindings⟩

/-- Writes an invocation. -/
def render (invocation : Invocation) : String :=
  match invocation.arguments with
  | none => invocation.name
  | some bindings => s!"{invocation.name}({bindings.render})"

end Invocation

end Workflow
