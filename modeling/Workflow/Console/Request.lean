import Workflow.Text.Split

/-!
# Requests on the command line

What the words of a command line ask for.  Options may stand among the other words, their values
follow them or are joined to them by an equals sign, and two dashes alone end the options.
-/

namespace Workflow.Console

/-- What a command line asks for. -/
inductive Request where
  /-- Shows how a definition text is split. -/
  | parse (plan : String)
  /-- Lists registered workflows. -/
  | list (registry : Option String)
  /-- Shows one registered workflow. -/
  | show (name : String) (registry : Option String)
  /-- Runs a workflow. -/
  | run (invocation : String) (registry logLevel : Option String)
  deriving DecidableEq, Repr

/-- The words of a command, with its options set apart. -/
structure Words where
  positionals : List String := []
  options : List (String × String) := []
  deriving DecidableEq, Repr

namespace Words

/-- Whether a word is written like an option. -/
def isOption (word : String) : Bool :=
  match word.toList with
  | '-' :: _ :: _ => true
  | _ => false

/-- Adds a positional word in front. -/
def addPositional (word : String) (words : Words) : Words :=
  { words with positionals := word :: words.positionals }

/-- Adds an option in front. -/
def addOption (name value : String) (words : Words) : Words :=
  { words with options := (name, value) :: words.options }

/-- Sorts words into positionals and known options; a pending option takes the next word. -/
def sort (known : List String) : Option String → List String → Option Words
  | none, [] => some {}
  | some _, [] => none
  | some name, value :: rest => (sort known none rest).map (addOption name value)
  | none, word :: rest =>
    if word = "--" then some { positionals := rest }
    else if isOption word then
      match Text.cut '=' word.toList with
      | some (name, value) =>
        if known.contains (String.ofList name) then
          (sort known none rest).map (addOption (String.ofList name) (String.ofList value))
        else none
      | none => if known.contains word then sort known (some word) rest else none
    else (sort known none rest).map (addPositional word)

/-- The value of an option; of several the last counts. -/
def option? (words : Words) (name : String) : Option String :=
  (words.options.reverse.find? fun option => option.1 == name).map (·.2)

end Words

namespace Request

/-- The name of a command and the words behind it. -/
def command? : List String → Option (String × List String)
  | "--" :: name :: rest => some (name, rest)
  | name :: rest => if Words.isOption name then none else some (name, rest)
  | [] => none

/-- The request of a command on workflows. -/
def ofWorkflowCommand? (name : String) (rest : List String) : Option Request :=
  match name with
  | "parse" => do
    let words ← Words.sort [] none rest
    match words.positionals with
    | [plan] => some (.parse plan)
    | _ => none
  | "list" => do
    let words ← Words.sort ["--registry"] none rest
    match words.positionals with
    | [] => some (.list (words.option? "--registry"))
    | _ => none
  | "show" => do
    let words ← Words.sort ["--registry"] none rest
    match words.positionals with
    | [name] => some (.show name (words.option? "--registry"))
    | _ => none
  | _ => none

/-- The request of a command line, if it is a proper one. -/
def ofArguments? (arguments : List String) : Option Request := do
  let (name, rest) ← command? arguments
  match name with
  | "workflow" => do
    let (name, rest) ← command? rest
    ofWorkflowCommand? name rest
  | "run" => do
    let words ← Words.sort ["--registry", "--log-level"] none rest
    match words.positionals with
    | [invocation] =>
      some (.run invocation (words.option? "--registry") (words.option? "--log-level"))
    | _ => none
  | _ => none

end Request

end Workflow.Console
