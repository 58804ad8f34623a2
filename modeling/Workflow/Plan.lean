import Workflow.Call

/-!
# Plans

A workflow is defined by a text of stages separated by semicolons.  A stage is a name, and may list
argument tokens in parentheses; a stage without parentheses declares no arguments, which is
something else than an empty list of them.  `Plan.parse` reads such a text and `Plan.render` writes
one.
-/

namespace Workflow

/-- One stage as it is defined: its name and the tokens of its arguments, if it declares any. -/
structure StagePlan where
  name : String
  tokens : Option (List String)
  deriving DecidableEq, Repr

/-- The stages of a workflow in order. -/
abbrev Plan := List StagePlan

namespace StagePlan

/-- The tokens in the parentheses of a stage. -/
def parseTokens (body : List Char) : List String :=
  if Text.isBlankText body then []
  else (Text.splitAt ',' body).map fun token => String.ofList (Text.trim token)

/-- Reads one stage. -/
def parse (text : List Char) : StagePlan :=
  let text := Text.trim text
  match Text.call? text with
  | some (name, body) => ⟨String.ofList name, some (parseTokens body)⟩
  | none => ⟨String.ofList text, none⟩

/-- The written form of argument tokens. -/
def renderTokens : Option (List String) → String
  | none => ""
  | some tokens => "(" ++ ", ".intercalate tokens ++ ")"

/-- Writes one stage. -/
def render (stage : StagePlan) : String :=
  stage.name ++ renderTokens stage.tokens

end StagePlan

namespace Plan

/-- The parts of a definition text that are not blank. -/
def chunks (text : List Char) : List (List Char) :=
  (Text.splitAt ';' text).filter fun chunk => !Text.isBlankText chunk

/-- Reads a definition text; blank parts are no stages. -/
def parse (text : String) : Plan :=
  (chunks text.toList).map StagePlan.parse

/-- The names of the stages. -/
def names (plan : Plan) : List String :=
  plan.map (·.name)

/-- The tokens of the stages. -/
def tokens (plan : Plan) : List (Option (List String)) :=
  plan.map (·.tokens)

/-- There is a stage for every part that is not blank. -/
theorem length_parse (text : String) : (parse text).length = (chunks text.toList).length := by
  simp [parse]

/-- Names and tokens come in step. -/
theorem length_names (plan : Plan) : plan.names.length = plan.tokens.length := by
  simp [names, tokens]

/-- Writes a definition text. -/
def render (plan : Plan) : String :=
  ";".intercalate (plan.map StagePlan.render)

end Plan

end Workflow
