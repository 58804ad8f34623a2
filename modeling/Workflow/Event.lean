import Workflow.Operation

/-!
# Events

Everything that happens in an engine is kept in its journal as events.  Some of them are logged,
`Event.record?` says how; others are calls of hooks, lines that are displayed, or answers given.
-/

namespace Workflow

/-- How serious a log record is. -/
inductive LogLevel where
  | all
  | debug
  | info
  | warning
  | error
  | critical
  deriving DecidableEq, Repr

namespace LogLevel

/-- Levels are ordered by how serious they are. -/
def severity : LogLevel → Nat
  | all => 0
  | debug => 10
  | info => 20
  | warning => 30
  | error => 40
  | critical => 50

/-- The name of a level. -/
def name : LogLevel → String
  | all => "NOTSET"
  | debug => "DEBUG"
  | info => "INFO"
  | warning => "WARNING"
  | error => "ERROR"
  | critical => "CRITICAL"

/-- The level that goes by a name; two levels have a second name. -/
def ofName? (name : String) : Option LogLevel :=
  if name = "WARN" then some warning
  else if name = "FATAL" then some critical
  else [all, debug, info, warning, error, critical].find? fun level => level.name == name

end LogLevel

/-- A line of the log. -/
structure LogRecord where
  level : LogLevel
  source : String
  message : String
  deriving DecidableEq, Repr

/-- A log record with its level and its source in front. -/
def LogRecord.line (record : LogRecord) : String :=
  s!"{record.level.name}:{record.source}:{record.message}"

/-- Something that happened. -/
inductive Event where
  | planParsed (text : String) (stages : List String)
  | replacing (name : String)
  | registered (name : String) (stages : List String)
  | loaded (count : Nat) (path : String)
  | suspended (inst : Option Nat) (label : String) (depth : Nat)
  | popped (inst : Option Nat) (label : String) (depth : Nat)
  | abandoned (inst : Nat) (name : String)
  | activated (stage : String) (arguments : Option (List String))
  | deactivated
  | displayed (line : String)
  | invoking (inst : Nat) (invocation : Invocation)
  /-- A hook was called: about which instance and with which question, unless it was called
  directly. -/
  | consulted (hook : Hook) (asked : Option (Nat × Question)) (arguments : List Value)
  | rejected (inst : Nat) (stageName : Option String) (stage : Int) (error : Value)
  | accepted (inst : Nat) (stageName : Option String) (stage : Int) (staged : ValueMap)
  | redirecting (inst : Nat) (stageName : Option String) (stage : Int) (target : String)
  | holding (inst : Nat) (name : String)
  | exiting (inst : Nat) (name : String) (stage : Int)
  | restoring (inst : Nat) (name : String) (stage : Int)
  | idle
  /-- An invocation from outside has returned this instance. -/
  | returned (inst : Nat)
  /-- A hook has performed operations during the consultation of this number. -/
  | performed (consultation : Nat) (outcomes : List (Operation × Except Failure Answer))

namespace Event

/-- How messages refer to a stage: its name and its number. -/
def stageLabel (stageName : Option String) (stage : Int) : String :=
  let name := stageName.getD "None"
  s!"{name}/{stage}"

/-- The log record of an event, if it is logged. -/
def record? : Event → Option LogRecord
  | planParsed text stages =>
    some ⟨.debug, "stageflow.parsing",
      s!"Parsed definition {Text.quote text} into stages {Text.quoteList stages}"⟩
  | replacing name =>
    some ⟨.warning, "stageflow.registry.workflows", s!"Replacing existing workflow '{name}'"⟩
  | registered name stages =>
    some ⟨.debug, "stageflow.registry.workflows",
      s!"Registered workflow '{name}' with stages {Text.quoteList stages}"⟩
  | loaded count path =>
    some ⟨.info, "stageflow.registry.loader", s!"Loaded {count} workflows from {path}"⟩
  | suspended _ label depth =>
    some ⟨.debug, "stageflow.suspension", s!"Suspended {label} (depth {depth})"⟩
  | popped _ label depth =>
    some ⟨.debug, "stageflow.suspension", s!"Popped {label} (depth {depth})"⟩
  | abandoned _ name =>
    some ⟨.info, "stageflow.suspension", s!"Abandoned suspended workflow '{name}'"⟩
  | activated stage arguments =>
    some ⟨.debug, "stageflow.content.inmemory",
      s!"Activated stage '{stage}' with {Text.quoteList? arguments}"⟩
  | invoking _ invocation =>
    some ⟨.info, "stageflow.controller", s!"Invoking workflow '{invocation.render}'"⟩
  | rejected _ stageName stage error =>
    some ⟨.info, "stageflow.controller",
      s!"Stage {stageLabel stageName stage} has invalid output: {error.toText}"⟩
  | accepted _ stageName stage _ =>
    some ⟨.info, "stageflow.controller",
      s!"Stage {stageLabel stageName stage} has valid output"⟩
  | redirecting _ stageName stage target =>
    some ⟨.info, "stageflow.controller",
      s!"Stage {stageLabel stageName stage} is redirecting to {target}"⟩
  | holding _ name =>
    some ⟨.info, "stageflow.controller", s!"Holding workflow '{name}'"⟩
  | exiting _ name stage =>
    some ⟨.info, "stageflow.controller", s!"Workflow '{name}' is exiting at stage {stage}"⟩
  | restoring _ name stage =>
    some ⟨.info, "stageflow.controller", s!"Restoring workflow '{name}' at stage {stage}"⟩
  | idle => some ⟨.info, "stageflow.controller", "No held workflows, controller is idle"⟩
  | deactivated | displayed _ | consulted _ _ _ | returned _ | performed _ _ => none

/-- The line that an event displays, if it does. -/
def line? : Event → Option String
  | displayed line => some line
  | _ => none

end Event

/-- The log records of events that are at least as serious as a level. -/
def logAt (level : LogLevel) (events : List Event) : List LogRecord :=
  (events.filterMap Event.record?).filter fun record => level.severity ≤ record.level.severity

end Workflow
