import Workflow.Engine.Behaviour

/-!
# Scripted hooks

A hook can be written down as a list of cases.  When it is called, the first case whose conditions
hold is played: it writes entries to the mapping, performs operations, and then fails or answers.
-/

namespace Workflow

/-- A condition under which a case is played. -/
inductive Condition where
  /-- The hook was called before exactly so often. -/
  | call (number : Int)
  /-- A redirector is asked at this stage. -/
  | stage (number : Int)
  /-- A redirector is asked before this stage, or after the last one. -/
  | next (name : Option String)
  | has (key : String)
  | missing (key : String)
  | truthy (key : String)
  deriving DecidableEq, Repr

/-- How a case ends. -/
inductive Reply where
  | raise (message : String)
  /-- Answers with the mapping as it is then. -/
  | mapping
  | value (value : Value)

/-- A case of a scripted hook. -/
structure Case where
  conditions : List Condition
  writes : List (Value × Value)
  /-- The operations to perform; a case without any leaves no record of them. -/
  operations : Option (List Operation)
  reply : Reply

/-- A hook that is written down as cases. -/
structure Script where
  role : Role
  cases : List Case

namespace Condition

/-- The stage and the next stage that a redirector is asked about. -/
def redirectArguments? : List Value → Option (Value × Value)
  | [reached, following, _, _] => some (reached, following)
  | _ => none

/-- Whether a condition holds on an occasion on which the mapping has the given entries. -/
def holds (occasion : Occasion) (entries : List (Value × Value)) : Condition → Bool
  | call number => decide ((occasion.call : Int) = number)
  | stage number =>
    match redirectArguments? occasion.arguments with
    | some (reached, _) => reached == .int number
    | none => false
  | next name =>
    match redirectArguments? occasion.arguments with
    | some (_, following) => following == (name.map Value.text).getD .null
    | none => false
  | has key => Entries.has entries (.text key)
  | missing key => !Entries.has entries (.text key)
  | truthy key => ((Entries.lookup entries (.text key)).map Value.isTruthy).getD false

end Condition

namespace Case

/-- Performs operations one after the other and keeps their outcomes. -/
def performAll (record : List (Operation × Except Failure Answer) → Behaviour) :
    List (Operation × Except Failure Answer) → List Operation → Behaviour
  | outcomes, [] => record outcomes.reverse
  | outcomes, operation :: rest =>
    .operate operation fun outcome => performAll record ((operation, outcome) :: outcomes) rest

/-- The last thing that a case does. -/
def ending : Reply → Behaviour
  | .raise message => .fail (.raised message)
  | .mapping => .look fun entries => .reply (.dict entries)
  | .value value => .reply value

/-- What a case does on an occasion. -/
def behaviour (occasion : Occasion) (played : Case) : Behaviour :=
  let afterWrites :=
    match played.operations with
    | none => ending played.reply
    | some operations =>
      performAll (fun outcomes => .tell (.performed occasion.consultation outcomes)
        (ending played.reply)) [] operations
  played.writes.foldr (fun (key, value) next => .write key value next) afterWrites

end Case

namespace Script

/-- What a hook answers when none of its cases applies. -/
def otherwise : Role → Value
  | .validator => ReadyHook.verdict true .null
  | .acceptor | .redirector => .null

/-- What a scripted hook does on an occasion. -/
def behaviour (script : Script) (occasion : Occasion) : Behaviour :=
  .look fun entries =>
    match script.cases.find? fun played => played.conditions.all (·.holds occasion entries) with
    | some played => played.behaviour occasion
    | none => .reply (otherwise script.role)

/-- The programs of a list of scripts, by their positions. -/
def programs (scripts : List Script) (modules : List HookModule) : Programs :=
  { behaviour := fun program occasion =>
      match scripts[program]? with
      | some script => script.behaviour occasion
      | none => .fail .badCall
    modules }

end Script

end Workflow
