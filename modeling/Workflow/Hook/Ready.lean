import Workflow.Failure

/-!
# Ready-made hooks

Hooks without memory, which answer from their arguments alone: those of the demonstration module and
those of the signup example.  A hook that looks at one mapping takes one argument; a hook that
decides on a redirect takes the stage, the name of the next stage, the verdict and the values.
-/

namespace Workflow

/-- A hook that is a function of its arguments. -/
inductive ReadyHook where
  | reject
  | bareFalse
  | checkAge
  | checkName
  | acceptNone
  | acceptDone
  | acceptValues
  | redirectFirst
  | redirectEnd
  | checkSignupName
  | needsAddress
  | acceptAddress
  deriving DecidableEq, Repr

namespace ReadyHook

/-- The name that a hook has in its module. -/
def name : ReadyHook → String
  | reject => "reject"
  | bareFalse => "bare_false"
  | checkAge => "check_age"
  | checkName => "check_name"
  | acceptNone => "accept_none"
  | acceptDone => "accept_done"
  | acceptValues => "accept_values"
  | redirectFirst => "redirect_first"
  | redirectEnd => "redirect_end"
  | checkSignupName => "check_name"
  | needsAddress => "needs_address"
  | acceptAddress => "accept_address"

/-- Whether a hook decides on redirects, and so takes four arguments. -/
def isRedirector : ReadyHook → Bool
  | redirectFirst | redirectEnd | needsAddress => true
  | _ => false

/-- The verdict of a validator. -/
def verdict (valid : Bool) (message : Value) : Value :=
  .tuple [.bool valid, message]

/-- The value that a mapping has under a key, or the default. -/
def lookup (mapping : Value) (key : String) (default : Value) : Except Failure Value :=
  match mapping with
  | .dict entries => .ok ((Entries.lookup entries (.text key)).getD default)
  | _ => .error .noEntries

/-- Whether a text occurs within another one. -/
def occursIn (part : List Char) : List Char → Bool
  | [] => part.isEmpty
  | c :: rest => part.isPrefixOf (c :: rest) || occursIn part rest

/-- Whether a text is among the keys of a mapping, the items of a list or the parts of a text. -/
def isWithin (part : String) : Value → Except Failure Bool
  | .dict entries => .ok (Entries.has entries (.text part))
  | .list items => .ok (items.any (· == .text part))
  | .tuple items => .ok (items.any (· == .text part))
  | .text string => .ok (occursIn part.toList string.toList)
  | _ => .error .badCall

/-- The answer of a hook that takes one mapping. -/
def answerTo (mapping : Value) : ReadyHook → Except Failure Value
  | reject => .ok (verdict false (.text "nope"))
  | bareFalse => .ok (.bool false)
  | checkAge => do
    let age ← lookup mapping "age" .null
    let isNumber := age.kind == .int || age.kind == .bool
    return verdict isNumber (.text "age must be a number")
  | checkName => do
    let name ← lookup mapping "name" .null
    return verdict name.isTruthy (.text "name is required")
  | acceptNone => .ok .null
  | acceptDone => .ok (.dict [(.text "done", .bool true)])
  | acceptValues => .ok mapping
  | checkSignupName => do
    let name ← lookup mapping "name" .null
    return if name.isTruthy then verdict true .null else verdict false (.text "A name is required")
  | acceptAddress => do
    let street ← lookup mapping "street" (.text "")
    let country ← lookup mapping "country" (.text "")
    return .dict [(.text "street", street), (.text "country", country)]
  | redirectFirst | redirectEnd | needsAddress => .error .badCall

/-- The target that a redirector names, or nothing. -/
def targetFor (stage next values : Value) : ReadyHook → Except Failure Value
  | redirectFirst => .ok (if stage == .int 1 then .text "Side(mode=quick)" else .null)
  | redirectEnd => .ok (if next.kind == .null then .text "Side" else .null)
  | needsAddress =>
    if next == .text "Summary" then do
      let known ← isWithin "street" values
      return if known then .null else .text "Address(country=CA)"
    else .ok .null
  | _ => .error .badCall

/-- The answer to a list of arguments, which has to be of the right length. -/
def answer (hook : ReadyHook) : List Value → Except Failure Value
  | [mapping] => hook.answerTo mapping
  | [stage, next, _, values] => hook.targetFor stage next values
  | _ => .error .badCall

end ReadyHook

end Workflow
