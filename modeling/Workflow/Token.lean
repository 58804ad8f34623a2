import Workflow.Instance

/-!
# Argument tokens

The tokens of a stage say where its arguments come from: a token with a colon in front is passed on
as it is, one with an exclamation mark names an accumulated value, and any other token names a
binding of the invocation.  Resolving reads the instance and changes nothing.
-/

namespace Workflow

/-- Where an argument comes from. -/
inductive Token where
  | literal (text : String)
  | value (key : String)
  | parameter (name : String)
  deriving DecidableEq, Repr

namespace Token

/-- The source that a token names by its first character. -/
def classify (token : String) : Token :=
  match token.toList with
  | ':' :: rest => literal (String.ofList rest)
  | '!' :: rest => value (String.ofList rest)
  | _ => parameter token

/-- The name of the kind of a token. -/
def kindName : Token → String
  | literal _ => "literal"
  | value _ => "value"
  | parameter _ => "parameter"

/-- What a token says apart from its kind. -/
def key : Token → String
  | literal text => text
  | value key => key
  | parameter name => name

/-- The argument that a token stands for; a binding that is missing is the default.  Arguments may
be of any kind that texts are turned into, so that the default need not be a text. -/
def resolve {α : Type} (inst : Instance) (ofText : String → α) (default : α) :
    Token → Except ValueFault α
  | literal text => .ok (ofText text)
  | value key => (inst.values.text (.text key)).map ofText
  | parameter name =>
    .ok (((inst.arguments.bind fun bindings => Entries.lookup bindings name).map ofText).getD
      default)

/-- The arguments that tokens stand for, up to the first value that is missing. -/
def resolveList {α : Type} (inst : Instance) (ofText : String → α) (default : α) :
    List String → Except ValueFault (List α)
  | [] => .ok []
  | token :: tokens => do
    let argument ← (classify token).resolve inst ofText default
    let arguments ← resolveList inst ofText default tokens
    return argument :: arguments

/-- The arguments of a stage; a stage that declares none has none. -/
def resolveAll {α : Type} (inst : Instance) (ofText : String → α) (default : α) :
    Option (List String) → Except ValueFault (Option (List α))
  | none => .ok none
  | some tokens => (resolveList inst ofText default tokens).map some

end Token

end Workflow
