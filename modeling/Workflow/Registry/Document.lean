import Workflow.Document.Field

/-!
# Registry documents

A document can declare workflows, with the paths of their hooks.
-/

namespace Workflow

/-- A workflow as a document declares it. -/
structure DeclaredWorkflow where
  name : String
  plan : String
  acceptor : Option String
  redirector : Option String
  validators : List (Option String)
  deriving DecidableEq, Repr

namespace DeclaredWorkflow

/-- The workflow in the fields of a declaration. -/
def ofFields (fields : List (Value × Value)) : Checked DeclaredWorkflow :=
  Checked.apply
    (Checked.apply
      (Checked.apply
        (Checked.zipWith DeclaredWorkflow.mk
          (Field.required fields "name" Field.text)
          (Field.required fields "definition" Field.text))
        (Field.optional fields "acceptor" Field.text? none))
      (Field.optional fields "redirector" Field.text? none))
    (Field.optional fields "validators" (Field.list Field.text?) [])

/-- The workflows that a document declares; an empty document declares none. -/
def ofDocument (document : Value) : Checked (List DeclaredWorkflow) :=
  if document.isTruthy then
    Field.record
      (fun fields => Field.optional fields "workflows" (Field.list (Field.record ofFields)) [])
      document
  else .ok []

end DeclaredWorkflow

end Workflow
