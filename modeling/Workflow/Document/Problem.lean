/-!
# Problems in documents

A document that does not have the form it should have is refused with all the places that are
wrong.  Fields are looked at in their declared order, so the problems come in that order too.
-/

namespace Workflow

/-- One step on the way to a place in a document. -/
inductive Location where
  | field (name : String)
  | index (position : Int)
  deriving DecidableEq, Repr

/-- What is wrong at a place. -/
inductive ProblemKind where
  /-- A required field that is not there. -/
  | missing
  /-- Something else than a text. -/
  | notText
  /-- Bytes that are no text. -/
  | notEncodedText
  /-- Something else than an integer. -/
  | notInteger
  /-- A text that does not read as an integer. -/
  | unreadableInteger
  /-- An integer with more digits than are read. -/
  | longInteger
  /-- A number with a fraction where an integer is expected. -/
  | fractional
  /-- A number without a finite value. -/
  | notFinite
  /-- Something else than a list. -/
  | notList
  /-- Something else than a dictionary. -/
  | notDictionary
  /-- Something else than a record of fields. -/
  | notRecord
  /-- None of the allowed words. -/
  | notAllowed
  /-- No state of an instance. -/
  | notState
  /-- An attempt to change what is fixed. -/
  | frozen
  deriving DecidableEq, Repr

/-- A problem at a place. -/
structure Problem where
  location : List Location
  kind : ProblemKind
  deriving DecidableEq, Repr

/-- The result of checking a document: what it describes, or all that is wrong with it. -/
abbrev Checked (α : Type) := Except (List Problem) α

namespace Checked

/-- A single problem at the place itself. -/
def problem {α : Type} (kind : ProblemKind) : Checked α :=
  .error [⟨[], kind⟩]

/-- Checks two parts and keeps the problems of both. -/
def zipWith {α β γ : Type} (combine : α → β → γ) : Checked α → Checked β → Checked γ
  | .ok left, .ok right => .ok (combine left right)
  | .ok _, .error problems => .error problems
  | .error problems, .ok _ => .error problems
  | .error problems, .error others => .error (problems ++ others)

/-- Applies a checked function to a checked argument, the problems of the function first. -/
def apply {α β : Type} (function : Checked (α → β)) (argument : Checked α) : Checked β :=
  zipWith (fun function argument => function argument) function argument

/-- Checks a part that lies one step further inside. -/
def inside {α : Type} (step : Location) : Checked α → Checked α
  | .ok value => .ok value
  | .error problems =>
    .error (problems.map fun problem => { problem with location := step :: problem.location })

/-- Checks the items of a list one after the other, starting at a position. -/
def items {α β : Type} (check : α → Checked β) (position : Nat) : List α → Checked (List β)
  | [] => .ok []
  | item :: rest =>
    zipWith (· :: ·) ((check item).inside (.index position)) (items check (position + 1) rest)

end Checked

end Workflow
