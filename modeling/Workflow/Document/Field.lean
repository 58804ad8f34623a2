import Workflow.Document.IntegerText
import Workflow.Document.Problem
import Workflow.Invocation
import Workflow.Value.Text

/-!
# Fields of documents

How the parts of a document are taken for what they should be.  Byte strings that hold encoded text
are accepted as text; integers are accepted as text, truth values or floats without a fraction too.
-/

namespace Workflow.Field

/-- A text. -/
def text : Value → Checked String
  | .text string => .ok string
  | .bytes octets =>
    match String.fromUTF8? ⟨octets.toArray⟩ with
    | some string => .ok string
    | none => Checked.problem .notEncodedText
  | _ => Checked.problem .notText

/-- A text, or nothing. -/
def text? : Value → Checked (Option String)
  | .null => .ok none
  | value => (text value).map some

/-- One of the allowed words. -/
def word (allowed : List String) : Value → Checked String
  | .text string => if allowed.contains string then .ok string else Checked.problem .notAllowed
  | _ => Checked.problem .notAllowed

/-- A list of parts. -/
def list {α : Type} (check : Value → Checked α) : Value → Checked (List α)
  | .list items => Checked.items check 0 items
  | .tuple items => Checked.items check 0 items
  | _ => Checked.problem .notList

/-- An integer written as text. -/
def writtenInteger (text : List Char) : Checked Int :=
  match IntegerText.read text with
  | .ok number => .ok number
  | .error .unreadable => Checked.problem .unreadableInteger
  | .error .tooLong => Checked.problem .longInteger

/-- An integer in any of its accepted forms.  A float has to be smaller than `2 ^ 63` in size. -/
def integer : Value → Checked Int
  | .int number => .ok number
  | .bool truth => .ok (if truth then 1 else 0)
  | .float (.finite negative significand exponent) =>
    let scale := twoTo (-exponent).toNat
    let magnitude := significand * twoTo exponent.toNat
    let whole : Int := magnitude / scale
    if magnitude % scale ≠ 0 then Checked.problem .fractional
    else if twoTo 63 ≤ magnitude / scale then Checked.problem .longInteger
    else .ok (if negative then -whole else whole)
  | .float _ => Checked.problem .notFinite
  | .text string => writtenInteger string.toList
  | .bytes octets =>
    match String.fromUTF8? ⟨octets.toArray⟩ with
    | some string => writtenInteger string.toList
    | none => Checked.problem .unreadableInteger
  | _ => Checked.problem .notInteger

/-- The step to the value under a key of any kind. -/
def keyLocation : Value → Location
  | .text string => .field string
  | .int number => .index number
  | .bool truth => .index (if truth then 1 else 0)
  | key => .field key.write

/-- The entries of a dictionary of texts, keys before values. -/
def textEntries : List (Value × Value) → Checked (List (String × String))
  | [] => .ok []
  | (key, value) :: rest =>
    let step := keyLocation key
    let checkedKey := ((text key).inside (.field "[key]")).inside step
    let checkedValue := (text value).inside step
    Checked.zipWith (· :: ·) (Checked.zipWith Prod.mk checkedKey checkedValue) (textEntries rest)

/-- A dictionary of texts, or nothing. -/
def bindings? : Value → Checked (Option (Entries String String))
  | .null => .ok none
  | .dict entries => (textEntries entries).map fun pairs => some (Entries.ofPairs pairs)
  | _ => Checked.problem .notDictionary

/-- The value of a field, if the record has it. -/
def find? (record : List (Value × Value)) (name : String) : Option Value :=
  (record.find? fun entry => entry.1 == .text name).map (·.2)

/-- A field that has to be there. -/
def required {α : Type} (record : List (Value × Value)) (name : String)
    (check : Value → Checked α) : Checked α :=
  Checked.inside (.field name) <|
    match find? record name with
    | some value => check value
    | none => Checked.problem .missing

/-- A field with a default. -/
def optional {α : Type} (record : List (Value × Value)) (name : String)
    (check : Value → Checked α) (default : α) : Checked α :=
  Checked.inside (.field name) <|
    match find? record name with
    | some value => check value
    | none => .ok default

/-- A record of fields. -/
def record {α : Type} (check : List (Value × Value) → Checked α) : Value → Checked α
  | .dict entries => check entries
  | _ => Checked.problem .notRecord

end Workflow.Field
