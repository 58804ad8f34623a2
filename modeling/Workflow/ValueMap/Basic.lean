import Workflow.Value.Text

/-!
# Maps of accumulated values

A workflow instance accumulates values under text keys, in the order in which the keys first came
up.  Only some kinds of value may be stored.  An edit that fails partway keeps what it wrote before,
so edits are programs over the map whose failures keep the state: everything that writes goes
through `put`, which is the only place where an entry is checked.
-/

namespace Workflow

/-- What goes wrong with maps of values. -/
inductive ValueFault where
  /-- A key that is no text. -/
  | keyKind (kind : Kind)
  /-- A value of a kind that is not accumulated. -/
  | valueKind (kind : Kind) (key : String)
  /-- A value of another kind than asked for. -/
  | mismatch (key : String) (found expected : Kind)
  /-- No map of values can be built from a value of this kind. -/
  | notBuildable (kind : Kind)
  /-- A reference to a value that was never accumulated. -/
  | unknownReference (key : Value)
  /-- Access to a key that is not there. -/
  | absentKey
  /-- A key that no map can hold, because it is a list or a dictionary. -/
  | unhashableKey
  /-- A value whose entries were asked for, and that has none. -/
  | noEntries
  /-- A value that cannot be gone through item by item. -/
  | notIterable
  /-- An item that should be a key and a value, and has more or fewer parts. -/
  | notPair
  /-- An integer beyond the range of doubles. -/
  | outOfRange
  /-- An integer with more digits than may be written. -/
  | unwritable

namespace ValueFault

/-- The text of a fault that is reported in words. -/
def message : ValueFault → String
  | keyKind kind => s!"Value keys must be strings, got {kind.name}"
  | valueKind kind key => s!"Unsupported value kind {kind.name} for key {Text.quote key}"
  | mismatch key found expected =>
    s!"Value {Text.quote key} is {found.name}, expected {expected.name}"
  | notBuildable kind => s!"Cannot build a ValueMap from {kind.name}"
  | unknownReference key => s!"No accumulated value named {key.write}"
  | _ => ""

/-- Faults of storing and of kinds, as against faults of looking up. -/
def isTypeFault : ValueFault → Bool
  | keyKind _ | valueKind _ _ | mismatch _ _ _ | notBuildable _ => true
  | _ => false

end ValueFault

/-- Accumulated values under text keys. -/
structure ValueMap where
  entries : Entries String Value

/-- A program over a map of values; a failure keeps what was written before it. -/
abbrev Edit := EStateM ValueFault ValueMap

namespace ValueMap

/-- The map without values. -/
def empty : ValueMap := ⟨[]⟩

instance : Inhabited ValueMap := ⟨empty⟩

/-- Every key occurs once and every value is of a kind that is accumulated. -/
def WF (map : ValueMap) : Prop :=
  (Entries.keys map.entries).Nodup ∧ ∀ entry ∈ map.entries, entry.2.kind.isSupported = true

/-- The value under a text key. -/
def get? (map : ValueMap) (key : String) : Option Value :=
  Entries.lookup map.entries key

/-- Whether a text key is there. -/
def has (map : ValueMap) (key : String) : Bool :=
  Entries.has map.entries key

/-- The map as a value. -/
def toValue (map : ValueMap) : Value :=
  Value.ofEntries map.entries

/-- The text under which a key could be stored; a key of another kind is never there. -/
def keyText? : Value → Except ValueFault (Option String)
  | .text key => .ok (some key)
  | key => if key.isHashable then .ok none else .error .unhashableKey

/-- The value under any key. -/
def find? (map : ValueMap) (key : Value) : Except ValueFault (Option Value) :=
  (keyText? key).map fun name => name.bind map.get?

/-- Stores a value, if key and value are of kinds that can be stored; the key is checked first. -/
def put (key value : Value) : Edit Unit := fun map =>
  match key with
  | .text name =>
    if value.kind.isSupported then .ok () ⟨Entries.put map.entries name value⟩
    else .error (.valueKind value.kind name) map
  | _ => .error (.keyKind key.kind) map

/-- Stores entries one after the other, up to the first that cannot be stored. -/
def putAll : List (Value × Value) → Edit Unit
  | [] => pure ()
  | (key, value) :: rest => do
    put key value
    putAll rest

/-- Stores all entries of a dictionary; merging something false changes nothing. -/
def merge (other : Value) : Edit Unit :=
  if other.isTruthy then
    match other with
    | .dict entries => putAll entries
    | _ => throw .noEntries
  else pure ()

/-- Takes a key out of the map; without a default the key has to be there. -/
def takeOut (key : Value) (default : Option Value) : Edit Value := fun map =>
  match keyText? key with
  | .error fault => .error fault map
  | .ok name =>
    match name, name.bind map.get?, default with
    | some name, some value, _ => .ok value ⟨Entries.remove map.entries name⟩
    | _, _, some value => .ok value map
    | _, _, none => .error .absentKey map

/-- Removes a key, which has to be there. -/
def remove (key : Value) : Edit Unit := do
  let _ ← takeOut key none

/-- The map that a program makes of the empty one. -/
def built (program : Edit Unit) : Except ValueFault ValueMap :=
  match program empty with
  | .ok _ map => .ok map
  | .error fault _ => .error fault

/-- The map of a dictionary's entries. -/
def ofValue (value : Value) : Except ValueFault ValueMap :=
  built (merge value)

/-- The map of a value that has to be a dictionary. -/
def ofDict (value : Value) : Except ValueFault ValueMap :=
  match value with
  | .dict _ => ofValue value
  | _ => .error (.notBuildable value.kind)

/-- The value that a reference names. -/
def require (map : ValueMap) (key : Value) : Except ValueFault Value := do
  match ← map.find? key with
  | some value => return value
  | none => throw (.unknownReference key)

/-- The value under a key, which has to be usable as a value of the kind. -/
def getA (map : ValueMap) (kind : Kind) (key : Value) : Except ValueFault Value := do
  let value ← map.require key
  if value.isA kind then return value
  else throw (.mismatch key.toText value.kind kind)

/-- The value under a key as a double; an integer is converted. -/
def getFloat (map : ValueMap) (key : Value) : Except ValueFault Value := do
  match ← map.getA .float key with
  | .int number =>
    match Binary64.ofInt? number with
    | some double => return .float double
    | none => throw .outOfRange
  | value => return value

/-- Whether a key is there with a value that may be used as one of the asked value's kind and equals
it. -/
def checkEquals (map : ValueMap) (key value : Value) : Except ValueFault Bool := do
  match ← map.find? key with
  | some stored => return stored.isA value.kind && stored == value
  | none => return false

/-- The text of the value under a key. -/
def text (map : ValueMap) (key : Value) : Except ValueFault String := do
  match (← map.require key).toText? with
  | some text => return text
  | none => throw .unwritable

/-- Whether a value is a dictionary with the same entries in any order. -/
def equals (map : ValueMap) (other : Value) : Bool :=
  map.toValue == other

/-- The map as it is written down. -/
def write (map : ValueMap) : Except ValueFault String :=
  match map.toValue.toText? with
  | some text => .ok s!"ValueMap({text})"
  | none => .error .unwritable

end ValueMap

end Workflow
