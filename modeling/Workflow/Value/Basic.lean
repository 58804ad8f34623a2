import Workflow.Entries
import Workflow.Number.Binary64

/-!
# Values

What a stage reports and what a hook returns is a dynamic value: nothing, a truth value, a number, a
text, or a list or dictionary of values.  Tuples and byte strings can be reported too, but no
workflow accumulates them.  Numbers of different kinds are equal if they denote the same number, and
a truth value counts as zero or one.
-/

namespace Workflow

/-- A dynamic value; the keys of a dictionary are values themselves. -/
inductive Value where
  | null
  | bool (truth : Bool)
  | int (number : Int)
  | float (number : Binary64)
  | text (string : String)
  | list (items : List Value)
  | dict (entries : List (Value × Value))
  | tuple (items : List Value)
  | bytes (octets : List UInt8)
  deriving Inhabited

/-- The kinds of values. -/
inductive Kind where
  | null | bool | int | float | text | list | dict | tuple | bytes
  deriving DecidableEq, Repr

namespace Kind

/-- The name that messages give to a kind. -/
def name : Kind → String
  | null => "NoneType"
  | bool => "bool"
  | int => "int"
  | float => "float"
  | text => "str"
  | list => "list"
  | dict => "dict"
  | tuple => "tuple"
  | bytes => "bytes"

/-- All kinds. -/
def all : List Kind := [null, bool, int, float, text, list, dict, tuple, bytes]

/-- The kind that goes by a name. -/
def ofName? (name : String) : Option Kind :=
  all.find? fun kind => kind.name == name

/-- The kinds that a workflow accumulates. -/
def isSupported : Kind → Bool
  | tuple | bytes => false
  | _ => true

end Kind

namespace Value

/-- The kind of a value. -/
def kind : Value → Kind
  | null => .null
  | bool _ => .bool
  | int _ => .int
  | float _ => .float
  | text _ => .text
  | list _ => .list
  | dict _ => .dict
  | tuple _ => .tuple
  | bytes _ => .bytes

/-- Whether a value may be used as a value of a kind: an integer also counts as a float, and a truth
value is no number. -/
def isA (value : Value) (kind : Kind) : Bool :=
  value.kind == kind || (kind == .float && value.kind == .int)

/-- Nothing, false, the zeros and everything empty are false, all else is true. -/
def isTruthy : Value → Bool
  | null => false
  | bool truth => truth
  | int number => number != 0
  | float number => !number.isZero
  | text string => string != ""
  | list items => !items.isEmpty
  | dict entries => !entries.isEmpty
  | tuple items => !items.isEmpty
  | bytes octets => !octets.isEmpty

/-- A number as it is compared: a truth value counts as zero or one. -/
def asInt? : Value → Option Int
  | bool truth => some (if truth then 1 else 0)
  | int number => some number
  | _ => none

/-- Equality of values that hold no others. -/
def equalAtoms : Value → Value → Bool
  | null, null => true
  | text left, text right => left == right
  | bytes left, bytes right => left == right
  | float left, float right => left.equal right
  | float left, right => (right.asInt?.map left.equalInt).getD false
  | left, float right => (left.asInt?.map right.equalInt).getD false
  | left, right =>
    match left.asInt?, right.asInt? with
    | some left, some right => left == right
    | _, _ => false

mutual

/-- Deep equality: lists and tuples are compared item by item and differ from each other,
dictionaries are compared by their keys in any order.  Values have no identity here, so an item is
never taken as equal to another one because both are the same object: a list that holds the double
that is no number differs from every list, also from itself. -/
def equal : Value → Value → Bool
  | list left, list right => equalItems left right
  | tuple left, tuple right => equalItems left right
  | dict left, dict right => left.length == right.length && entriesWithin left right
  | left, right => equalAtoms left right

/-- Equality of items at every position. -/
def equalItems : List Value → List Value → Bool
  | [], [] => true
  | left :: lefts, right :: rights => equal left right && equalItems lefts rights
  | _, _ => false

/-- Whether every entry has an equal one among the others. -/
def entriesWithin : List (Value × Value) → List (Value × Value) → Bool
  | [], _ => true
  | (key, value) :: rest, others =>
    (others.any fun other => equal key other.1 && equal value other.2) &&
      entriesWithin rest others

end

instance : BEq Value := ⟨equal⟩

mutual

/-- A value that can be a key: no list and no dictionary, also not within a tuple. -/
def isHashable : Value → Bool
  | list _ => false
  | dict _ => false
  | tuple items => areHashable items
  | _ => true

/-- Whether all of some values can be keys. -/
def areHashable : List Value → Bool
  | [] => true
  | item :: items => isHashable item && areHashable items

end

/-- The items that going through a value one by one yields: the characters of a text, the keys of a
dictionary, the numbers of a byte string. -/
def items? : Value → Option (List Value)
  | list items => some items
  | tuple items => some items
  | dict entries => some (entries.map (·.1))
  | text string => some (string.toList.map fun c => text (String.singleton c))
  | bytes octets => some (octets.map fun octet => int octet.toNat)
  | _ => none

/-- A dictionary with text keys. -/
def ofEntries (entries : Entries String Value) : Value :=
  dict (entries.map fun entry => (text entry.1, entry.2))

end Value

end Workflow
