import Workflow.ValueMap.Basic

/-!
# Commands on maps of values

Everything that can be asked of a map of values from outside, with keys and values of any kind.  The
answer of a command is a value again; a command without an answer gives `null`.
-/

namespace Workflow

namespace ValueMap

/-- The parts of an item that has to be a key and a value. -/
def pairOf (item : Value) : Except ValueFault (Value × Value) :=
  match item.items? with
  | none => .error .notIterable
  | some [key, value] => .ok (key, value)
  | some _ => .error .notPair

/-- Stores items one after the other, each of which has to be a pair. -/
def putItems : List Value → Edit Unit
  | [] => pure ()
  | item :: items => do
    let (key, value) ← liftExcept (pairOf item)
    put key value
    putItems items
where
  /-- A computation that does not touch the map. -/
  liftExcept {α : Type} : Except ValueFault α → Edit α
    | .ok answer => pure answer
    | .error fault => throw fault

end ValueMap

/-- A command on a map of values. -/
inductive ValueCommand where
  | set (key value : Value)
  | get (key : Value)
  | delete (key : Value)
  | pop (key : Value) (default : Option Value)
  | find (key : Value) (default : Value)
  | popFirst
  | clear
  | setDefault (key default : Value)
  | update (other : Value)
  | merge (other : Value)
  | mergeMap (other : Value)
  | has (key : Value)
  | keys
  | size
  | isNonempty
  | write
  | equals (other : Value)
  | equalsMap (other : Value)
  | require (key : Value)
  | getA (kind : Kind) (key : Value)
  | getFloat (key : Value)
  | checkEquals (key value : Value)
  | text (key : Value)
  | copy

namespace ValueCommand

open ValueMap

/-- The map as it is. -/
def current : Edit ValueMap := fun map => .ok map map

/-- The answer to a question about the map as it is. -/
def ask {α : Type} (question : ValueMap → Except ValueFault α) : Edit α := fun map =>
  match question map with
  | .ok answer => .ok answer map
  | .error fault => .error fault map

/-- Takes the first entry out of the map. -/
def takeFirst : Edit Value := fun map =>
  match map.entries with
  | [] => .error .absentKey map
  | (key, value) :: rest => .ok (.tuple [.text key, value]) ⟨rest⟩

/-- The value under a key that has to be there. -/
def getExisting (key : Value) : Edit Value := do
  match ← ask (·.find? key) with
  | some value => return value
  | none => throw .absentKey

/-- The value under a key, stored as the default if the key is not there. -/
def getOrPut (key default : Value) : Edit Value := do
  match ← ask (·.find? key) with
  | some value => return value
  | none =>
    put key default
    return default

/-- Stores the entries of a dictionary, or the pairs that going through another value yields. -/
def storeAll : Value → Edit Unit
  | .dict entries => putAll entries
  | other =>
    match other.items? with
    | some items => putItems items
    | none => throw .notIterable

/-- Two answers, of which the second is the opposite of the first. -/
def withOpposite (truth : Bool) : Value :=
  .list [.bool truth, .bool !truth]

/-- Runs a command. -/
def run : ValueCommand → Edit Value
  | set key value => do put key value; return .null
  | get key => getExisting key
  | delete key => do
    remove key
    return .null
  | pop key default => takeOut key default
  | find key default => do return (← ask (·.find? key)).getD default
  | popFirst => takeFirst
  | clear => fun _ => .ok .null ValueMap.empty
  | setDefault key default => getOrPut key default
  | update other => do storeAll other; return .null
  | merge other => do ValueMap.merge other; return .null
  | mergeMap other => do
    let map ← ask fun _ => ValueMap.ofValue other
    ValueMap.merge map.toValue
    return .null
  | has key => do return .bool (← ask (·.find? key)).isSome
  | keys => do return .list ((← current).entries.map fun entry => .text entry.1)
  | size => do return .int (← current).entries.length
  | isNonempty => do return .bool !(← current).entries.isEmpty
  | write => do return .text (← ask (·.write))
  | equals other => do return withOpposite ((← current).equals other)
  | equalsMap other => do
    let map ← ask fun _ => ValueMap.ofValue other
    return .bool ((← current).equals map.toValue)
  | require key => ask (·.require key)
  | getA kind key => ask (·.getA kind key)
  | getFloat key => ask (·.getFloat key)
  | checkEquals key value => do return .bool (← ask (·.checkEquals key value))
  | text key => do return .text (← ask (·.text key))
  | copy => do return (← current).toValue

end ValueCommand

end Workflow
