import Workflow.Number.Numeral
import Workflow.Value.Basic

/-!
# Documents in JSON

A document is read from a text in JSON.  A number without a fraction and without an exponent is an
integer, every other one a double; of two fields of one name the later one counts.
-/

namespace Workflow.Json

/-- Blank space between the parts of a document. -/
def isSpace (c : Char) : Bool :=
  c == ' ' || c == '\n' || c == '\t' || c == '\r'

/-- A text without the blank space in front. -/
def skip (text : List Char) : List Char :=
  text.dropWhile isSpace

/-- The value of a hexadecimal digit. -/
def hexDigit? (c : Char) : Option Nat :=
  if c.isDigit then some (c.toNat - '0'.toNat)
  else
    let lower := c.toLower
    if 'a' ≤ lower ∧ lower ≤ 'f' then some (lower.toNat - 'a'.toNat + 10) else none

/-- Four hexadecimal digits. -/
def readUnit : List Char → Option (Nat × List Char)
  | first :: second :: third :: fourth :: rest => do
    let digits ← [first, second, third, fourth].mapM hexDigit?
    return (digits.foldl (fun number digit => number * 16 + digit) 0, rest)
  | _ => none

/-- The character that a letter behind a backslash stands for. -/
def escaped? : Char → Option Char
  | '"' => some '"'
  | '\\' => some '\\'
  | '/' => some '/'
  | 'b' => some '\x08'
  | 'f' => some '\x0c'
  | 'n' => some '\n'
  | 'r' => some '\r'
  | 't' => some '\t'
  | _ => none

/-- The character of a unit, which together with a second one may stand for a character beyond the
basic plane. -/
def readCharacter (text : List Char) : Option (Char × List Char) := do
  let (unit, rest) ← readUnit text
  if 0xD800 ≤ unit ∧ unit < 0xDC00 then
    match rest with
    | '\\' :: 'u' :: more =>
      let (low, rest) ← readUnit more
      if 0xDC00 ≤ low ∧ low < 0xE000 then
        some (Char.ofNat (0x10000 + (unit - 0xD800) * 0x400 + (low - 0xDC00)), rest)
      else none
    | _ => none
  else if 0xDC00 ≤ unit ∧ unit < 0xE000 then none
  else some (Char.ofNat unit, rest)

/-- The characters of a text up to its closing quote. -/
def readText : Nat → List Char → Option (List Char × List Char)
  | 0, _ => none
  | bound + 1, text =>
    match text with
    | [] => none
    | '"' :: rest => some ([], rest)
    | '\\' :: 'u' :: rest => do
      let (c, rest) ← readCharacter rest
      let (characters, rest) ← readText bound rest
      return (c :: characters, rest)
    | '\\' :: letter :: rest => do
      let c ← escaped? letter
      let (characters, rest) ← readText bound rest
      return (c :: characters, rest)
    | c :: rest =>
      if c.toNat < 0x20 then none
      else do
        let (characters, rest) ← readText bound rest
        return (c :: characters, rest)

/-- A character of a number. -/
def isNumberPart (c : Char) : Bool :=
  c.isDigit || c == '-' || c == '+' || c == '.' || c == 'e' || c == 'E'

/-- A number. -/
def readNumber (text : List Char) : Option (Value × List Char) :=
  let number := text.takeWhile isNumberPart
  let rest := text.dropWhile isNumberPart
  if number.all fun c => c.isDigit || c == '-' then
    (Numeral.readInt? number).map fun number => (.int number, rest)
  else (Numeral.readDouble? number).map fun number => (.float number, rest)

/-- What may follow an item: another one, or the end of the list. -/
inductive Following where
  | more
  | last

/-- The comma or the closing bracket behind an item. -/
def readFollowing (closing : Char) (text : List Char) : Option (Following × List Char) :=
  match skip text with
  | c :: rest =>
    if c = ',' then some (.more, rest)
    else if c = closing then some (.last, rest)
    else none
  | [] => none

mutual

/-- A value, nested no more deeply than the bound. -/
def readValue : Nat → List Char → Option (Value × List Char)
  | 0, _ => none
  | bound + 1, text =>
    match skip text with
    | 'n' :: 'u' :: 'l' :: 'l' :: rest => some (.null, rest)
    | 't' :: 'r' :: 'u' :: 'e' :: rest => some (.bool true, rest)
    | 'f' :: 'a' :: 'l' :: 's' :: 'e' :: rest => some (.bool false, rest)
    | '"' :: rest => do
      let (characters, rest) ← readText (rest.length + 1) rest
      return (.text (String.ofList characters), rest)
    | '[' :: rest =>
      match skip rest with
      | ']' :: rest => some (.list [], rest)
      | rest => do
        let (items, rest) ← readItems bound rest
        return (.list items, rest)
    | '\x7b' :: rest =>
      match skip rest with
      | '\x7d' :: rest => some (.dict [], rest)
      | rest => do
        let (fields, rest) ← readFields bound rest
        return (Value.ofEntries (Entries.ofPairs fields), rest)
    | rest => readNumber rest

/-- The items of a list, of which there is at least one. -/
def readItems : Nat → List Char → Option (List Value × List Char)
  | 0, _ => none
  | bound + 1, text => do
    let (item, rest) ← readValue bound text
    let (following, rest) ← readFollowing ']' rest
    match following with
    | .last => return ([item], rest)
    | .more =>
      let (items, rest) ← readItems bound rest
      return (item :: items, rest)

/-- The fields of a record, of which there is at least one. -/
def readFields : Nat → List Char → Option (List (String × Value) × List Char)
  | 0, _ => none
  | bound + 1, text =>
    match skip text with
    | '"' :: rest => do
      let (name, rest) ← readText (rest.length + 1) rest
      match skip rest with
      | ':' :: rest =>
        let (value, rest) ← readValue bound rest
        let (following, rest) ← readFollowing '\x7d' rest
        match following with
        | .last => return ([(String.ofList name, value)], rest)
        | .more =>
          let (fields, rest) ← readFields bound rest
          return ((String.ofList name, value) :: fields, rest)
      | _ => none
    | _ => none

end

/-- The document in a text; a blank text holds nothing. -/
def document? (text : String) : Option Value :=
  let text := skip text.toList
  if text.isEmpty then some .null
  else
    match readValue (text.length + 1) text with
    | some (value, rest) => if (skip rest).isEmpty then some value else none
    | none => none

end Workflow.Json
