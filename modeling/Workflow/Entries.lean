/-!
# Ordered entries

Bindings, accumulated values and registered workflows are all kept as entries in the order in which
their keys first came up: writing to a key that is there keeps its place, a new key goes to the end,
and a key that was removed comes back at the end.
-/

namespace Workflow

/-- Entries in order; the operations below keep the keys distinct. -/
abbrev Entries (κ α : Type) := List (κ × α)

namespace Entries

variable {κ α : Type} [BEq κ]

/-- The value under a key. -/
def lookup (entries : Entries κ α) (key : κ) : Option α :=
  (entries.find? fun entry => entry.1 == key).map (·.2)

/-- Whether a key is there. -/
def has (entries : Entries κ α) (key : κ) : Bool :=
  entries.any fun entry => entry.1 == key

/-- The keys in order. -/
def keys (entries : Entries κ α) : List κ :=
  entries.map (·.1)

/-- Writes a value under a key, in the key's place if it has one and at the end otherwise. -/
def put : Entries κ α → κ → α → Entries κ α
  | [], key, value => [(key, value)]
  | (other, old) :: rest, key, value =>
    if other == key then (other, value) :: rest else (other, old) :: put rest key value

/-- Removes a key and its value. -/
def remove (entries : Entries κ α) (key : κ) : Entries κ α :=
  entries.filter fun entry => !(entry.1 == key)

/-- Writes further entries one after the other. -/
def putAll (entries additions : Entries κ α) : Entries κ α :=
  additions.foldl (fun reached entry => reached.put entry.1 entry.2) entries

/-- The entries that a list of pairs amounts to, later pairs overwriting earlier ones. -/
def ofPairs (pairs : List (κ × α)) : Entries κ α :=
  putAll [] pairs

/-- Entries are well formed if no key occurs twice. -/
def WF (entries : Entries κ α) : Prop :=
  entries.Pairwise fun left right => (left.1 == right.1) = false

/-- A key is there exactly if it has a value. -/
theorem has_eq_isSome_lookup (entries : Entries κ α) (key : κ) :
    has entries key = (lookup entries key).isSome := by
  induction entries with
  | nil => rfl
  | cons entry rest ih =>
    by_cases same : entry.1 == key
    · simp [has, lookup, same]
    · simpa [has, lookup, same] using ih

/-- A key that is there keeps its place when it is written to, and a new one goes to the end. -/
theorem keys_put (entries : Entries κ α) (key : κ) (value : α) :
    keys (put entries key value) =
      if has entries key then keys entries else keys entries ++ [key] := by
  induction entries with
  | nil => rfl
  | cons entry rest ih =>
    obtain ⟨other, old⟩ := entry
    by_cases same : other == key
    · simp [put, keys, has, same]
    · have tail : (put rest key value).map (·.1) =
          if (rest.any fun entry => entry.1 == key) then rest.map (·.1)
          else rest.map (·.1) ++ [key] := ih
      by_cases there : rest.any fun entry => entry.1 == key
      · simp [put, keys, has, same, tail, there]
      · simp [put, keys, has, same, tail, there]

section Lawful

variable [LawfulBEq κ]

/-- What was written under a key is found there. -/
@[simp]
theorem lookup_put_self (entries : Entries κ α) (key : κ) (value : α) :
    lookup (put entries key value) key = some value := by
  induction entries with
  | nil => simp [put, lookup]
  | cons entry rest ih =>
    obtain ⟨other, old⟩ := entry
    by_cases same : other == key
    · simp [put, lookup, same]
    · simpa [put, lookup, same] using ih

/-- Writing under a key leaves the values of all other keys. -/
theorem lookup_put_of_ne (entries : Entries κ α) {key other : κ} (value : α)
    (different : key ≠ other) : lookup (put entries key value) other = lookup entries other := by
  induction entries with
  | nil => simp [put, lookup, different]
  | cons entry rest ih =>
    obtain ⟨first, old⟩ := entry
    by_cases same : first == key
    · have first_eq : first = key := eq_of_beq same
      subst first_eq
      simp [put, lookup, different]
    · by_cases found : first == other
      · simp [put, lookup, same, found]
      · simpa [put, lookup, same, found] using ih

/-- Entries are well formed exactly if their keys are distinct. -/
theorem wf_iff_nodup_keys (entries : Entries κ α) : WF entries ↔ (keys entries).Nodup := by
  simp [WF, keys, List.Nodup, List.pairwise_map]

/-- Writing keeps the keys distinct. -/
theorem WF.put {entries : Entries κ α} (wellFormed : WF entries) (key : κ) (value : α) :
    WF (Entries.put entries key value) := by
  rw [wf_iff_nodup_keys] at wellFormed ⊢
  rw [keys_put]
  by_cases there : has entries key
  · simpa [there] using wellFormed
  · have absent : key ∉ keys entries := by
      simpa [has, keys] using there
    simp [there, List.nodup_append, wellFormed]
    intro other member equal
    exact absent (equal ▸ member)

/-- Whatever pairs entries are made of, the keys are distinct. -/
theorem wf_ofPairs (pairs : List (κ × α)) : WF (ofPairs pairs) := by
  suffices step : ∀ (additions : List (κ × α)) (entries : Entries κ α), WF entries →
      WF (putAll entries additions) from step pairs [] List.Pairwise.nil
  intro additions
  induction additions with
  | nil => exact fun _ wellFormed => wellFormed
  | cons addition rest ih =>
    exact fun entries wellFormed => ih _ (wellFormed.put addition.1 addition.2)

end Lawful

end Entries

end Workflow
