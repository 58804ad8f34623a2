import Workflow.Proofs.Placing
import Workflow.ValueMap.Basic

/-!
# Merging maps of values

Merging stops at the first entry that cannot be stored.  Entries with text keys and values of kinds
that are accumulated always can, so merging one map of values into another comes to its end and
writes all entries in their order.
-/

namespace Workflow

namespace ValueMap

/-- All values are of kinds that are accumulated. -/
def Storable (map : ValueMap) : Prop :=
  ∀ entry ∈ map.entries, entry.2.kind.isSupported = true

/-- The map with all entries of another one written to it. -/
def merged (map other : ValueMap) : ValueMap :=
  ⟨Entries.putAll map.entries other.entries⟩

theorem putAll_ofEntries {entries : Entries String Value}
    (supported : ∀ entry ∈ entries, entry.2.kind.isSupported = true) (map : ValueMap) :
    putAll (entries.map fun entry => (.text entry.1, entry.2)) map =
      .ok () (map.merged ⟨entries⟩) := by
  induction entries generalizing map with
  | nil => rfl
  | cons entry rest ih =>
      have first := supported entry (by simp)
      have others := ih fun other member => supported other (List.mem_cons_of_mem _ member)
      simp only [List.map_cons, putAll, bind, EStateM.bind, put, first, ↓reduceIte, others]
      rfl

/-- Merging a map of values writes all its entries. -/
theorem merge_toValue {other : ValueMap} (storable : other.Storable) (map : ValueMap) :
    merge other.toValue map = .ok () (map.merged other) := by
  obtain ⟨entries⟩ := other
  cases entries with
  | nil => rfl
  | cons entry rest => exact putAll_ofEntries storable map

theorem Storable.put {map written : ValueMap} {key value : Value} (storable : map.Storable)
    (done : put key value map = .ok () written) : written.Storable := by
  cases key with
  | text name =>
      simp only [ValueMap.put] at done
      split at done
      · next supported =>
        cases done
        intro entry member
        rcases (Entries.placed_iff.mpr rfl).mem member with old | rfl
        · exact storable entry old
        · exact supported
      · cases done
  | _ => cases done

theorem Storable.putAll {map written : ValueMap} {entries : List (Value × Value)}
    (storable : map.Storable) (done : putAll entries map = .ok () written) :
    written.Storable := by
  induction entries generalizing map with
  | nil =>
      cases done
      exact storable
  | cons entry rest ih =>
      obtain ⟨key, value⟩ := entry
      simp only [ValueMap.putAll, bind, EStateM.bind] at done
      cases first : ValueMap.put key value map with
      | error fault reached => simp [first] at done
      | ok answer reached =>
          simp only [first] at done
          exact ih (storable.put first) done

/-- A map that was built holds nothing but values that can be stored. -/
theorem storable_ofValue {payload : List (Value × Value)} {map : ValueMap}
    (built : ofValue (.dict payload) = .ok map) : map.Storable := by
  have none : empty.Storable := by simp [Storable, empty]
  simp only [ofValue, ValueMap.built, merge] at built
  split at built
  · next answer reached done =>
    cases built
    split at done
    · exact none.putAll done
    · cases done
      exact none
  · cases built

end ValueMap

end Workflow
