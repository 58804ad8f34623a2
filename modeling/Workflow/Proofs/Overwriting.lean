import Workflow.Proofs.Cascade
import Workflow.Proofs.Growth
import Workflow.Proofs.Prompt

/-!
# Overwriting one map with another

Values that are merged are written one after the other.  As writing entries is writing what they
amount to, the values that are staged of an output may take the place of the output itself when they
are merged.
-/

namespace Workflow

/-- Entries that can be stored are a contribution. -/
theorem Payload.Storable.isContribution {payload : Payload} (storable : payload.Storable) :
    (Value.dict payload).IsContribution := by
  have written : ∃ entries : Entries String Value,
      payload = entries.map (fun entry => (.text entry.1, entry.2)) ∧
        ∀ entry ∈ entries, entry.2.kind.isSupported = true := by
    induction payload with
    | nil => exact ⟨[], rfl, by simp⟩
    | cons entry rest ih =>
        obtain ⟨⟨key, named, supported⟩, others⟩ := List.forall_mem_cons.mp storable
        obtain ⟨entries, rfl, stored⟩ := ih others
        refine ⟨(key, entry.2) :: entries, ?_, List.forall_mem_cons.mpr ⟨supported, stored⟩⟩
        rw [List.map_cons, ← named]
  obtain ⟨entries, rfl, supported⟩ := written
  exact .inr ⟨⟨entries⟩, supported, rfl⟩

namespace ValueMap

/-- Merges values one after the other. -/
def mergeAll : List Value → Edit Unit
  | [] => pure ()
  | value :: rest => do
    merge value
    mergeAll rest

theorem mergeAll_singleton (value : Value) : mergeAll [value] = merge value := by
  simp only [mergeAll, bind_pure_unit]

theorem mergeAll_append {earlier later : List Value} {map middle : ValueMap}
    (first : mergeAll earlier map = .ok () middle) :
    mergeAll (earlier ++ later) map = mergeAll later middle := by
  induction earlier generalizing map with
  | nil =>
      cases first
      rfl
  | cons value rest ih =>
      simp only [mergeAll, bind, EStateM.bind] at first
      simp only [List.cons_append, mergeAll, bind, EStateM.bind]
      cases merged : merge value map with
      | ok done reached =>
          rw [merged] at first
          exact ih first
      | error fault reached =>
          rw [merged] at first
          cases first

/-- Merging the values that an output amounts to is merging the output. -/
theorem merge_of_ofValue {payload : Payload} {staged : ValueMap}
    (amounts : ofValue (.dict payload) = .ok staged) (map : ValueMap) :
    merge (.dict payload) map = .ok () (map.merged staged) := by
  have contributes := ((ofValue_isOk_iff payload).mp ⟨staged, amounts⟩).isContribution
  rw [ofValue, built, merge_contribution contributes, Except.ok.injEq] at amounts
  rw [merge_contribution contributes, ← amounts]
  simp only [merged, empty]
  exact congrArg (EStateM.Result.ok ()) (congrArg mk (Entries.putAll_ofPairs _ _).symm)

end ValueMap

end Workflow
