import Workflow.Proofs.Course
import Workflow.Proofs.Overwriting
import Workflow.Proofs.Storing
import Workflow.Proofs.Tally

/-!
# Merging and staging

Maps of values are merged as entries are written: keys that are there keep their places, new ones
go to the end, and the last value of a key counts.  So it does not matter in which order merges are
put together, and the values that an engine stages of an output before it merges them lead to the
same as the output itself.
-/

namespace Workflow

namespace ValueMap

variable {map other further : ValueMap}

theorem WF.distinct (wellFormed : map.WF) : Entries.WF map.entries :=
  (Entries.wf_iff_nodup_keys map.entries).mpr wellFormed.1

theorem WF.merge_toValue (wellFormed : other.WF) (map : ValueMap) :
    merge other.toValue map = .ok () (map.merged other) :=
  ValueMap.merge_toValue wellFormed.2 map

theorem WF.merged (wellFormed : map.WF) (mergeable : other.WF) : (map.merged other).WF := by
  have kept := (keeps_merge other.toValue map wellFormed).2
  rw [Trace.outcomeOf, mergeable.merge_toValue] at kept
  exact kept

theorem merged_merged (wellFormed : other.WF) (map further : ValueMap) :
    (map.merged other).merged further = map.merged (other.merged further) :=
  congrArg mk (Entries.putAll_putAll wellFormed.distinct map.entries further.entries).symm

theorem empty_merged (wellFormed : map.WF) : empty.merged map = map :=
  congrArg mk (Entries.ofPairs_of_wf wellFormed.distinct)

theorem merged_self (wellFormed : map.WF) : map.merged map = map :=
  congrArg mk (Entries.putAll_self wellFormed.distinct)

theorem gathers_merged (wellFormed : map.WF) (other : ValueMap) :
    Entries.Gathers (map.merged other).entries (map.entries ++ other.entries) := by
  rw [Entries.gathers_iff, Entries.ofPairs_append wellFormed.distinct]
  rfl

end ValueMap

namespace Engine

variable {host : Host} {number : Nat} {definition : Definition} {name : Option String}

theorem editValues_merge_of_ofValue {payload : Payload} {staged : ValueMap}
    (amounts : ValueMap.ofValue (.dict payload) = .ok staged) (number : Nat) :
    editValues number (ValueMap.merge staged.toValue) =
      editValues number (ValueMap.merge (.dict payload)) := by
  have same : ValueMap.merge staged.toValue = ValueMap.merge (.dict payload) := by
    funext map
    rw [ValueMap.merge_of_ofValue amounts]
    exact ValueMap.merge_toValue (ValueMap.storable_ofValue amounts) map
  rw [same]

/-- Moves an instance on by an accepted output, which is merged as it is. -/
def acceptDirectly (host : Host) (number : Nat) (definition : Definition) (name : Option String)
    (staged : ValueMap) (payload : Payload) : Engine Unit := do
  note (.accepted number name (← instanceAt number).stage staged)
  editValues number (ValueMap.merge (.dict payload))
  modifyInstance number fun inst => { inst with stage := inst.stage + 1 }
  let reached ← instanceAt number
  startNext definition reached.stage
  let target ← advise host number definition reached.stage
  proceed host number definition name target

theorem accept_directly {payload : Payload} {staged : ValueMap}
    (amounts : ValueMap.ofValue (.dict payload) = .ok staged) :
    accept host number definition name staged =
      acceptDirectly host number definition name staged payload := by
  rw [accept_eq, acceptDirectly, editValues_merge_of_ofValue amounts]

/-- Takes the output of the stage that the engine waited for.  Values are staged of it to see
whether it can be accepted, and then the output is merged as it is. -/
def stageFinishedDirectly (host : Host) (payload : Payload) : Engine Payload := do
  let (number, definition, reached, stage) ← receive
  let (left, staged) ← judge host number stage payload
  match staged with
  | .ok staged =>
    acceptDirectly host number definition (definition.stageName? reached) staged left
  | .error error => reject number (definition.stageName? reached) error
  return left

theorem stageFinished_directly (host : Host) (payload : Payload) :
    stageFinished host payload = stageFinishedDirectly host payload := by
  rw [stageFinished_eq, stageFinishedDirectly]
  apply bind_congr
  rintro ⟨number, definition, reached, stage⟩
  simp only [judge, bind_assoc, pure_bind]
  apply bind_congr
  rintro ⟨shown, answer⟩
  apply bind_congr
  intro verdict
  cases settled : verdict.settle shown.payload with
  | error fault => rfl
  | ok staged =>
      cases staged with
      | error error => rfl
      | ok values =>
          have accepted := (Verdict.settle_eq_ok_iff.mp settled).1
          have amounts := (Verdict.stage_eq_ok_iff.mp accepted).2
          have direct : accept host number definition (definition.stageName? reached) values =
              acceptDirectly host number definition (definition.stageName? reached) values
                shown.payload := accept_directly amounts
          funext state
          simp only [mapError_ok, bind_apply, lift_ok, direct]

end Engine

namespace ValueMap

/-- Merging writes what is merged over what is there: the keys stand in the order in which they
first come up in both maps, and the last value of each counts.  So merging two maps one after the
other is merging the second into the first before, merging nothing changes nothing, and merging
again does not either.  Entries that can be stored are merged alike with and without making a map of
them first, and a stage is completed alike whether or not its output is staged before it is
merged. -/
theorem merge_overwrites (map other further : ValueMap) (wellFormed : map.WF)
    (mergeable : other.WF) (mergeableToo : further.WF) :
    (∃ reached, merge other.toValue map = .ok () reached ∧ reached.WF ∧
        Entries.Gathers reached.entries (map.entries ++ other.entries)) ∧
      (∃ first joined reached, merge other.toValue map = .ok () first ∧
        merge further.toValue other = .ok () joined ∧
        merge further.toValue first = .ok () reached ∧
        merge joined.toValue map = .ok () reached) ∧
      merge .null map = .ok () map ∧ merge empty.toValue map = .ok () map ∧
      merge map.toValue empty = .ok () map ∧
      (∃ reached, merge other.toValue map = .ok () reached ∧
        merge other.toValue reached = .ok () reached) ∧
      (∀ payload : Payload, payload.Storable →
        ∃ staged reached, ofValue (.dict payload) = .ok staged ∧
          merge staged.toValue map = .ok () reached ∧ merge (.dict payload) map = .ok () reached) ∧
      ∀ host payload, Engine.stageFinished host payload =
        Engine.stageFinishedDirectly host payload := by
  refine ⟨⟨_, mergeable.merge_toValue map, ?_, ?_⟩, ⟨_, _, _, mergeable.merge_toValue map,
    mergeableToo.merge_toValue other, mergeableToo.merge_toValue _, ?_⟩, rfl, rfl, ?_,
    ⟨_, mergeable.merge_toValue map, ?_⟩, ?_, Engine.stageFinished_directly⟩
  · exact wellFormed.merged mergeable
  · exact gathers_merged wellFormed other
  · rw [(mergeable.merged mergeableToo).merge_toValue, merged_merged mergeable]
  · rw [wellFormed.merge_toValue, empty_merged wellFormed]
  · rw [mergeable.merge_toValue, merged_merged mergeable, merged_self mergeable]
  · intro payload storable
    obtain ⟨staged, amounts⟩ := (ofValue_isOk_iff payload).mpr storable
    refine ⟨staged, map.merged staged, amounts, ?_, merge_of_ofValue amounts map⟩
    exact merge_toValue (storable_ofValue amounts) map

end ValueMap

/-! ## A traveller -/

namespace Traveller

def known : ValueMap := ⟨[("name", .text "Ada"), ("age", .int 36)]⟩

def told : ValueMap := ⟨[("age", .float .nan), ("city", .text "Rome"), ("name", .null)]⟩

def corrected : ValueMap := ⟨[("zip", .bool true), ("city", .text "Oslo"), ("age", .int 37)]⟩

def output : Payload := [(.text "bag", .list []), (.text "city", .text "Bern")]

theorem wellFormed : known.WF ∧ told.WF ∧ corrected.WF :=
  ⟨⟨by decide, by decide⟩, ⟨by decide, by decide⟩, by decide, by decide⟩

theorem storable : output.Storable := by
  intro entry member
  rcases List.mem_cons.mp member with rfl | later
  · exact ⟨"bag", rfl, rfl⟩
  · cases List.mem_singleton.mp later
    exact ⟨"city", rfl, rfl⟩

end Traveller

theorem ValueMap.merge_overwrites_traveller :
    Traveller.known.WF ∧ Traveller.told.WF ∧ Traveller.corrected.WF ∧
      (∃ first joined reached, merge Traveller.told.toValue Traveller.known = .ok () first ∧
        merge Traveller.corrected.toValue Traveller.told = .ok () joined ∧
        merge Traveller.corrected.toValue first = .ok () reached ∧
        merge joined.toValue Traveller.known = .ok () reached ∧
        reached.entries.keys = ["name", "age", "city", "zip"]) ∧
      ∃ staged reached, ofValue (.dict Traveller.output) = .ok staged ∧
        merge staged.toValue Traveller.known = .ok () reached ∧
        merge (.dict Traveller.output) Traveller.known = .ok () reached ∧
        reached.entries.keys = ["name", "age", "bag", "city"] := by
  obtain ⟨known, told, corrected⟩ := Traveller.wellFormed
  obtain ⟨-, ⟨first, joined, reached, one, both, last, whole⟩, -, -, -, -, direct, -⟩ :=
    merge_overwrites Traveller.known Traveller.told Traveller.corrected known told corrected
  obtain ⟨staged, taken, amounts, merged, plain⟩ := direct Traveller.output Traveller.storable
  refine ⟨known, told, corrected, ⟨first, joined, reached, one, both, last, whole, ?_⟩, staged,
    taken, amounts, merged, plain, ?_⟩
  · cases one
    cases last
    rfl
  · cases plain
    rfl

end Workflow
