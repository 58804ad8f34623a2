import Workflow.Instance.Request
import Workflow.Proofs.Placing
import Workflow.Trace
import Workflow.ValueMap.Command

/-!
# What gets into a map of values

Everything that writes to a map of values goes through the one check of keys and kinds, and takes
back what it built if this was to be a new map.  So whatever commands are run, whether or not they
come to their ends, a map is a dictionary with text keys that differ and with values of a few kinds.
-/

namespace Workflow

namespace Trace

variable {ε σ α β κ : Type} {kind : σ → Prop}

/-- From states of a kind two programs do the same, and lead to a state of this kind again, whether
or not they fail. -/
def AgreeOn (kind : σ → Prop) (program other : EStateM ε σ α) : Prop :=
  ∀ state, kind state → other state = program state ∧ kind (outcomeOf program state).2

/-- A program leads from states of a kind to states of this kind, whether or not it fails. -/
abbrev Keeps (kind : σ → Prop) (program : EStateM ε σ α) : Prop :=
  AgreeOn kind program program

theorem keeps_of {program : EStateM ε σ α}
    (leads : ∀ state, kind state → kind (outcomeOf program state).2) : Keeps kind program :=
  fun state held => ⟨rfl, leads state held⟩

theorem keeps_pure (answer : α) : Keeps kind (pure answer : EStateM ε σ α) :=
  keeps_of fun _ held => held

theorem keeps_throw (failure : ε) : Keeps kind (throw failure : EStateM ε σ α) :=
  keeps_of fun _ held => held

theorem AgreeOn.bind {program other : EStateM ε σ α} {next further : α → EStateM ε σ β}
    (first : AgreeOn kind program other)
    (rest : ∀ answer, AgreeOn kind (next answer) (further answer)) :
    AgreeOn kind (program >>= next) (other >>= further) := by
  intro state held
  obtain ⟨same, kept⟩ := first state held
  simp only [outcomeOf, Bind.bind, EStateM.bind, same] at kept ⊢
  cases reached : program state with
  | ok answer after =>
      rw [reached] at kept
      exact rest answer after kept
  | error failure after =>
      rw [reached] at kept
      exact ⟨rfl, kept⟩

theorem AgreeOn.ite {condition : Prop} [Decidable condition]
    {first second other another : EStateM ε σ α} (positive : AgreeOn kind first other)
    (negative : AgreeOn kind second another) :
    AgreeOn kind (if condition then first else second)
      (if condition then other else another) := by
  split
  · exact positive
  · exact negative

/-- Programs that agree on the states in which they are run one after the other run alike. -/
theorem AgreeOn.run {perform other : κ → EStateM ε σ α}
    (agree : ∀ command, AgreeOn kind (perform command) (other command)) {state : σ}
    (held : kind state) (commands : List κ) :
    run other state commands = run perform state commands := by
  induction commands generalizing state with
  | nil => rfl
  | cons command rest ih =>
      obtain ⟨same, kept⟩ := agree command state held
      have taken : take other state command = take perform state command := by
        simp only [take, outcomeOf, same]
      simp only [Trace.run, taken]
      exact congrArg _ (ih kept)

theorem Keeps.final {perform : κ → EStateM ε σ α} (keeps : ∀ command, Keeps kind (perform command))
    {state : σ} (held : kind state) (commands : List κ) : kind (final perform state commands) := by
  induction commands generalizing state with
  | nil => exact held
  | cons command rest ih => exact ih (keeps command state held).2

end Trace

/-- Entries such as a workflow accumulates: the keys are texts and differ from each other, and every
value is of one of seven kinds. -/
structure Value.Accumulable (entries : List (Value × Value)) : Prop where
  keyed : ∀ entry ∈ entries, entry.1.kind = .text
  distinct : entries.Pairwise fun earlier later => (earlier.1 == later.1) = false
  kinds : ∀ entry ∈ entries,
    entry.2.kind ∈ [Kind.text, .bool, .int, .float, .list, .dict, .null]

theorem Value.beq_text (left right : String) :
    (Value.text left == Value.text right) = (left == right) := by
  simp only [BEq.beq, equal, equalAtoms]

namespace ValueMap

/-- A map is a dictionary of entries such as a workflow accumulates. -/
def Accumulated (map : ValueMap) : Prop :=
  ∃ entries, map.toValue = .dict entries ∧ Value.Accumulable entries

/-- A map of values to which anything may have been done: it was built of some value or with an
instance, and commands were run on it, of which some may have failed halfway. -/
inductive Reachable : ValueMap → Prop where
  | empty : Reachable .empty
  | ofValue {value : Value} {map : ValueMap} (built : ofValue value = .ok map) : Reachable map
  | ofDict {value : Value} {map : ValueMap} (built : ofDict value = .ok map) : Reachable map
  | requested {request : InstanceRequest} {inst : Instance} (made : request.make = .ok inst) :
      Reachable inst.values
  | commanded {map : ValueMap} (reachable : Reachable map) (command : ValueCommand) :
      Reachable (Trace.take ValueCommand.run map command).after

variable {map : ValueMap} {α : Type}

theorem mem_supported {kind : Kind} (supported : kind.isSupported = true) :
    kind ∈ [Kind.text, .bool, .int, .float, .list, .dict, .null] := by
  cases kind <;> first | decide | cases supported

theorem WF.accumulated (wellFormed : map.WF) : map.Accumulated := by
  refine ⟨_, rfl, ?_⟩
  constructor
  · intro entry member
    obtain ⟨stored, -, rfl⟩ := List.mem_map.mp member
    rfl
  · rw [List.pairwise_map]
    refine (List.pairwise_map.mp wellFormed.1).imp fun {earlier later} different => ?_
    rw [Value.beq_text]
    exact beq_eq_false_iff_ne.mpr different
  · intro entry member
    obtain ⟨stored, there, rfl⟩ := List.mem_map.mp member
    exact mem_supported (wellFormed.2 stored there)

theorem wf_empty : WF .empty :=
  ⟨List.nodup_nil, fun _ member => absurd member List.not_mem_nil⟩

theorem WF.sublist (wellFormed : map.WF) {entries : Entries String Value}
    (fewer : entries.Sublist map.entries) : WF ⟨entries⟩ :=
  ⟨wellFormed.1.sublist (fewer.map _), fun entry member => wellFormed.2 entry (fewer.mem member)⟩

theorem WF.put (wellFormed : map.WF) (name : String) {value : Value}
    (supported : value.kind.isSupported = true) :
    WF ⟨Entries.put map.entries name value⟩ := by
  constructor
  · have distinct := (Entries.wf_iff_nodup_keys map.entries).mpr wellFormed.1
    exact (Entries.wf_iff_nodup_keys _).mp (distinct.put name value)
  · intro entry member
    rcases (Entries.placed_iff.mpr rfl).mem member with before | rfl
    · exact wellFormed.2 entry before
    · exact supported

theorem keeps_put (key value : Value) : Trace.Keeps WF (put key value) := by
  apply Trace.keeps_of
  intro map wellFormed
  cases key with
  | text name =>
      simp only [Trace.outcomeOf, put]
      cases supported : value.kind.isSupported with
      | true => exact wellFormed.put name supported
      | false => exact wellFormed
  | _ => exact wellFormed

theorem keeps_putAll (entries : List (Value × Value)) : Trace.Keeps WF (putAll entries) := by
  induction entries with
  | nil => exact Trace.keeps_pure ()
  | cons entry rest ih => exact (keeps_put entry.1 entry.2).bind fun _ => ih

theorem keeps_merge (other : Value) : Trace.Keeps WF (merge other) := by
  refine Trace.AgreeOn.ite ?_ (Trace.keeps_pure ())
  cases other with
  | dict entries => exact keeps_putAll entries
  | _ => exact Trace.keeps_throw _

theorem keeps_putItems (items : List Value) : Trace.Keeps WF (putItems items) := by
  induction items with
  | nil => exact Trace.keeps_pure ()
  | cons item rest ih =>
      have read : Trace.Keeps WF (putItems.liftExcept (pairOf item)) := by
        cases pairOf item with
        | ok pair => exact Trace.keeps_pure pair
        | error fault => exact Trace.keeps_throw fault
      exact read.bind fun pair => (keeps_put pair.1 pair.2).bind fun _ => ih

theorem wf_of_ofValue {value : Value} (built : ofValue value = .ok map) : map.WF := by
  have kept := (keeps_merge value empty wf_empty).2
  simp only [ofValue, ValueMap.built] at built
  simp only [Trace.outcomeOf] at kept
  cases reached : merge value empty with
  | ok answer after =>
      rw [reached] at built kept
      cases built
      exact kept
  | error fault after =>
      rw [reached] at built
      cases built

theorem wf_of_ofDict {value : Value} (built : ofDict value = .ok map) : map.WF := by
  cases value with
  | dict entries => exact wf_of_ofValue built
  | _ => cases built

end ValueMap

namespace ValueCommand

open ValueMap Trace

variable {α : Type}

theorem keeps_ask (question : ValueMap → Except ValueFault α) : Keeps WF (ask question) := by
  apply keeps_of
  intro map wellFormed
  simp only [outcomeOf, ask]
  cases question map <;> exact wellFormed

theorem keeps_current : Keeps WF current :=
  keeps_of fun _ wellFormed => wellFormed

/-- What was read of a map is answered. -/
theorem keeps_ask_pure {β : Type} (question : ValueMap → Except ValueFault α) (answer : α → β) :
    Keeps WF (do return answer (← ask question)) :=
  (keeps_ask question).bind fun _ => keeps_pure _

theorem keeps_takeOut (key : Value) (default : Option Value) :
    Keeps WF (takeOut key default) := by
  apply keeps_of
  intro map wellFormed
  simp only [outcomeOf, takeOut]
  split
  · next taken =>
    split at taken
    · cases taken
    · split at taken
      · cases taken
        exact wellFormed.sublist List.filter_sublist
      · cases taken
        exact wellFormed
      · cases taken
  · next refused =>
    split at refused
    · cases refused
      exact wellFormed
    · split at refused <;> cases refused
      exact wellFormed

theorem keeps_remove (key : Value) : Keeps WF (remove key) :=
  (keeps_takeOut key none).bind fun _ => keeps_pure ()

theorem keeps_takeFirst : Keeps WF takeFirst := by
  apply keeps_of
  rintro ⟨entries⟩ wellFormed
  cases entries with
  | nil => exact wellFormed
  | cons entry rest => exact wellFormed.sublist (List.sublist_cons_self entry rest)

theorem keeps_getExisting (key : Value) : Keeps WF (getExisting key) :=
  (keeps_ask _).bind fun found => by
    cases found with
    | some value => exact keeps_pure value
    | none => exact keeps_throw _

theorem keeps_getOrPut (key default : Value) : Keeps WF (getOrPut key default) :=
  (keeps_ask _).bind fun found => by
    cases found with
    | some value => exact keeps_pure value
    | none => exact (keeps_put key default).bind fun _ => keeps_pure default

theorem keeps_storeAll (other : Value) : Keeps WF (storeAll other) := by
  unfold storeAll
  split
  · exact keeps_putAll _
  · split
    · exact keeps_putItems _
    · exact keeps_throw _

/-- Whatever a command does to a map, and wherever it stops, the map stays well formed. -/
theorem keeps_run (command : ValueCommand) : Keeps WF command.run := by
  cases command with
  | set key value => exact (keeps_put key value).bind fun _ => keeps_pure _
  | get key => exact keeps_getExisting key
  | delete key => exact (keeps_remove key).bind fun _ => keeps_pure _
  | pop key default => exact keeps_takeOut key default
  | popFirst => exact keeps_takeFirst
  | clear => exact keeps_of fun _ _ => wf_empty
  | setDefault key default => exact keeps_getOrPut key default
  | update other => exact (keeps_storeAll other).bind fun _ => keeps_pure _
  | merge other => exact (keeps_merge other).bind fun _ => keeps_pure _
  | mergeMap other =>
      exact (keeps_ask _).bind fun _ => (keeps_merge _).bind fun _ => keeps_pure _
  | equalsMap other => exact (keeps_ask _).bind fun _ => keeps_current.bind fun _ => keeps_pure _
  | keys => exact keeps_current.bind fun _ => keeps_pure _
  | size => exact keeps_current.bind fun _ => keeps_pure _
  | isNonempty => exact keeps_current.bind fun _ => keeps_pure _
  | equals other => exact keeps_current.bind fun _ => keeps_pure _
  | copy => exact keeps_current.bind fun _ => keeps_pure _
  | find key default => exact keeps_ask_pure _ _
  | has key => exact keeps_ask_pure _ _
  | write => exact keeps_ask_pure _ _
  | checkEquals key value => exact keeps_ask_pure _ _
  | text key => exact keeps_ask_pure _ _
  | require key => exact keeps_ask _
  | getA kind key => exact keeps_ask _
  | getFloat key => exact keeps_ask _

end ValueCommand

namespace Checked

variable {α β γ : Type}

theorem zipWith_eq_ok_iff {combine : α → β → γ} {left : Checked α} {right : Checked β} {both : γ} :
    zipWith combine left right = .ok both ↔
      ∃ first second, left = .ok first ∧ right = .ok second ∧ combine first second = both := by
  cases left <;> cases right <;> simp [zipWith]

theorem apply_eq_ok_iff {function : Checked (α → β)} {argument : Checked α} {answer : β} :
    apply function argument = .ok answer ↔
      ∃ change given, function = .ok change ∧ argument = .ok given ∧ change given = answer :=
  zipWith_eq_ok_iff

end Checked

theorem InstanceRequest.values_of_withValues {request : InstanceRequest} {values : ValueMap}
    {inst : Instance} (made : request.withValues values = .ok inst) : inst.values = values := by
  simp only [withValues, Checked.apply_eq_ok_iff, Checked.zipWith_eq_ok_iff] at made
  obtain ⟨_, _, ⟨_, _, ⟨_, _, -, -, rfl⟩, -, rfl⟩, -, rfl⟩ := made
  rfl

theorem InstanceRequest.wf_of_valuesOf {request : InstanceRequest} {map : ValueMap}
    (given : request.valuesOf = .ok map) : map.WF := by
  simp only [valuesOf] at given
  split at given
  · cases given
    exact ValueMap.wf_empty
  · split at given
    · exact ValueMap.wf_of_ofValue given
    · exact ValueMap.wf_of_ofDict given

theorem InstanceRequest.wf_of_make {request : InstanceRequest} {inst : Instance}
    (made : request.make = .ok inst) : inst.values.WF := by
  cases given : request.valuesOf with
  | error fault =>
      rw [make, given] at made
      cases made
  | ok values =>
      have checked : request.make = (request.withValues values).mapError Failure.invalid := by
        rw [make, given]
        rfl
      rw [checked] at made
      cases built : request.withValues values with
      | error problems =>
          rw [built] at made
          cases made
      | ok other =>
          rw [built] at made
          cases made
          rw [values_of_withValues built]
          exact wf_of_valuesOf given

/-- Whatever was done to a map of values, it is well formed. -/
theorem ValueMap.Reachable.wf {map : ValueMap} (reachable : map.Reachable) : map.WF := by
  induction reachable with
  | empty => exact wf_empty
  | ofValue built => exact wf_of_ofValue built
  | ofDict built => exact wf_of_ofDict built
  | requested made => exact InstanceRequest.wf_of_make made
  | commanded reachable command ih => exact (ValueCommand.keeps_run command _ ih).2

end Workflow
