import Workflow.Proofs.Course
import Workflow.Proofs.Overwriting

/-!
# The chronicle of a run

An instance takes over outputs of its stages that were accepted, and contributions of workflows that
ended above it.  The chronicle of a run lists what validators left of the outputs and what acceptors
answered, by whom it was taken over, and in the order in which it happened.  An output is in it
exactly if it was accepted.
-/

namespace Workflow

/-- Something that an instance takes over. -/
inductive Deposit where
  /-- An output that was accepted, as its validator left it. -/
  | output (inst : Nat) (left : Payload)
  /-- What the acceptor of another workflow answered, after whose end the instance went on. -/
  | contribution (inst : Nat) (answer : Value)

namespace Deposit

/-- The instance that takes over. -/
def inst : Deposit → Nat
  | output number _ | contribution number _ => number

/-- What it takes over. -/
def value : Deposit → Value
  | output _ left => .dict left
  | contribution _ answer => answer

def isOutput : Deposit → Bool
  | output _ _ => true
  | contribution _ _ => false

end Deposit

namespace State

/-- The handle that an operation completes, and what the engine is told of it if it waits for it. -/
def heard? (state : State) (operation : Operation) : Option (Nat × Payload) := do
  let place ← (state.completed operation).toOption
  let output ← operation.output?
  let payload ← (Payload.ofOutput output).toOption
  if state.held = some place then return (place, payload) else none

/-- The stage at which the current instance stands. -/
def atStage? (state : State) : Option (Nat × Instance × Definition × Stage) := do
  let number ← state.current
  let (inst, definition) ← state.runner? number
  let stage ← definition.stage? inst.stage
  return (number, inst, definition, stage)

theorem heard?_eq_some_iff {state : State} {operation : Operation} {place : Nat}
    {payload : Payload} :
    state.heard? operation = some (place, payload) ↔ state.Hears operation place payload := by
  simp only [heard?, bind, Option.bind_eq_some_iff]
  constructor
  · rintro ⟨other, completed, output, given, read, delivered, heard⟩
    split at heard
    · next held =>
      cases heard
      exact ⟨held, eq_ok_of_toOption completed, output, given, eq_ok_of_toOption delivered⟩
    · cases heard
  · rintro ⟨held, completed, output, given, read⟩
    refine ⟨place, by rw [completed]; rfl, output, given, payload, by rw [read]; rfl, ?_⟩
    rw [if_pos held]
    rfl

theorem AtStage.atStage? {state : State} {number : Nat} {inst : Instance} {definition : Definition}
    {stage : Stage} (stands : state.AtStage number inst definition stage) :
    state.atStage? = some (number, inst, definition, stage) := by
  simp [State.atStage?, stands.current, Engine.runner_apply stands.found stands.defined,
    stands.there]

theorem atStage_of_atStage? {state : State} {number : Nat} {inst : Instance}
    {definition : Definition} {stage : Stage}
    (stands : state.atStage? = some (number, inst, definition, stage)) :
    state.AtStage number inst definition stage := by
  simp only [atStage?, runner?, bind, Option.bind_eq_some_iff] at stands
  obtain ⟨_, current, _, ⟨_, found, _, defined, runs⟩, _, there, same⟩ := stands
  cases runs
  cases same
  exact ⟨⟨current, found, eq_ok_of_toOption defined⟩, there⟩

theorem Runs.atStage?_eq_none {state : State} {number : Nat} {inst : Instance}
    {definition : Definition} (runs : state.Runs number inst definition)
    (absent : definition.stage? inst.stage = none) : state.atStage? = none := by
  simp [State.atStage?, runs.current, Engine.runner_apply runs.found runs.defined, absent]

end State

namespace Engine

/-- What is taken over while the current instance exits: whichever is resumed takes over what the
acceptor of the one before it answers. -/
def handovers (host : Host) : Nat → State → List Deposit
  | 0, _ => []
  | bound + 1, state =>
    match conclude host state with
    | .error _ _ => []
    | .ok answer answered =>
      match answered.suspended with
      | some top :: _ =>
        .contribution top answer ::
          match resume answer answered with
          | .ok true restored => handovers host bound restored
          | _ => []
      | _ => []

/-- What is taken over once an instance has come to a stage: nothing, unless that is its end and it
is not redirected. -/
def onward (host : Host) (number : Nat) (definition : Definition) (reached : Int) (state : State) :
    List Deposit :=
  let advised : Engine (Option (String × Invocation)) := do
    startNext definition reached
    advise host number definition reached
  match advised state with
  | .ok none after =>
    if definition.isCompleteAt reached then
      handovers host (after.suspended.length + 1 + host.patience) after
    else []
  | _ => []

/-- What is taken over when the stage of the current instance is completed. -/
def deposits (host : Host) (payload : Payload) (state : State) : List Deposit :=
  match state.atStage? with
  | none => []
  | some (number, inst, definition, stage) =>
    match judge host number stage payload state with
    | .ok (left, .ok staged) judged =>
      .output number left :: onward host number definition (inst.stage + 1)
        (judged.forwarded number (inst.values.merged staged)
          [.accepted number (definition.stageName? inst.stage) inst.stage staged])
    | _ => []

/-- What is taken over in an operation. -/
def depositsOf (host : Host) (state : State) (operation : Operation) : List Deposit :=
  match state.heard? operation with
  | none => []
  | some (place, payload) => deposits host payload (state.finishing place).detached

/-- What is taken over in a run, in the order in which it happens. -/
def chronicle (host : Host) (state : State) : List Operation → List Deposit
  | [] => []
  | operation :: rest =>
    depositsOf host state operation ++
      chronicle host (Trace.take (perform host) state operation).after rest

/-- An operation completes the stage at which an instance stands, and the output is accepted: the
validator says that it is valid, and what it leaves of it can be stored. -/
def Approves (host : Host) (state : State) (operation : Operation) (number : Nat)
    (left : Payload) : Prop :=
  ∃ inst definition stage place payload shown answer verdict reached,
    state.AtStage number inst definition stage ∧ state.Hears operation place payload ∧
      consult host stage.validator number .validate (.output payload)
        (state.finishing place).detached = .ok (shown, answer) reached ∧
      Verdict.ofAnswer answer = .ok verdict ∧ verdict.valid = true ∧ shown.payload = left ∧
      left.Storable

variable {host : Host} {state : State} {number : Nat} {inst : Instance} {definition : Definition}
  {stage : Stage} {payload : Payload}

section Accepted

variable {left : Payload} {staged : ValueMap} {moved advanced : State}

theorem Accepts.deposits_eq
    (accepts : Accepts host state payload number inst definition stage left staged moved) :
    deposits host payload state =
      .output number left :: onward host number definition (inst.stage + 1) moved := by
  obtain ⟨events, -, judged, rfl⟩ := accepts.judged
  simp only [deposits, accepts.toAtStage.atStage?, judged]
  rfl

theorem Advanced.deposits_eq
    (accepted : Advanced host state payload number inst definition stage left staged advanced) :
    deposits host payload state = .output number left ::
      match advise host number definition (inst.stage + 1) advanced with
      | .ok none after =>
        if definition.isCompleteAt (inst.stage + 1) then
          handovers host (after.suspended.length + 1 + host.patience) after
        else []
      | _ => [] := by
  obtain ⟨moved, accepts, started⟩ := accepted.accepted
  simp only [accepts.deposits_eq, onward, bind_apply, started]

end Accepted

theorem isOutput_of_mem_handovers {bound : Nat} {deposit : Deposit}
    (member : deposit ∈ handovers host bound state) : deposit.isOutput = false := by
  induction bound generalizing state with
  | zero => cases member
  | succ bound ih =>
      simp only [handovers] at member
      split at member
      · cases member
      · split at member
        · rcases List.mem_cons.mp member with rfl | later
          · rfl
          · split at later
            · exact ih later
            · cases later
        · cases member

theorem isOutput_of_mem_onward {reached : Int} {deposit : Deposit}
    (member : deposit ∈ onward host number definition reached state) :
    deposit.isOutput = false := by
  simp only [onward] at member
  split at member
  · split at member
    · exact isOutput_of_mem_handovers member
    · cases member
  · cases member

/-- An output is taken over in an operation exactly if it is accepted.  So nothing is taken over of
one that is rejected, or whose validator does not answer. -/
theorem output_mem_depositsOf_iff {operation : Operation} {left : Payload} :
    .output number left ∈ depositsOf host state operation ↔
      Approves host state operation number left := by
  constructor
  · intro member
    simp only [depositsOf] at member
    split at member
    · cases member
    · next place payload heard =>
      have hears := State.heard?_eq_some_iff.mp heard
      simp only [deposits] at member
      split at member
      · cases member
      · next other inst definition stage there =>
        have stands := State.atStage_of_atStage? there
        split at member
        · next left staged reached judged =>
          obtain ⟨shown, answer, verdict, consulted, said, same, accepted, -⟩ :=
            judge_eq_ok_iff.mp judged
          obtain ⟨valid, amounts⟩ := Verdict.stage_eq_ok_iff.mp accepted
          rcases List.mem_cons.mp member with equal | later
          · cases equal
            exact ⟨inst, definition, stage, place, payload, shown, answer, verdict, reached,
              ⟨⟨stands.current, stands.found, stands.defined⟩, stands.there⟩, hears, consulted,
              said, valid, same, (ValueMap.ofValue_isOk_iff left).mp ⟨staged, amounts⟩⟩
          · cases isOutput_of_mem_onward later
        · cases member
  · rintro ⟨inst, definition, stage, place, payload, shown, answer, verdict, reached, stands, hears,
      consulted, said, valid, same, storable⟩
    obtain ⟨staged, amounts⟩ := (ValueMap.ofValue_isOk_iff left).mpr storable
    have judged := judge_eq_ok_iff.mpr ⟨shown, answer, verdict, consulted, said, same,
      Verdict.stage_eq_ok_iff.mpr ⟨valid, amounts⟩, nofun⟩
    have waiting : (state.finishing place).detached.AtStage number inst definition stage :=
      ⟨⟨stands.current, stands.found, stands.defined⟩, stands.there⟩
    simp only [depositsOf, State.heard?_eq_some_iff.mpr hears, deposits, waiting.atStage?, judged]
    exact List.mem_cons_self

end Engine

end Workflow
