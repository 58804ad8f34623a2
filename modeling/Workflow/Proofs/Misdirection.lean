import Workflow.Proofs.Agreement
import Workflow.Proofs.Discipline
import Workflow.Proofs.Stranding

/-!
# Redirects that lead nowhere

When a redirector is asked, the workflow has already gone on: its values are merged, its next stage
is dispatched and the engine waits for it.  If the answer of the redirector leads nowhere, this is
where the failure leaves it, as if the redirector had declined.  The two engines that are compared
have the same hooks but for one answer.
-/

namespace Workflow

/-- The host whose hooks answer a given call of a hook with nothing; they do the same all the
same. -/
def Host.declining (host : Host) (call : Nat) : Host :=
  { host with
    run := fun program occasion shown => do
      let (left, answer) ← host.run program occasion shown
      return (left, if occasion.consultation = call then .null else answer) }

/-- The workflow that a redirector's text leads to: the text has to be an invocation, and its
workflow has to be registered. -/
def State.destination (state : State) (target : String) : Except Failure Definition := do
  let invocation ← (Invocation.parse target).mapError Failure.binding
  Registry.get state.registry invocation.name

namespace Engine

variable {host : Host} {state : State} {number : Nat} {inst : Instance} {definition : Definition}
  {stage : Stage} {payload : Payload} {call : Nat}

theorem consultations_eq (state : State) :
    state.journal.countP isConsultation = state.calls.length :=
  List.countP_eq_length_filter

/-! ## A host that declines once -/

/-- A call of a custom hook is taken down, and then the hook does what it does on this occasion. -/
theorem callHook_custom (program : Nat) (role : Role) (name : String) (stamp : Nat)
    (asked : Option (Nat × Question)) (arguments : List Value) (shown : Shown) :
    callHook host (.custom program role name stamp) asked arguments shown state =
      if (Hook.custom program role name stamp).arity = arguments.length then
        host.run program
          { consultation := state.calls.length
            call := state.journal.countP (isCallOf (.custom program role name stamp)), arguments }
          shown (state.reporting [.consulted (.custom program role name stamp) asked arguments])
      else .error .badCall state := by
  rw [← consultations_eq]
  by_cases arity : (Hook.custom program role name stamp).arity = arguments.length
  · simp only [callHook, arity, ne_eq, not_true_eq_false, ↓reduceIte, bind_apply, ask_apply,
      note_apply]
    rfl
  · simp only [callHook, arity, ne_eq, not_false_eq_true, ↓reduceIte, bind_apply, throw_apply]

theorem run_declining {program : Nat} {occasion : Occasion} {shown : Shown} :
    (host.declining call).run program occasion shown state =
      match host.run program occasion shown state with
      | .ok (left, answer) reached =>
        .ok (left, if occasion.consultation = call then .null else answer) reached
      | .error failure reached => .error failure reached := by
  simp only [Host.declining, bind_apply]
  cases host.run program occasion shown state <;> rfl

theorem run_declining_of_ne {program : Nat} {occasion : Occasion} {shown : Shown}
    (other : occasion.consultation ≠ call) :
    (host.declining call).run program occasion shown state =
      host.run program occasion shown state := by
  rw [run_declining]
  cases host.run program occasion shown state with
  | ok answered reached => simp only [other, ↓reduceIte]
  | error failure reached => rfl

/-- Another call of a hook is not declined. -/
theorem callHook_declining (other : state.calls.length ≠ call) (hook : Hook)
    (asked : Option (Nat × Question)) (arguments : List Value) (shown : Shown) :
    callHook (host.declining call) hook asked arguments shown state =
      callHook host hook asked arguments shown state := by
  cases hook with
  | custom program role name stamp =>
      rw [callHook_custom, callHook_custom]
      split
      · exact run_declining_of_ne other
      · rfl
  | _ => rfl

theorem consult_declining (other : state.calls.length ≠ call) (hook : Hook) (inst : Nat)
    (question : Question) (shown : Shown) :
    consult (host.declining call) hook inst question shown state =
      consult host hook inst question shown state := by
  simp only [consult, bind_apply]
  rcases shown.entries_keeps state with ⟨seen, looked⟩ | ⟨failure, looked⟩
  · rw [looked]
    exact callHook_declining other hook _ _ shown
  · rw [looked]

/-- The same call of a custom hook leads to the same state with the answer that was given up. -/
theorem consult_declined {program : Nat} {role : Role} {name : String} {stamp : Nat}
    {question : Question} {left : Shown} {answer : Value} {reached : State} {shown : Shown}
    (answered : consult host (.custom program role name stamp) number question shown state =
      .ok (left, answer) reached) :
    consult (host.declining state.calls.length) (.custom program role name stamp) number question
      shown state = .ok (left, .null) reached := by
  simp only [consult, bind_apply] at answered ⊢
  rcases shown.entries_keeps state with ⟨seen, looked⟩ | ⟨failure, looked⟩
  · simp only [looked, callHook_custom] at answered ⊢
    split at answered
    · next arity => simp only [arity, ↓reduceIte, run_declining, answered]
    · cases answered
  · simp only [looked] at answered
    cases answered

theorem judge_declining (other : state.calls.length ≠ call) (number : Nat) (stage : Stage)
    (payload : Payload) :
    judge (host.declining call) number stage payload state =
      judge host number stage payload state := by
  simp only [judge, bind_apply, consult_declining other]

end Engine

theorem Host.Contained.declining {host : Host} (contained : host.Contained) (call : Nat) :
    (host.declining call).Contained := by
  intro program occasion shown state
  have touched := contained program occasion shown state
  simp only [Trace.outcomeOf, Engine.run_declining] at touched ⊢
  cases ran : host.run program occasion shown state with
  | ok answered reached =>
      rw [ran] at touched
      exact touched
  | error failure reached =>
      rw [ran] at touched
      exact touched

namespace Engine

variable {host : Host} {state : State} {number : Nat} {inst : Instance} {definition : Definition}
  {stage : Stage} {payload left : Payload} {staged : ValueMap} {advanced reached : State}
  {call : Nat}

/-- An output is accepted all the same if it is not the call of the validator that is declined. -/
theorem Advanced.declining (other : state.calls.length ≠ call)
    (accepted : Advanced host state payload number inst definition stage left staged advanced) :
    Advanced (host.declining call) state payload number inst definition stage left staged
      advanced := by
  obtain ⟨moved, accepts, started⟩ := accepted.accepted
  obtain ⟨events, quiet, judged, same⟩ := accepts.judged
  rw [← judge_declining other] at judged
  exact ⟨accepted.toAtStage, moved, ⟨accepted.toAtStage, events, quiet, judged, same⟩, started⟩

/-! ## The rest of the run -/

/-- Routine steps only add to the journal. -/
theorem Routine.keeps_journal {α : Type} {step : Engine α} (routine : Routine step)
    (journal : List Event) : Trace.Keeps (fun state => journal <:+ state.journal) step := by
  refine routine.keeps fun state after move known => ?_
  cases move with
  | steady steady => exact known.trans steady.journal
  | begun invocation => exact known
  | changed number same => exact known
  | aside grown => exact known.trans grown
  | back lastAside now grown => exact known.trans grown
  | rested => exact known

/-- A hook that keeps to the mapping that it is shown only adds to the journal. -/
theorem journal_callHook (contained : host.Contained) (program : Nat) (role : Role) (name : String)
    (stamp : Nat) (asked : Option (Nat × Question)) (arguments : List Value) (shown : Shown) :
    state.journal <:+ (Trace.outcomeOf
      (callHook host (.custom program role name stamp) asked arguments shown) state).2.journal := by
  let called := state.reporting [.consulted (.custom program role name stamp) asked arguments]
  by_cases arity : (Hook.custom program role name stamp).arity = arguments.length
  · have ended := contained program
      { consultation := state.calls.length
        call := state.journal.countP (isCallOf (.custom program role name stamp)), arguments }
      shown called
    rw [Trace.outcomeOf, callHook_custom, if_pos arity, ← Trace.outcomeOf]
    obtain ⟨edit, remarks, -, reached⟩ := ended
    have kept : ((shown.editing edit called).reporting remarks).journal =
        remarks ++ called.journal := by
      cases shown <;> rfl
    rw [reached, kept]
    exact (List.suffix_cons _ _).trans (List.suffix_append _ _)
  · simp only [Trace.outcomeOf, callHook_custom, if_neg arity, List.suffix_rfl]

/-- Once a call is behind it, an engine does the same whether or not the call was declined. -/
theorem alike_declining (contained : host.Contained) (past : call < state.calls.length) :
    host.Alike (fun later => state.journal <:+ later.journal) (host.declining call) where
  keeps := fun routine => routine.keeps_journal state.journal
  modules := rfl
  patience := rfl
  call := by
    intro program role name stamp asked arguments shown later known
    have more : state.calls.length ≤ later.calls.length :=
      (known.filter isConsultation).length_le
    refine ⟨callHook_declining (Nat.ne_of_gt (Nat.lt_of_lt_of_le past more)) _ _ _ _, ?_⟩
    exact known.trans (journal_callHook contained program role name stamp asked arguments shown)

/-! ## A redirector that is asked -/

section Asked

variable {redirector : Hook} {shown : Shown}

/-- What a target that leads nowhere fails with. -/
theorem destination_error {target : String} {failure : Failure}
    (misled : state.destination target = .error failure) :
    (∃ fault, Invocation.parse target = .error fault ∧ failure = .binding fault) ∨
      ∃ invocation name, Invocation.parse target = .ok invocation ∧
        Registry.get state.registry invocation.name = .error failure ∧
        failure = .unknownWorkflow name := by
  cases read : Invocation.parse target with
  | error fault =>
      simp only [State.destination, read, mapError_error, bind, Except.bind, Except.error.injEq]
        at misled
      exact .inl ⟨fault, rfl, misled.symm⟩
  | ok invocation =>
      simp only [State.destination, read, mapError_ok, bind, Except.bind] at misled
      obtain ⟨name, unknown⟩ := Registry.get_error misled
      exact .inr ⟨invocation, name, rfl, misled, unknown⟩

/-- An answer that leads nowhere leaves the state in which it was given. -/
theorem advise_misled (asks : definition.redirector = some redirector) {next : Int}
    {target : String} (answered : consult host redirector number
      (.redirect next (definition.stageName? next) true) (.values number) advanced =
        .ok (shown, .text target) reached)
    {failure : Failure} (misled : reached.destination target = .error failure)
    (name : Option String) :
    ending (do
      let target ← advise host number definition next
      proceed host number definition name target) advanced = (some failure, reached) := by
  rcases destination_error misled with ⟨fault, read, rfl⟩ | ⟨invocation, _, read, absent, -⟩
  · simp only [ending, advise, asks, bind_apply, answered, redirectTarget, read, lift_error]
  · simp only [ending, advise, asks, bind_apply, answered, redirectTarget, read, lift_ok, proceed,
      redirect, get_apply, absent, lift_error]

/-- Whatever the redirector answers, it is not the engine that changes anything then. -/
theorem advise_reached (asks : definition.redirector = some redirector) {next : Int}
    {answer : Value} (answered : consult host redirector number
      (.redirect next (definition.stageName? next) true) (.values number) advanced =
        .ok (shown, answer) reached) :
    (ending (advise host number definition next) advanced).2 = reached := by
  simp only [ending, advise, asks, bind_apply, answered]
  cases redirectTarget answer <;> rfl

theorem proceed_none (found : reached.instances[number]? = some inst)
    (unfinished : definition.isCompleteAt inst.stage = false) (name : Option String) :
    ending (proceed host number definition name none) reached = (none, reached) := by
  simp only [ending, proceed, exitIfComplete, bind_apply, instanceAt_apply found, unfinished,
    Bool.false_eq_true, ↓reduceIte, pure_apply]

/-- A redirector that declines leaves the workflow to itself, if it is not over. -/
theorem advise_declined (asks : definition.redirector = some redirector) {next : Int}
    (answered : consult host redirector number
      (.redirect next (definition.stageName? next) true) (.values number) advanced =
        .ok (shown, .null) reached)
    (found : reached.instances[number]? = some inst)
    (unfinished : definition.isCompleteAt inst.stage = false) (name : Option String) :
    ending (do
      let target ← advise host number definition next
      proceed host number definition name target) advanced = (none, reached) := by
  have left := @proceed_none host number inst definition reached found unfinished name
  rw [← left]
  simp only [ending, advise, asks, bind_apply, answered, redirectTarget, lift_ok]

end Asked

/-- A well-formed state in which an instance is current waits for the stage of the instance. -/
theorem waits_of_runs (wellFormed : state.WellFormed) (runs : state.Runs number inst definition) :
    ∃ stage place handle, state.Waits number inst definition stage place handle := by
  rcases wellFormed.standing with idle | active
  · cases idle.current.symm.trans runs.current
  · obtain ⟨other, again, same, stage, place, handle, waits⟩ := active
    obtain ⟨rfl, rfl, rfl⟩ := runs.unique waits.toRuns
    exact ⟨stage, place, handle, waits⟩

/-- An instance that has moved on and has stages left goes on well. -/
theorem wellFormed_forwarded (contained : host.Contained) (wellFormed : state.WellFormed)
    {place : Nat} (held : state.held = some place)
    (stands : (state.finishing place).detached.AtStage number inst definition stage)
    (forwarded : (state.finishing place).detached.Forwarded number inst definition reached)
    (unfinished : definition.isCompleteAt (inst.stage + 1) = false) : reached.WellFormed := by
  have poised := poised_finishing wellFormed.toSound held
  have completion : Completion host (state.finishing place).detached (none, reached) :=
    .carried stands forwarded unfinished
  obtain ⟨resumable, standing⟩ :=
    completion.standing contained poised wellFormed.resumable
      (fun _ _ => running_current wellFormed) rfl
  have sound := (sound_forwarded poised (fun idle => nomatch idle.symm.trans stands.current)
    forwarded).1
  exact ⟨sound, resumable, standing⟩

/-- Where a redirector of a workflow that is not over names something that leads nowhere, the
operation fails with this and nothing else, and leaves the state in which the redirector answered.
The workflow has gone on: it has taken over the output and waits for its next stage.  If the same
call had been declined, the operation would have returned in the same state, and all that follows
would be the same. -/
theorem misled_as_declined (contained : host.Contained) (wellFormed : state.WellFormed)
    {operation : Operation} {place : Nat} (hears : state.Hears operation place payload)
    (accepted : Advanced host (state.finishing place).detached payload number inst definition stage
      left staged advanced) (unfinished : definition.isCompleteAt (inst.stage + 1) = false)
    {redirector : Hook} (asks : definition.redirector = some redirector) {shown : Shown}
    {target : String} (answered : consult host redirector number
      (.redirect (inst.stage + 1) (definition.stageName? (inst.stage + 1)) true) (.values number)
      advanced = .ok (shown, .text target) reached)
    {failure : Failure} (misled : state.destination target = .error failure) :
    let taken := Trace.take (perform host) state operation
    ((∃ fault, failure = .binding fault) ∨ ∃ name, failure = .unknownWorkflow name) ∧
    taken.outcome = .error failure ∧ taken.after = reached ∧ reached.WellFormed ∧
    reached.suspended = state.suspended ∧
    (∃ values next place handle, reached.Waits number
      { inst with values, stage := inst.stage + 1 } definition next place handle) ∧
    ending (proceed host number definition (definition.stageName? inst.stage) none) reached =
      (none, reached) ∧
    ∀ program role name stamp, redirector = .custom program role name stamp →
      let declined := host.declining (state.calls.length + 1)
      let other := Trace.take (perform declined) state operation
      other.outcome.isOk = true ∧ other.after = reached ∧
        ∀ operations, Trace.run (perform declined) other.after operations =
          Trace.run (perform host) taken.after operations := by
  intro taken
  have sound := wellFormed.toSound
  have poised := poised_finishing sound hears.held
  have grounded := poised.toGrounded
  have stands : (state.finishing place).AtStage number inst definition stage :=
    ⟨⟨accepted.current, accepted.found, accepted.defined⟩, accepted.there⟩
  have forwarded := accepted.reaches contained grounded (advise_reached asks answered)
  obtain ⟨values, runs⟩ := forwarded.runs accepted.toRuns
  have kept : reached.WellFormed :=
    wellFormed_forwarded contained wellFormed hears.held accepted.toAtStage forwarded unfinished
  have registry : reached.registry = state.registry := by cases forwarded <;> rfl
  have lost : reached.destination target = .error failure := by
    rw [← misled, State.destination, State.destination, registry]
  have told : ending (perform host operation) state = (some failure, reached) := by
    rw [ending_hears sound hears, accepted.continues stands contained grounded,
      advise_misled asks answered lost]
  refine ⟨?_, ?_, ?_, kept, ?_, ?_, proceed_none runs.found unfinished _, ?_⟩
  · rcases destination_error misled with ⟨fault, -, same⟩ | ⟨-, name, -, -, same⟩
    · exact .inl ⟨fault, same⟩
    · exact .inr ⟨name, same⟩
  · rw [failure_take, told]
  · rw [after_take, told]
  · exact (unwound_of_forwarded (poised.apart number accepted.current) forwarded).1
  · obtain ⟨next, place, handle, waits⟩ := waits_of_runs kept runs
    exact ⟨values, next, place, handle, waits⟩
  · rintro program role name stamp rfl
    intro declined other
    have called := accepted.called contained grounded
    have asked : advanced.calls.length = state.calls.length + 1 := by
      rw [called]
      rfl
    obtain ⟨_, advancedRuns⟩ := (accepted.forwarded grounded).runs accepted.toRuns
    have current := advancedRuns.current
    have answeredNothing := consult_declined answered
    rw [asked] at answeredNothing
    have different : (state.finishing place).detached.calls.length ≠ state.calls.length + 1 :=
      Nat.ne_of_lt (Nat.lt_succ_self _)
    have ended : ending (perform declined operation) state = (none, reached) := by
      rw [ending_hears sound hears, (accepted.declining different).continues stands
        (contained.declining _) grounded,
        advise_declined asks answeredNothing runs.found unfinished]
    have past : state.calls.length + 1 < reached.calls.length := by
      have numbered := ((accepted.forwarded grounded).grounded grounded).toNumbered
      have more := calls_consult contained numbered
        (by
          rintro _ ⟨rfl⟩
          exact numbered.current_lt number current) answered
      rw [more, List.length_cons, asked]
      exact Nat.lt_succ_self _
    refine ⟨?_, ?_, ?_⟩
    · rw [← outcome_take, ended]
    · rw [after_take, ended]
    · intro operations
      rw [show other.after = reached by rw [after_take, ended],
        show taken.after = reached by rw [after_take, told]]
      exact Trace.AgreeOn.run (agree_perform (alike_declining contained past)) List.suffix_rfl
        operations

end Engine

/-! ## A trip to nowhere

The trip of `Astray` is completed with a seat.  Its redirector names a place that is not there. -/

namespace Astray

def seat : Payload := [(.text "seat", .int 3)]

def leaving : Stage := ⟨"Go", none, .alwaysValid⟩

def journey : Definition :=
  { name := "Trip"
    stages := [leaving, ⟨"Return", none, .alwaysValid⟩]
    acceptor := .identityAcceptor
    redirector := some (.custom 0 .redirector "astray" 0) }

/-- The state in which the trip waits for its second stage, and its redirector is asked. -/
def returning : State :=
  ((going.finishing 0).detached.forwarded 0 ⟨[("seat", .int 3)]⟩
    [.accepted 0 (some "Go") 0 ⟨[("seat", .int 3)]⟩, .validating leaving 0 seat]).dispatched
      "Return" none

theorem hears_going : going.Hears (.complete (.dict seat)) 0 seat :=
  ⟨by decide +kernel, by rfl, .dict seat, rfl, rfl⟩

theorem advanced_going : Engine.Advanced host (going.finishing 0).detached seat 0
    (.ofInvocation ⟨"Trip", none⟩) journey leaving seat ⟨[("seat", .int 3)]⟩ returning := by
  have defined : Registry.get going.registry "Trip" = .ok journey :=
    eq_ok_of_toOption (by decide +kernel)
  have stands : (going.finishing 0).detached.AtStage 0 (.ofInvocation ⟨"Trip", none⟩) journey
      leaving := ⟨⟨rfl, rfl, defined⟩, rfl⟩
  have quiet : Event.Quiet [.validating leaving 0 seat] := rfl
  exact ⟨stands, _, ⟨stands, _, quiet, rfl, rfl⟩, rfl⟩

end Astray

/-- The trip fails to go to nowhere, and waits for its second stage as if it had stayed. -/
theorem Engine.misled_as_declined_going :
    let taken := Trace.take (perform Astray.host) Astray.going (.complete (.dict Astray.seat))
    let other := Trace.take (perform (Astray.host.declining (Astray.going.calls.length + 1)))
      Astray.going (.complete (.dict Astray.seat))
    Astray.going.WellFormed ∧
      Astray.going.destination "Nowhere" = .error (.unknownWorkflow "Nowhere") ∧
      taken.outcome = .error (.unknownWorkflow "Nowhere") ∧ other.outcome.isOk = true ∧
      other.after = taken.after ∧ taken.after.WellFormed ∧
      ∀ operations, Trace.run (perform (Astray.host.declining (Astray.going.calls.length + 1)))
        other.after operations = Trace.run (perform Astray.host) taken.after operations := by
  have read : Invocation.parse "Nowhere" = .ok ⟨"Nowhere", none⟩ :=
    eq_ok_of_toOption (by decide +kernel)
  have absent : Entries.lookup Astray.going.registry "Nowhere" = none := by decide +kernel
  have misled : Astray.going.destination "Nowhere" = .error (.unknownWorkflow "Nowhere") := by
    simp only [State.destination, read, mapError_ok, bind, Except.bind, Registry.get, absent]
  obtain ⟨-, failed, after, kept, -, -, -, declines⟩ := misled_as_declined Astray.contained
    Astray.wellFormed_going Astray.hears_going Astray.advanced_going rfl rfl rfl misled
  obtain ⟨returned, same, runs⟩ := declines _ _ _ _ rfl
  exact ⟨Astray.wellFormed_going, misled, failed, returned, same.trans after.symm, after ▸ kept,
    runs⟩

end Workflow
