import Workflow.Proofs.Lasting

/-!
# The prompt about a rejected output

The engine registers a workflow of its own when it is built, the prompt.  An output that is rejected
puts the current instance aside for an instance of it, whose acceptor decides in the end whether
what lies below is given up.  The prompt has no redirector and takes any output, so as long as
nobody registers another workflow under its name, it goes through its stages one by one.
-/

namespace Workflow

/-- A workflow as the engine registers it for the prompt. -/
structure Definition.IsPrompt (definition : Definition) : Prop where
  acceptor : definition.acceptor = .cancelDecision
  redirector : definition.redirector = none
  validators : ∀ stage ∈ definition.stages, stage.validator = .alwaysValid
  staged : 0 < definition.stageCount

namespace Registry

theorem isPrompt_define {name plan : String} {definition : Definition}
    (defined : define { name, plan, acceptor := some .cancelDecision } = .ok definition) :
    definition.IsPrompt := by
  simp only [define, validatorsFor, List.isEmpty_nil, ↓reduceIte, List.map_map] at defined
  split at defined
  · cases defined
  · split at defined
    · cases defined
    · next staged =>
      split at defined
      · cases defined
      · cases defined
        refine ⟨rfl, rfl, ?_, ?_⟩
        · intro stage member
          simp only [List.zipWith_map_right, List.zipWith_self, List.mem_map] at member
          obtain ⟨planned, -, rfl⟩ := member
          rfl
        · simp only [Definition.stageCount, List.zipWith_map_right, List.zipWith_self,
            List.length_map, List.length_pos_iff]
          simpa using staged

end Registry

/-- The workflow that is registered for the prompt is one. -/
def State.Prompts (state : State) : Prop :=
  ∃ prompt, Registry.get state.registry state.settings.cancelWorkflow = .ok prompt ∧ prompt.IsPrompt

namespace Engine

variable {host : Host} {state : State} {number : Nat} {inst : Instance} {definition : Definition}
  {stage : Stage}

theorem register_ok {registration : Registration} {reached : State}
    (registered : register registration state = .ok definition reached) :
    Registry.define registration = .ok definition ∧ reached.settings = state.settings ∧
      reached.registry = Entries.put state.registry definition.name definition := by
  cases defined : Registry.define registration with
  | error fault =>
      by_cases named : registration.name = "" <;>
        simp [register, bind_apply, named, register_map, defined, Except.map] at registered
  | ok other =>
      by_cases named : registration.name = ""
      · simp [Registry.define, named] at defined
      · by_cases replacing : Entries.has state.registry other.name = true
        · simp [register, bind_apply, map_apply, named, register_map, defined, Except.map,
            replacing] at registered
          obtain ⟨rfl, rfl⟩ := registered
          exact ⟨rfl, rfl, rfl⟩
        · simp [register, bind_apply, map_apply, named, register_map, defined, Except.map,
            replacing] at registered
          obtain ⟨rfl, rfl⟩ := registered
          exact ⟨rfl, rfl, rfl⟩

end Engine

theorem State.FreshlyBuilt.prompts {state : State} (fresh : state.FreshlyBuilt) :
    state.Prompts := by
  obtain ⟨registry, settings, content, backend, stamp, built⟩ := fresh
  simp only [Engine.initial, Engine.bind_apply, Engine.modify_apply] at built
  cases result : Engine.register _ _ with
  | error failure reached =>
      rw [result] at built
      cases built
  | ok definition reached =>
      rw [result] at built
      cases built
      obtain ⟨defined, kept, registered⟩ := Engine.register_ok result
      have named := Engine.name_define defined
      refine ⟨definition, ?_, Registry.isPrompt_define defined⟩
      rw [registered, kept, Registry.get, named, Entries.lookup_put_self]

namespace Engine

variable {host : Host} {state : State} {number : Nat} {inst : Instance} {definition : Definition}
  {stage : Stage}

/-- A name keeps its definition as long as no operation registers it. -/
theorem Passage.get_registry (contained : host.Contained) {operation : Operation}
    {result : Option Failure × State} (passage : Passage host state operation result)
    (sound : state.Sound) {name : String} (spared : name ∉ operation.registers?) :
    Registry.get result.2.registry name = Registry.get state.registry name := by
  cases passage with
  | refused refusal => rfl
  | @registered request failure? registry stamp events quiet kept =>
      have different : name ≠ request.name := by
        rintro rfl
        exact spared rfl
      exact get_registering (kept.imp_left And.right) different
  | invoked admitted started =>
      have registry := started_registry started
      exact congrArg (Registry.get · name) registry
  | stranded admitted => rfl
  | unheard completed unheld => rfl
  | completed completed held completion =>
      have registry := completion.registry contained (poised_finishing sound held)
      exact congrArg (Registry.get · name) registry

/-- The prompt is in its place until an operation registers its name. -/
theorem Passage.prompts (contained : host.Contained) {operation : Operation}
    {result : Option Failure × State} (passage : Passage host state operation result)
    (sound : state.Sound) (prompts : state.Prompts)
    (spared : state.settings.cancelWorkflow ∉ operation.registers?) : result.2.Prompts := by
  obtain ⟨prompt, known, asks⟩ := prompts
  refine ⟨prompt, ?_, asks⟩
  rw [(passage.lasts contained sound).settings, passage.get_registry contained sound spared]
  exact known

/-- As long as no operation registers its name, the prompt is in its place. -/
theorem prompts_final (contained : host.Contained) (sound : state.Sound) (prompts : state.Prompts)
    {operations : List Operation} (controls : ∀ operation ∈ operations, operation.controls = true)
    (unreplaced : ∀ operation ∈ operations,
      state.settings.cancelWorkflow ∉ operation.registers?) :
    (Trace.final (perform host) state operations).Prompts ∧
      (Trace.final (perform host) state operations).settings = state.settings := by
  refine invariant_final contained sound controls
    (fun reached => reached.Prompts ∧ reached.settings = state.settings) ?_ ⟨prompts, rfl⟩
  rintro operation member before result sound passage ⟨prompts, settings⟩
  refine ⟨passage.prompts contained sound prompts ?_, ?_⟩
  · rw [settings]
    exact unreplaced operation member
  · exact (passage.lasts contained sound).settings.trans settings

end Engine

/-! ## What is rejected -/

/-- All keys are texts, and all values are of kinds that are accumulated. -/
def Payload.Storable (payload : Payload) : Prop :=
  ∀ entry ∈ payload, ∃ key, entry.1 = .text key ∧ entry.2.kind.isSupported = true

theorem ValueMap.putAll_isOk_iff (payload : Payload) (map : ValueMap) :
    (∃ written, putAll payload map = .ok () written) ↔ payload.Storable := by
  induction payload generalizing map with
  | nil => exact ⟨fun _ => nofun, fun _ => ⟨map, rfl⟩⟩
  | cons entry rest ih =>
      obtain ⟨key, value⟩ := entry
      simp only [Payload.Storable, List.forall_mem_cons, putAll, bind, EStateM.bind]
      cases key with
      | text name =>
          simp only [put, Value.text.injEq, exists_eq_left']
          cases supported : value.kind.isSupported with
          | true =>
              simp only [↓reduceIte, true_and]
              exact ih _
          | false => simp
      | _ => simp [put]

/-- An output amounts to values exactly if all its entries can be stored. -/
theorem ValueMap.ofValue_isOk_iff (payload : Payload) :
    (∃ values, ofValue (.dict payload) = .ok values) ↔ payload.Storable := by
  have merged : merge (.dict payload) empty = putAll payload empty := by
    cases payload <;> rfl
  rw [← putAll_isOk_iff payload empty, ofValue, built, merged]
  cases putAll payload empty <;> simp

/-- A verdict rejects an output with a message that can be passed on, or it accepts one that cannot
be stored. -/
def Verdict.Refuses (verdict : Verdict) (payload : Payload) : Prop :=
  (verdict.valid = false ∧ ∃ text, Engine.rejectionText verdict.error = .ok text) ∨
    verdict.valid = true ∧ ¬ payload.Storable

theorem Verdict.stage_of_refuses {verdict : Verdict} {payload : Payload}
    (refuses : verdict.Refuses payload) : ∃ error text,
      verdict.stage payload = .error error ∧ Engine.rejectionText error = .ok text := by
  rcases refuses with ⟨invalid, text, worded⟩ | ⟨valid, unstorable⟩
  · exact ⟨verdict.error, text, by simp [stage, invalid], worded⟩
  · rw [← ValueMap.ofValue_isOk_iff] at unstorable
    cases built : ValueMap.ofValue (.dict payload) with
    | ok values => exact absurd ⟨values, built⟩ unstorable
    | error fault => exact ⟨.text fault.message, fault.message, by simp [stage, valid, built], rfl⟩

/-- An operation completes the stage that the engine waits for with an output that can be read. -/
structure State.Hears (state : State) (operation : Operation) (place : Nat) (payload : Payload) :
    Prop where
  held : state.held = some place
  completed : state.completed operation = .ok place
  given : ∃ output, operation.output? = some output ∧ Payload.ofOutput output = .ok payload

/-- An operation completes the stage that is shown, or the stage under the handle of a number. -/
inductive Operation.Completes (place : Nat) (output : Value) : Operation → Prop where
  | shown : Completes place output (.complete output)
  | numbered : Completes place output (.finish place output)

/-- An engine that waits hears whatever completes the stage that it waits for. -/
theorem State.Waits.hears {state : State} {number place : Nat} {inst : Instance}
    {definition : Definition} {stage : Stage} {handle : Handle Watcher}
    (waits : state.Waits number inst definition stage place handle) {operation : Operation}
    {output : Value} (completes : operation.Completes place output) {payload : Payload}
    (read : Payload.ofOutput output = .ok payload) : state.Hears operation place payload := by
  have found : state.dispatcher.handle? place = some handle := waits.dispatched
  cases completes with
  | shown => exact ⟨waits.held, Engine.completed_waits waits output, output, rfl, read⟩
  | numbered =>
      refine ⟨waits.held, ?_, output, rfl, read⟩
      simp [State.completed, Position.offset?, State.open?, found, waits.incomplete]

/-- An operation completes a stage with an output that can be read, and nobody but the engine is
told. -/
structure State.Tells (state : State) (operation : Operation) (place : Nat) (payload : Payload) :
    Prop where
  completed : state.completed operation = .ok place
  subscribed : ∃ handle, state.dispatcher.handles[place]? = some handle ∧
    handle.listeners = [.controller]
  given : ∃ output, operation.output? = some output ∧ Payload.ofOutput output = .ok payload

namespace Engine

variable {host : Host} {state : State} {number : Nat} {inst : Instance} {definition : Definition}
  {stage : Stage}

/-- What is told to the engine only is handled by the engine, and nothing else follows. -/
theorem ending_tells {operation : Operation} {place : Nat} {payload : Payload}
    (tells : state.Tells operation place payload) :
    ending (perform host operation) state =
      ending (stageFinished host payload) (state.finishing place) := by
  obtain ⟨output, given, read⟩ := tells.given
  obtain ⟨handle, there, listeners⟩ := tells.subscribed
  cases perform_completing given with
  | refused refused ends => cases refused.symm.trans tells.completed
  | finished opened found unfinished ends =>
      cases opened.symm.trans tells.completed
      cases found.symm.trans there
      have delivered : Handle.deliver (fun _ payload => stageFinished host payload)
          [Watcher.controller] payload = stageFinished host payload := by
        simp only [Handle.deliver, bind_pure]
      rw [ends, finishHandle_ending found unfinished, read, listeners]
      simp only [delivered]

/-- What the engine waits for between two operations is told to nobody else. -/
theorem tells_of_hears (sound : state.Sound) {operation : Operation} {place : Nat}
    {payload : Payload} (hears : state.Hears operation place payload) :
    state.Tells operation place payload := by
  obtain ⟨output, given, read⟩ := hears.given
  cases @perform_completing (Programs.host {} 0) state operation output given with
  | refused refused ends => cases refused.symm.trans hears.completed
  | finished opened found unfinished ends =>
      cases opened.symm.trans hears.completed
      have listeners := sound.wired.listeners place _ found
      rw [if_pos hears.held] at listeners
      exact ⟨hears.completed, ⟨_, found, listeners⟩, output, given, read⟩

/-- What is heard is told to the engine, and to nobody else. -/
theorem ending_hears (sound : state.Sound) {operation : Operation} {place : Nat} {payload : Payload}
    (hears : state.Hears operation place payload) :
    ending (perform host operation) state =
      ending (stageFinished host payload) (state.finishing place) :=
  ending_tells (tells_of_hears sound hears)

/-- An operation completes the stage at which an instance stands, and its output is rejected: the
validator refuses it, or accepts what cannot be stored. -/
structure Rejects (host : Host) (state : State) (operation : Operation) (number : Nat)
    (inst : Instance) (definition : Definition) (stage : Stage) : Prop
    extends state.AtStage number inst definition stage where
  refused : ∃ place payload shown answer verdict reached,
    state.Hears operation place payload ∧
      consult host stage.validator number .validate (.output payload)
        (state.finishing place).detached = .ok (shown, answer) reached ∧
      Verdict.ofAnswer answer = .ok verdict ∧ verdict.Refuses shown.payload

/-- An output that is rejected puts the current instance aside for the prompt. -/
theorem Rejects.prompted (contained : host.Contained) (sound : state.Sound)
    {operation : Operation} (rejects : Rejects host state operation number inst definition stage) :
    ∃ place text events, state.held = some place ∧ Event.Quiet events ∧
      ending (perform host operation) state =
        ending startStage (((state.finishing place).detached.reporting events).diverted number inst
          ⟨state.settings.cancelWorkflow, some [(cancelErrorArgument, text)]⟩) := by
  obtain ⟨place, payload, shown, answer, verdict, reached, hears, consulted, said, refuses⟩ :=
    rejects.refused
  obtain ⟨error, text, staged, worded⟩ := Verdict.stage_of_refuses refuses
  obtain ⟨cancel, known⟩ := sound.cancel_known
  have stands : (state.finishing place).AtStage number inst definition stage :=
    ⟨⟨rejects.current, rejects.found, rejects.defined⟩, rejects.there⟩
  have judged : judge host number stage payload (state.finishing place).detached =
      .ok (shown.payload, .error error) reached := by
    refine judge_eq_ok_iff.mpr ⟨shown, answer, verdict, consulted, said, rfl, staged, ?_⟩
    rintro other same
    cases same
    exact writable_of_rejectionText worded
  obtain ⟨events, quiet, kept⟩ := judge_reporting contained
    (poised_finishing sound hears.held).toGrounded number stage payload
  rw [judged] at kept
  obtain ⟨rfl, -⟩ := kept
  let name := definition.stageName? inst.stage
  let after := (state.finishing place).detached.reporting events
  have current : after.current = some number := rejects.current
  have found : after.instances[number]? = some inst := rejects.found
  have asked : Registry.get after.registry after.settings.cancelWorkflow = .ok cancel := known
  have told := ending_bind_pure (reject number name error) (fun _ => shown.payload) after
  refine ⟨place, text, .rejected number name inst.stage error :: events, hears.held, quiet, ?_⟩
  rw [ending_hears sound hears, ending, stageFinished_apply stands, bind_apply, judged]
  refine told.trans ?_
  rw [ending, reject_apply (writable_of_rejectionText worded) current found asked, worded]
  rfl

/-- A validator that takes any output rejects what cannot be stored, with a text. -/
theorem judge_alwaysValid (host : Host) (plain : stage.validator = .alwaysValid)
    (payload : Payload) (state : State) : ∃ arguments, judge host number stage payload state =
      .ok (payload, (ValueMap.ofValue (.dict payload)).mapError fun fault => .text fault.message)
        (state.reporting [.consulted .alwaysValid (some (number, .validate)) arguments]) := by
  refine ⟨[.dict payload], judge_eq_ok_iff.mpr ⟨.output payload, ReadyHook.verdict true (.text ""),
    ⟨true, .text ""⟩, by rw [plain]; rfl, rfl, rfl, rfl, ?_⟩⟩
  cases ValueMap.ofValue (.dict payload) with
  | ok values => exact nofun
  | error fault =>
      rintro other same
      cases same
      rfl

theorem checkEquals_false_iff (map : ValueMap) (key : String) :
    map.checkEquals (.text key) (.bool false) = .ok true ↔ map.get? key = some (.bool false) := by
  simp only [ValueMap.checkEquals, ValueMap.find?, ValueMap.keyText?, Except.map, bind, Except.bind,
    Option.bind_some]
  cases map.get? key with
  | none => simp [pure, Except.pure]
  | some stored =>
      cases stored with
      | bool truth =>
          have equal : (Value.bool truth == .bool false) = !truth := by
            cases truth <;> simp [BEq.beq, Value.equal, Value.equalAtoms, Value.asInt?]
          simp [pure, Except.pure, Value.isA, Value.kind, equal]
      | _ => simp [pure, Except.pure, Value.isA, Value.kind]

/-- The acceptor of the prompt always answers.  It gives up what was put aside last exactly if the
values of the prompt say not to continue, and changes nothing else. -/
inductive Decided (state : State) (number asked : Nat) (inst : Instance)
    (rest : List (Option Nat)) (answered : State) : Prop where
  | declined (values : inst.values.get? state.settings.continueKey = some (.bool false))
      (aside : answered.suspended = rest)
      (departures :
        answered.departures = .abandoned asked :: .accepted number :: state.departures)
  | continued (values : inst.values.get? state.settings.continueKey ≠ some (.bool false))
      (aside : answered.suspended = some asked :: rest)
      (departures : answered.departures = .accepted number :: state.departures)

theorem concluded_decision (host : Host) (grounded : state.Grounded)
    (runs : state.Runs number inst definition) (decision : definition.acceptor = .cancelDecision)
    {asked : Nat} {rest : List (Option Nat)} (aside : state.suspended = some asked :: rest) :
    ∃ answered, Concluded host state number inst definition .null answered ∧
      answered.instances = (state.exiting number inst).instances ∧
      Decided state number asked inst rest answered := by
  have exiting := grounded.exiting number inst
  have inRange : number < (state.exiting number inst).instances.length :=
    exiting.current_lt number runs.current
  have found : (state.exiting number inst).instances[number]? =
      some { inst with state := .finished } := by
    simp [State.exiting, State.changing, State.reporting, runs.found]
  let asking := (state.exiting number inst).consulting .cancelDecision number .accept
    (.values number)
  have numbered : asking.Numbered := ⟨exiting.current_lt, exiting.suspended_lt⟩
  have lastAside : asking.suspended = some asked :: rest := aside
  have same : asking.Declines .cancelDecision (.values number) ↔
      inst.values.get? state.settings.continueKey = some (.bool false) := by
    rw [← checkEquals_false_iff]
    constructor
    · rintro ⟨-, -, other, values, equal, there, declined⟩
      cases equal
      cases found.symm.trans there
      exact declined
    · intro declined
      exact ⟨rfl, by rw [lastAside]; exact List.cons_ne_nil _ _, number, _, rfl, found, declined⟩
  have asks : consult host definition.acceptor number .accept (.values number)
      (state.exiting number inst) =
      (do return (.values number, ← decideCancel (.values number)) : Engine (Shown × Value))
        asking := by
    rw [decision, consult_apply host .cancelDecision number .accept (.values number) (by
      intro other same
      cases same
      exact inRange)]
    rfl
  rw [bind_apply] at asks
  rcases decideCancel_apply numbered found with
    ⟨keeps, decided⟩ | ⟨top, lost, below, declines, also, there, decided⟩
  · rw [decided] at asks
    have continues := fun values => keeps (same.mpr values)
    exact ⟨asking, ⟨runs, _, asks⟩, rfl, .continued continues lastAside rfl⟩
  · rw [decided] at asks
    cases lastAside.symm.trans also
    exact ⟨_, ⟨runs, _, asks⟩, rfl, .declined (same.mp declines) rfl rfl⟩

end Engine

end Workflow
