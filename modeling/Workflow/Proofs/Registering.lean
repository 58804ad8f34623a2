import Workflow.Proofs.Prompt

/-!
# Registering workflows

A registration is refused for a fault of its own, or it puts one definition into the registry, and
nothing else changes.  Since no definition is made without stages, none ever gets into a registry
that is filled by registering.
-/

namespace Workflow

/-- A registry into which definitions only get by being registered. -/
inductive Registry.Filled : Registry → Prop where
  | empty : Filled []
  | registered {registry altered : Registry} {registration : Registration} {definition : Definition}
      (filled : Filled registry)
      (accepted : registry.register registration = .ok (altered, definition)) : Filled altered

namespace Registry

theorem stageCount_define {registration : Registration} {definition : Definition}
    (defined : define registration = .ok definition) : 0 < definition.stageCount := by
  simp only [define] at defined
  split at defined
  · cases defined
  · split at defined
    · cases defined
    · next staged =>
      split at defined
      · cases defined
      · next matching =>
        cases defined
        have planned : 0 < (Plan.parse registration.plan).length :=
          List.length_pos_iff.mpr fun none => staged (by rw [none]; rfl)
        simp only [Definition.stageCount, List.length_zipWith]
        omega

theorem register_eq_ok {registry altered : Registry} {registration : Registration}
    {definition : Definition}
    (accepted : registry.register registration = .ok (altered, definition)) :
    define registration = .ok definition ∧
      altered = Entries.put registry definition.name definition := by
  rw [Engine.register_map] at accepted
  cases defined : define registration with
  | error fault => simp [defined, Except.map] at accepted
  | ok other =>
      simp only [defined, Except.map, Except.ok.injEq, Prod.mk.injEq] at accepted
      obtain ⟨rfl, rfl⟩ := accepted
      exact ⟨rfl, rfl⟩

/-- A workflow that is registered is found under the name of its registration. -/
theorem get_of_register {registry altered : Registry} {registration : Registration}
    {definition : Definition}
    (accepted : registry.register registration = .ok (altered, definition)) :
    get altered registration.name = .ok definition := by
  obtain ⟨defined, rfl⟩ := register_eq_ok accepted
  simp only [Engine.name_define defined, get, Entries.lookup_put_self]

/-- Every workflow of a filled registry has a stage. -/
theorem Filled.stageCount_pos {registry : Registry} (filled : registry.Filled) {name : String}
    {definition : Definition} (known : get registry name = .ok definition) :
    0 < definition.stageCount := by
  induction filled with
  | empty => cases known
  | @registered registry altered registration new filled accepted ih =>
      obtain ⟨defined, rfl⟩ := register_eq_ok accepted
      by_cases same : new.name = name
      · subst same
        simp only [get, Entries.lookup_put_self, Except.ok.injEq] at known
        exact known ▸ stageCount_define defined
      · rw [get, Entries.lookup_put_of_ne _ _ same] at known
        exact ih known

/-- The first stage of a workflow of a filled registry is there. -/
theorem Filled.first_stage {registry : Registry} (filled : registry.Filled) {name : String}
    {definition : Definition} (known : get registry name = .ok definition) :
    ∃ stage, definition.stage? 0 = some stage := by
  have staged := filled.stageCount_pos known
  cases there : definition.stage? 0 with
  | some stage => exact ⟨stage, rfl⟩
  | none =>
      have past := (definition.stage?_eq_none_iff (Int.le_refl 0)).mp there
      simp only [Definition.isCompleteAt, decide_eq_true_eq] at past
      omega

end Registry

/-- A fault of a registration, or a path of a hook that is none. -/
inductive Failure.OfRegistration : Failure → Prop where
  | configured (fault : ConfigurationFault) : OfRegistration (.configuration fault)
  | badCall : OfRegistration .badCall

theorem HookModule.ofRegistration_importHook {modules : List HookModule} {path : String}
    {failure : Failure} (failed : importHook modules path = .error failure) :
    failure.OfRegistration := by
  simp only [importHook] at failed
  split at failed
  · cases failed
    exact .configured _
  · split at failed
    · cases failed
      exact .badCall
    · split at failed
      · cases failed
        exact .configured _
      · cases failed
        exact .configured _
      · split at failed
        · cases failed
          exact .configured _
        · cases failed
          exact .configured _
        · cases failed

namespace Engine

variable {α β : Type} {host : Host} {state : State} {cause : Failure → Prop}

/-- Whatever a step fails with is of a kind. -/
def FailsOnly (cause : Failure → Prop) (step : Engine α) : Prop :=
  ∀ state failure, (ending step state).1 = some failure → cause failure

theorem failsOnly_of_ok {step : Engine α} {answer : State → α} {reached : State → State}
    (succeeds : ∀ state, step state = .ok (answer state) (reached state)) :
    FailsOnly cause step := by
  intro state failure failed
  rw [ending, succeeds] at failed
  cases failed

theorem failsOnly_pure (answer : α) : FailsOnly cause (pure answer : Engine α) :=
  failsOnly_of_ok fun _ => rfl

theorem failsOnly_lift {answer : Except Failure α}
    (fails : ∀ failure, answer = .error failure → cause failure) :
    FailsOnly cause (lift answer) := by
  intro state failure failed
  cases answer with
  | ok answer => cases failed
  | error other =>
      cases failed
      exact fails failure rfl

theorem FailsOnly.bind {step : Engine α} {next : α → Engine β} (first : FailsOnly cause step)
    (further : ∀ answer, FailsOnly cause (next answer)) : FailsOnly cause (step >>= next) := by
  intro state failure failed
  simp only [ending, bind_apply] at failed
  cases reached : step state with
  | error other after =>
      rw [reached] at failed
      cases failed
      exact first state failure (by rw [ending, reached])
  | ok answer after =>
      rw [reached] at failed
      exact further answer after failure failed

theorem failsOnly_hookOf (host : Host) (source : HookSource) :
    FailsOnly Failure.OfRegistration (hookOf host source) := by
  cases source with
  | default => exact failsOnly_pure none
  | path path =>
      have imported : FailsOnly Failure.OfRegistration
          (lift (HookModule.importHook host.modules path)) :=
        failsOnly_lift fun failure failed => HookModule.ofRegistration_importHook failed
      exact imported.bind fun hook => failsOnly_pure (some hook)
  | custom program role name => exact failsOnly_of_ok fun _ => rfl

theorem failsOnly_hooksOf (host : Host) (sources : List HookSource) :
    FailsOnly Failure.OfRegistration (hooksOf host sources) := by
  induction sources with
  | nil => exact failsOnly_pure []
  | cons source rest ih =>
      exact (failsOnly_hookOf host source).bind fun hook => ih.bind fun hooks => failsOnly_pure _

theorem register_error {registration : Registration} {failure : Failure} {reached : State}
    (refused : register registration state = .error failure reached) :
    failure.OfRegistration ∧ reached.registry = state.registry := by
  cases defined : Registry.define registration with
  | error fault =>
      by_cases named : registration.name = ""
      · simp [register, bind_apply, named, register_map, defined, Except.map] at refused
        obtain ⟨rfl, rfl⟩ := refused
        exact ⟨.configured fault, rfl⟩
      · simp [register, bind_apply, named, register_map, defined, Except.map] at refused
        obtain ⟨rfl, rfl⟩ := refused
        exact ⟨.configured fault, rfl⟩
  | ok other =>
      by_cases named : registration.name = ""
      · simp [Registry.define, named] at defined
      · by_cases replacing : Entries.has state.registry other.name = true <;>
          simp [register, bind_apply, map_apply, named, register_map, defined, Except.map,
            replacing] at refused

/-- A step leaves the registry as it is, or registers a workflow with the given plan. -/
def Enters (plan : String) (step : Engine α) : Prop :=
  ∀ state : State, (ending step state).2.registry = state.registry ∨
    ∃ registration definition, registration.plan = plan ∧
      state.registry.register registration = .ok ((ending step state).2.registry, definition)

theorem Stamps.enters {plan : String} {step : Engine α} {next : α → Engine β}
    (stamps : Stamps step) (further : ∀ answer, Enters plan (next answer)) :
    Enters plan (step >>= next) := by
  intro state
  rcases stamps.ending_bind next state with ⟨failure, stamp, ends⟩ | ⟨answer, stamp, ends⟩
  · rw [ends]
    exact .inl rfl
  · rw [ends]
    exact further answer { state with stamp }

theorem enters_register (registration : Registration) :
    Enters registration.plan (register registration) := by
  intro state
  rw [ending]
  cases registered : register registration state with
  | error failure reached => exact .inl (register_error registered).2
  | ok definition reached =>
      obtain ⟨defined, -, put⟩ := register_ok registered
      refine .inr ⟨registration, definition, rfl, ?_⟩
      rw [register_map, defined, put]
      rfl

theorem enters_registerRequested (host : Host) (request : RegistrationRequest) :
    Enters request.plan (registerRequested host request) :=
  (stamps_hookOf host _).enters fun acceptor =>
    (stamps_hookOf host _).enters fun redirector =>
      (stamps_hooksOf host _).enters fun validators =>
        enters_register ⟨request.name, request.plan, acceptor, redirector, validators⟩

/-- A step leaves the registry as it is, unless a workflow is registered. -/
def FillsRegistry (step : Engine α) : Prop :=
  ∀ state : State, state.registry.Filled → (ending step state).2.registry.Filled

theorem Enters.fillsRegistry {plan : String} {step : Engine α} (enters : Enters plan step) :
    FillsRegistry step := by
  intro state filled
  rcases enters state with same | ⟨registration, definition, -, accepted⟩
  · exact same ▸ filled
  · exact .registered filled accepted

theorem fillsRegistry_register (registration : Registration) :
    FillsRegistry (register registration) :=
  (enters_register registration).fillsRegistry

/-- A registration fails only for faults of its own. -/
theorem failsOnly_registerRequested (host : Host) (request : RegistrationRequest) :
    FailsOnly Failure.OfRegistration (registerRequested host request) := by
  refine (failsOnly_hookOf host _).bind fun acceptor =>
    (failsOnly_hookOf host _).bind fun redirector =>
      (failsOnly_hooksOf host _).bind fun validators => ?_
  intro state failure failed
  rw [ending] at failed
  cases registered : register _ state with
  | ok definition reached =>
      rw [registered] at failed
      cases failed
  | error other reached =>
      rw [registered] at failed
      cases failed
      exact (register_error registered).1

/-- The registry stays as it is under operations that register nothing. -/
theorem Passage.registry_eq (contained : host.Contained) {operation : Operation}
    {result : Option Failure × State} (passage : Passage host state operation result)
    (sound : state.Sound) (registers : operation.registers? = none) :
    result.2.registry = state.registry := by
  cases passage with
  | refused refusal => rfl
  | registered quiet kept => cases registers
  | invoked admitted started =>
      have registry := started_registry started
      exact registry
  | stranded admitted => rfl
  | unheard completed unheld => rfl
  | completed completed held completion =>
      exact completion.registry contained (poised_finishing sound held)

/-- Performing a registration leaves the registry as it is, or registers a workflow with its
plan. -/
theorem enters_perform (host : Host) (request : RegistrationRequest) :
    Enters request.plan (perform host (.register request)) := by
  intro state
  have same : ending (perform host (.register request)) state =
      ending (registerRequested host request) state :=
    ending_bind_pure (registerRequested host request) Answer.definition state
  rw [same]
  exact enters_registerRequested host request state

/-- A registry stays filled whatever becomes of an operation. -/
theorem take_filled (contained : host.Contained) (sound : state.Sound) {operation : Operation}
    (controls : operation.controls = true) (filled : state.registry.Filled) :
    (Trace.take (perform host) state operation).after.registry.Filled := by
  cases operation with
  | register request =>
      rw [after_take]
      exact (enters_perform host request).fillsRegistry state filled
  | _ =>
      rw [(take_passage contained sound controls).registry_eq contained sound rfl]
      exact filled

theorem filled_final (contained : host.Contained) (sound : state.Sound)
    {operations : List Operation}
    (controls : ∀ operation ∈ operations, operation.controls = true)
    (filled : state.registry.Filled) :
    (Trace.final (perform host) state operations).registry.Filled := by
  induction operations generalizing state with
  | nil => exact filled
  | cons operation rest ih =>
      have control := controls operation List.mem_cons_self
      have passage := take_passage contained sound control
      apply ih (passage.sound contained sound)
      · intro later member
        exact controls later (List.mem_cons_of_mem _ member)
      · exact take_filled contained sound control filled

end Engine

theorem Detour.filled_start : start.registry.Filled :=
  Engine.fillsRegistry_register
    { name := "__CancelRequest"
      plan := ({} : ControllerSettings).cancelContent
      acceptor := some .cancelDecision } {} .empty

end Workflow
