import Workflow.Console.Session
import Workflow.Proofs.Absence

/-!
# Opening a session

Before a session invokes a workflow it registers those of a document and the built-in one.  Nothing
else happens meanwhile, so the engine is idle when the workflow is invoked, and every workflow that
it knows has a stage.
-/

namespace Workflow

/-- Nothing was done with an engine but to register workflows. -/
structure State.Untouched (state : State) : Prop where
  filled : state.registry.Filled
  bare : ∃ settings registry backend stamp journal,
    state = { settings, registry, dispatcher := { backend }, stamp, journal }

namespace State.Untouched

variable {state : State}

theorem idle (untouched : state.Untouched) : state.Idle := by
  obtain ⟨settings, registry, backend, stamp, journal, rfl⟩ := untouched.bare
  exact ⟨rfl, rfl, rfl, rfl⟩

theorem wellFormed (untouched : state.Untouched) {definition : Definition}
    (known : Registry.get state.registry state.settings.cancelWorkflow = .ok definition) :
    state.WellFormed := by
  have idle := untouched.idle
  obtain ⟨settings, registry, backend, stamp, journal, rfl⟩ := untouched.bare
  exact {
    current_lt := nofun
    suspended_lt := nofun
    known := nofun
    counted := nofun
    cancel_known := ⟨definition, known⟩
    remembers := rfl
    wired := ⟨nofun, nofun, nofun⟩
    runs_held := nofun
    apart_held := nofun
    nodup := List.nodup_nil
    resumable := nofun
    standing := .inl idle }

end State.Untouched

section Untouching

variable {ε α β : Type}

/-- A step that does no more than to register workflows. -/
def Untouching (step : EStateM ε State α) : Prop :=
  ∀ state : State, state.Untouched → (Trace.outcomeOf step state).2.Untouched

theorem Untouching.of_ok {step : EStateM ε State α} (untouching : Untouching step) {state : State}
    (untouched : state.Untouched) {answer : α} {reached : State}
    (ran : step state = .ok answer reached) : reached.Untouched := by
  have kept := untouching state untouched
  rw [Trace.outcomeOf, ran] at kept
  exact kept

theorem untouching_pure (answer : α) : Untouching (pure answer : EStateM ε State α) :=
  fun _ untouched => untouched

theorem untouching_throw (failure : ε) : Untouching (throw failure : EStateM ε State α) :=
  fun _ untouched => untouched

theorem Untouching.bind {step : EStateM ε State α} {next : α → EStateM ε State β}
    (first : Untouching step) (further : ∀ answer, Untouching (next answer)) :
    Untouching (step >>= next) := by
  intro state untouched
  have kept := first state untouched
  simp only [Trace.outcomeOf, Bind.bind, EStateM.bind] at kept ⊢
  cases reached : step state with
  | error failure after =>
      rw [reached] at kept
      exact kept
  | ok answer after =>
      rw [reached] at kept
      exact further answer after kept

theorem Untouching.ite {condition : Prop} [Decidable condition] {step other : EStateM ε State α}
    (first : Untouching step) (also : Untouching other) :
    Untouching (if condition then step else other) := by
  split
  · exact first
  · exact also

end Untouching

namespace Engine

theorem untouching_lift {α : Type} (answer : Except Failure α) : Untouching (lift answer) := by
  cases answer with
  | ok answer => exact untouching_pure answer
  | error failure => exact untouching_throw failure

theorem untouching_note (event : Event) : Untouching (note event) := by
  intro state untouched
  obtain ⟨settings, registry, backend, stamp, journal, bare⟩ := untouched.bare
  refine ⟨untouched.filled, settings, registry, backend, stamp, event :: journal, ?_⟩
  rw [bare]
  rfl

theorem untouching_register (registration : Registration) :
    Untouching (register registration) := by
  intro state untouched
  have same : (Trace.outcomeOf (register registration) state).2 =
      (ending (register registration) state).2 := by
    simp only [Trace.outcomeOf, ending]
    cases register registration state <;> rfl
  obtain ⟨registry, stamp, events, -, -, registered⟩ := registers_register registration state
  obtain ⟨settings, before, backend, earlier, journal, bare⟩ := untouched.bare
  rw [same]
  refine ⟨fillsRegistry_register registration state untouched.filled, settings, registry, backend,
    stamp, events ++ journal, ?_⟩
  rw [registered, bare]
  rfl

theorem untouching_registerDeclared (host : Host) (declared : List DeclaredWorkflow) :
    Untouching (registerDeclared host declared) := by
  induction declared with
  | nil => exact untouching_pure ()
  | cons first rest ih =>
      exact (untouching_lift _).bind fun registration =>
        (untouching_register registration).bind fun _ => ih

theorem untouching_load (host : Host) (document : Value) (path : String) :
    Untouching (load host document path) :=
  (untouching_lift _).bind fun declared =>
    (untouching_registerDeclared host declared).bind fun _ => untouching_note _

/-- An engine that is built over what was registered knows the built-in workflow. -/
theorem wellFormed_initial {settings : ControllerSettings} {content : Option String}
    {state reached : State} (untouched : state.Untouched)
    (built : initial settings content state = .ok () reached) :
    reached.Untouched ∧ reached.WellFormed := by
  simp only [initial, bind_apply, modify_apply] at built
  let registration : Registration :=
    { name := settings.cancelWorkflow
      plan := (Text.given? content).getD settings.cancelContent
      acceptor := some .cancelDecision }
  have set : ({ state with settings } : State).Untouched := by
    obtain ⟨before, registry, backend, stamp, journal, bare⟩ := untouched.bare
    exact ⟨untouched.filled, settings, registry, backend, stamp, journal, by rw [bare]⟩
  have kept := untouching_register registration { state with settings } set
  obtain ⟨registry, stamp, events, -, put, registered⟩ :=
    registers_register registration { state with settings }
  simp only [Trace.outcomeOf, ending] at kept put registered
  cases result : register registration { state with settings } with
  | error failure after =>
      rw [result] at built
      cases built
  | ok answer after =>
      rw [result] at built kept put registered
      cases built
      rcases put with ⟨failed, -⟩ | ⟨definition, rfl⟩
      · exact absurd rfl failed
      · simp only at registered kept
        have known : Registry.get reached.registry reached.settings.cancelWorkflow =
            .ok definition := by
          rw [registered]
          simp [State.registering, Registry.get, registration]
        exact ⟨kept, kept.wellFormed known⟩

end Engine

namespace Console

variable {programs : Programs} {workspace : Workspace} {asked : Option String}

theorem reporting_apply {α : Type} (introduction : String) (step : Engine α) (state : State) :
    (∃ answer reached, step state = .ok answer reached ∧
        reporting introduction step state = .ok answer reached) ∨
      ∃ failure reached stop, step state = .error failure reached ∧
        reporting introduction step state = .error stop reached := by
  cases ran : step state with
  | ok answer reached => exact .inl ⟨answer, reached, rfl, by rw [reporting, ran]⟩
  | error failure reached =>
      cases reported : failure.isReported with
      | true =>
          exact .inr ⟨failure, reached, .refused (introduction ++ failure.message), rfl, by
            simp only [reporting, ran, reported, ↓reduceIte]⟩
      | false =>
          exact .inr ⟨failure, reached, .failed failure, rfl, by
            simp only [reporting, ran, reported, Bool.false_eq_true, ↓reduceIte]⟩

theorem untouching_reporting {α : Type} (introduction : String) {step : Engine α}
    (untouching : Untouching step) : Untouching (reporting introduction step) := by
  intro state untouched
  have kept := untouching state untouched
  rcases reporting_apply introduction step state with
    ⟨answer, reached, ran, reported⟩ | ⟨failure, reached, stop, ran, reported⟩
  · simp only [Trace.outcomeOf, ran, reported] at kept ⊢
    exact kept
  · simp only [Trace.outcomeOf, ran, reported] at kept ⊢
    exact kept

theorem untouching_demand {α : Type} (answer : Except Failure α) : Untouching (demand answer) := by
  cases answer with
  | ok answer => exact untouching_pure answer
  | error failure => exact untouching_throw _

theorem untouching_registryPath (workspace : Workspace) (asked : Option String) :
    Untouching (registryPath workspace asked) := by
  cases asked with
  | some path => exact untouching_pure _
  | none =>
      refine (untouching_demand _).bind fun settings => ?_
      cases Text.given? settings.registryFile with
      | some path => exact untouching_pure path
      | none => exact untouching_throw _

/-- Opening the registry does no more than to register what the document declares. -/
theorem untouching_openRegistry (programs : Programs) (workspace : Workspace)
    (asked : Option String) : Untouching (openRegistry programs workspace asked) := by
  refine (untouching_registryPath workspace asked).bind fun path => ?_
  have read : Untouching (do
      let document ← demand (workspace.read path)
      reporting "Invalid registry: " (Engine.load (programs.host 0) document path)) :=
    (untouching_demand _).bind fun document =>
      untouching_reporting _ (Engine.untouching_load _ document path)
  have found : Untouching (do
      unless workspace.contains (Path.normal path) do
        throw (.refused ("Registry file not found: " ++ path))
      let document ← demand (workspace.read path)
      reporting "Invalid registry: " (Engine.load (programs.host 0) document path)) :=
    Untouching.ite ((untouching_pure ()).bind fun _ => read)
      ((untouching_throw _).bind fun _ => read)
  exact Untouching.ite ((untouching_throw _).bind fun _ => found) found

/-- Registers the workflows of the registry document, and the built-in one. -/
def build (programs : Programs) (workspace : Workspace) (settings : Settings)
    (asked : Option String) : Attempt Unit := do
  openRegistry programs workspace asked
  reporting "Error: " (Engine.initial settings.controller none)

/-- The engine of a session before anything is registered. -/
def blank : State :=
  { dispatcher := { backend := .console } }

theorem untouched_blank : blank.Untouched :=
  ⟨.empty, {}, [], .console, 0, [], rfl⟩

/-- The request to run a workflow gets as far as to the invocation: the settings can be read, the
level of the log is one, and the registry document is accepted. -/
def Prepares (programs : Programs) (workspace : Workspace) (registry logLevel : Option String)
    (level : LogLevel) (start : State) : Prop :=
  ∃ settings, workspace.settings none = .ok settings ∧
    LogLevel.ofName? (capitals ((Text.given? logLevel).getD settings.logLevel)) = some level ∧
    build programs workspace settings registry blank = .ok () start

namespace Prepares

variable {registry logLevel : Option String} {level : LogLevel} {start : State}
  (prepares : Prepares programs workspace registry logLevel level start)
include prepares

/-- Whatever a document registers, the engine is ready when the workflow is invoked. -/
theorem ready : start.Untouched ∧ start.WellFormed := by
  obtain ⟨settings, -, -, built⟩ := prepares
  cases opened : openRegistry programs workspace registry blank with
  | error stop reached =>
      simp only [build, Bind.bind, EStateM.bind, opened] at built
      cases built
  | ok done reached =>
      have untouched :=
        (untouching_openRegistry programs workspace registry).of_ok untouched_blank opened
      simp only [build, Bind.bind, EStateM.bind, opened] at built
      rcases reporting_apply "Error: " (Engine.initial settings.controller none) reached with
        ⟨answer, after, ran, reported⟩ | ⟨failure, after, stop, -, reported⟩
      · cases reported.symm.trans built
        exact Engine.wellFormed_initial untouched ran
      · cases reported.symm.trans built

end Prepares

end Console

end Workflow
