import Workflow.Hook.Modules
import Workflow.Proofs.Admission
import Workflow.Proofs.Traversal

/-!
# Loading a registry document

What a document declares is registered in its order, each workflow with the hooks that its paths
name, until a hook cannot be imported or a registration is refused.  What was registered before
stays, and what is declared behind is not looked at.  A document that is none leaves everything as
it is.
-/

namespace Workflow

namespace DeclaredWorkflow

/-- The paths of the hooks, in the order in which they are imported. -/
def paths (declared : DeclaredWorkflow) : List (Option String) :=
  declared.acceptor :: declared.redirector :: declared.validators

/-- What a declaration asks for: a workflow of its name and its plan, with the hook that each of its
paths names. -/
structure Asks (host : Host) (declared : DeclaredWorkflow) (registration : Registration) :
    Prop where
  name : registration.name = declared.name
  plan : registration.plan = declared.plan
  imported : List.Forall₂ (fun path hook => Engine.importDeclared host path = .ok hook)
    declared.paths (registration.acceptor :: registration.redirector :: registration.validators)

/-- The first path that names nothing to be imported, and why. -/
def Misnames (host : Host) (declared : DeclaredWorkflow) (failure : Failure) : Prop :=
  Traversal.Stops (fun path => ∃ hook, Engine.importDeclared host path = .ok hook)
    (fun path => Engine.importDeclared host path = .error failure) declared.paths

/-- A declaration fails because of a path that names nothing, or because the registration that it
asks for is refused. -/
inductive Fails (host : Host) (declared : DeclaredWorkflow) (reached : State) :
    Failure → State → Prop where
  | unimported {failure : Failure} (misnames : declared.Misnames host failure) :
      Fails host declared reached failure reached
  | refused {registration : Registration} {failure : Failure} {after : State}
      (asks : declared.Asks host registration)
      (refused : Engine.register registration reached = .error failure after) :
      Fails host declared reached failure after

end DeclaredWorkflow

namespace Engine

variable {host : Host} {state reached : State} {declared : DeclaredWorkflow}
variable {earlier later : List DeclaredWorkflow} {registrations : List Registration}
variable {registration : Registration} {definition : Definition} {definitions : List Definition}
variable {failure : Failure}

/-! ## One declaration -/

theorem registrationOf_eq_ok_iff :
    registrationOf host declared = .ok registration ↔ declared.Asks host registration := by
  have imported : declared.Asks host registration ↔
      registration.name = declared.name ∧ registration.plan = declared.plan ∧
        importDeclared host declared.acceptor = .ok registration.acceptor ∧
        importDeclared host declared.redirector = .ok registration.redirector ∧
        declared.validators.mapM (importDeclared host) = .ok registration.validators := by
    rw [Traversal.mapM_eq_ok_iff]
    constructor
    · rintro ⟨name, plan, imported⟩
      cases imported with
      | cons acceptor others =>
          cases others with
          | cons redirector validators => exact ⟨name, plan, acceptor, redirector, validators⟩
    · rintro ⟨name, plan, acceptor, redirector, validators⟩
      exact ⟨name, plan, .cons acceptor (.cons redirector validators)⟩
  obtain ⟨name, plan, acceptor, redirector, validators⟩ := registration
  rw [imported, registrationOf]
  cases importDeclared host declared.acceptor with
  | error other => simp [bind, Except.bind]
  | ok hook =>
      cases importDeclared host declared.redirector with
      | error other => simp [bind, Except.bind]
      | ok further =>
          cases declared.validators.mapM (importDeclared host) with
          | error other => simp [bind, Except.bind]
          | ok hooks => simp [bind, Except.bind, pure, Except.pure, eq_comm]

theorem registrationOf_eq_error_iff :
    registrationOf host declared = .error failure ↔ declared.Misnames host failure := by
  rw [DeclaredWorkflow.Misnames, DeclaredWorkflow.paths, Traversal.stops_cons_iff,
    Traversal.stops_cons_iff, ← Traversal.mapM_eq_error_iff, registrationOf]
  cases importDeclared host declared.acceptor with
  | error other => simp [bind, Except.bind]
  | ok acceptor =>
      cases importDeclared host declared.redirector with
      | error other => simp [bind, Except.bind]
      | ok redirector =>
          cases declared.validators.mapM (importDeclared host) <;>
            simp [bind, Except.bind, pure, Except.pure]

theorem registerDeclared_of_asks (asks : declared.Asks host registration)
    (registered : register registration state = .ok definition reached)
    (rest : List DeclaredWorkflow) :
    registerDeclared host (declared :: rest) state = registerDeclared host rest reached := by
  simp only [registerDeclared, registrationOf_eq_ok_iff.mpr asks, bind_apply, lift_ok, registered]

/-- Nothing that is declared behind a declaration that fails is looked at. -/
theorem registerDeclared_of_fails (fails : declared.Fails host state failure reached)
    (rest : List DeclaredWorkflow) :
    registerDeclared host (declared :: rest) state = .error failure reached := by
  cases fails with
  | unimported misnames =>
      simp only [registerDeclared, registrationOf_eq_error_iff.mpr misnames, bind_apply, lift_error]
  | refused asks refused =>
      simp only [registerDeclared, registrationOf_eq_ok_iff.mpr asks, bind_apply, lift_ok, refused]

theorem registry_of_fails (fails : declared.Fails host state failure reached) :
    reached.registry = state.registry := by
  cases fails with
  | unimported misnames => rfl
  | refused asks refused => exact (register_error refused).2

/-! ## Registrations one after the other -/

/-- All registrations of a list are accepted, and return these definitions. -/
def Accepted (state : State) (registrations : List Registration)
    (definitions : List Definition) : Prop :=
  (Trace.run register state registrations).map (·.outcome) = definitions.map .ok

theorem final_cons (registered : register registration state = .ok definition reached)
    (rest : List Registration) :
    Trace.final register state (registration :: rest) = Trace.final register reached rest := by
  rw [Trace.final, List.foldl_cons, take_register registered]
  rfl

theorem accepted_cons (registered : register registration state = .ok definition reached)
    (accepted : Accepted reached registrations definitions) :
    Accepted state (registration :: registrations) (definition :: definitions) := by
  rw [Accepted, Trace.run, take_register registered, List.map_cons, List.map_cons]
  exact congrArg (.ok definition :: ·) accepted

/-- The first of the registrations is accepted, and then the others are. -/
theorem exists_of_accepted_cons (accepted : Accepted state (registration :: registrations)
    definitions) :
    ∃ definition others reached, definitions = definition :: others ∧
      register registration state = .ok definition reached ∧
      Accepted reached registrations others := by
  cases definitions with
  | nil => cases accepted
  | cons definition others =>
      cases registered : register registration state with
      | error failure reached =>
          simp [Accepted, Trace.run, Trace.take, Trace.outcomeOf, registered] at accepted
      | ok answer reached =>
          rw [Accepted, Trace.run, take_register registered, List.map_cons, List.map_cons,
            List.cons.injEq, Except.ok.injEq] at accepted
          obtain ⟨rfl, rest⟩ := accepted
          exact ⟨answer, others, reached, rfl, rfl, rest⟩

theorem answers_of_accepted (accepted : Accepted state registrations definitions) :
    List.Forall₂ Definition.Answers definitions registrations := by
  induction registrations generalizing state definitions with
  | nil =>
      cases definitions with
      | nil => exact .nil
      | cons definition others => cases accepted
  | cons registration rest ih =>
      obtain ⟨definition, others, reached, rfl, registered, further⟩ :=
        exists_of_accepted_cons accepted
      exact .cons (Registry.answers_of_define (register_ok registered).1) (ih further)

/-- Every definition is written under its name, one after the other. -/
theorem registry_of_accepted (accepted : Accepted state registrations definitions) :
    (Trace.final register state registrations).registry =
      Entries.putAll state.registry
        (definitions.map fun definition => (definition.name, definition)) := by
  induction registrations generalizing state definitions with
  | nil =>
      cases definitions with
      | nil => rfl
      | cons definition others => cases accepted
  | cons registration rest ih =>
      obtain ⟨definition, others, reached, rfl, registered, further⟩ :=
        exists_of_accepted_cons accepted
      rw [final_cons registered, ih further, (register_ok registered).2.2]
      rfl

/-- The value under a name is the definition of that name that was registered last, or else the one
that was there. -/
theorem lookup_of_accepted (accepted : Accepted state registrations definitions) (name : String) :
    Entries.lookup (Trace.final register state registrations).registry name =
      (definitions.reverse.find? fun definition => definition.name == name).or
        (Entries.lookup state.registry name) := by
  rw [registry_of_accepted accepted, Entries.lookup_putAll]
  congr 1
  simp [Entries.lookup, ← List.map_reverse, List.find?_map, Function.comp_def]

/-- Names that are there keep their places, and new ones stand behind them. -/
theorem names_of_accepted (accepted : Accepted state registrations definitions) :
    (Trace.final register state registrations).registry.names =
      state.registry.names ++
        ((definitions.map (·.name)).removeAll state.registry.names).eraseDups := by
  have named : Entries.keys (definitions.map fun definition => (definition.name, definition)) =
      definitions.map (·.name) := by
    rw [Entries.keys, List.map_map]
    rfl
  rw [Registry.names, registry_of_accepted accepted, Entries.keys_putAll, named]
  rfl

/-! ## Declarations one after the other -/

theorem registerDeclared_append
    (asks : List.Forall₂ (DeclaredWorkflow.Asks host) earlier registrations)
    (accepted : Accepted state registrations definitions) (later : List DeclaredWorkflow) :
    registerDeclared host (earlier ++ later) state =
      registerDeclared host later (Trace.final register state registrations) := by
  induction asks generalizing state definitions with
  | nil => rfl
  | cons first others ih =>
      obtain ⟨definition, further, reached, rfl, registered, rest⟩ :=
        exists_of_accepted_cons accepted
      rw [List.cons_append, registerDeclared_of_asks first registered, final_cons registered]
      exact ih rest

/-- Declarations can be registered up to the first that fails. -/
theorem exists_accepted (host : Host) (state : State) (declared : List DeclaredWorkflow) :
    ∃ earlier later registrations definitions, declared = earlier ++ later ∧
      List.Forall₂ (DeclaredWorkflow.Asks host) earlier registrations ∧
      Accepted state registrations definitions ∧
      (later = [] ∨ ∃ entry rest failure after, later = entry :: rest ∧
        entry.Fails host (Trace.final register state registrations) failure after) := by
  induction declared generalizing state with
  | nil => exact ⟨[], [], [], [], rfl, .nil, rfl, .inl rfl⟩
  | cons entry rest ih =>
      cases read : registrationOf host entry with
      | error failure =>
          have misnames := registrationOf_eq_error_iff.mp read
          exact ⟨[], entry :: rest, [], [], rfl, .nil, rfl,
            .inr ⟨entry, rest, failure, state, rfl, .unimported misnames⟩⟩
      | ok registration =>
          have asks := registrationOf_eq_ok_iff.mp read
          cases registered : register registration state with
          | error failure after =>
              exact ⟨[], entry :: rest, [], [], rfl, .nil, rfl,
                .inr ⟨entry, rest, failure, after, rfl, .refused asks registered⟩⟩
          | ok definition reached =>
              obtain ⟨earlier, later, registrations, definitions, rfl, others, accepted, ending⟩ :=
                ih reached
              refine ⟨entry :: earlier, later, registration :: registrations,
                definition :: definitions, rfl, .cons asks others,
                accepted_cons registered accepted, ?_⟩
              rw [final_cons registered]
              exact ending

/-! ## Documents -/

theorem load_of_invalid {document : Value} {problems : List Problem}
    (invalid : DeclaredWorkflow.ofDocument document = .error problems) (path : String) :
    load host document path state = .error (.invalid problems) state := by
  simp only [load, invalid, bind_apply, mapError_error, lift_error]

theorem load_of_valid {document : Value} {workflows : List DeclaredWorkflow}
    (valid : DeclaredWorkflow.ofDocument document = .ok workflows) (path : String) :
    load host document path state =
      (do
        registerDeclared host workflows
        note (.loaded workflows.length path)) state := by
  simp only [load, valid, bind_apply, mapError_ok, lift_ok]

/-- Loading fails with the first declaration that fails, in the state to which it leads. -/
theorem outcomeOf_load_of_fails {document : Value} {entry : DeclaredWorkflow}
    {rest : List DeclaredWorkflow} {after : State}
    (asks : List.Forall₂ (DeclaredWorkflow.Asks host) earlier registrations)
    (accepted : Accepted state registrations definitions)
    (fails : entry.Fails host (Trace.final register state registrations) failure after)
    (valid : DeclaredWorkflow.ofDocument document = .ok (earlier ++ entry :: rest))
    (path : String) :
    Trace.outcomeOf (load host document path) state = (.error failure, after) := by
  have stopped := registerDeclared_append asks accepted (entry :: rest)
  rw [registerDeclared_of_fails fails] at stopped
  rw [Trace.outcomeOf, load_of_valid valid, bind_apply, stopped]

/-- A document of which nothing fails is loaded with all its registrations. -/
theorem outcomeOf_load_of_accepted {document : Value}
    (asks : List.Forall₂ (DeclaredWorkflow.Asks host) earlier registrations)
    (accepted : Accepted state registrations definitions)
    (valid : DeclaredWorkflow.ofDocument document = .ok earlier) (path : String) :
    Trace.outcomeOf (load host document path) state =
      (.ok (), (Trace.final register state registrations).reporting
        [.loaded earlier.length path]) := by
  have done := registerDeclared_append asks accepted []
  rw [List.append_nil] at done
  simp only [Trace.outcomeOf, load_of_valid valid, bind_apply, done]
  rfl

/-- The names of the definitions of declarations are those that the declarations give. -/
theorem names_of_answers (asks : List.Forall₂ (DeclaredWorkflow.Asks host) earlier registrations)
    (answers : List.Forall₂ Definition.Answers definitions registrations) :
    definitions.map (·.name) = earlier.map (·.name) := by
  induction asks generalizing definitions with
  | nil =>
      cases answers
      rfl
  | cons first others ih =>
      cases answers with
      | cons here behind => rw [List.map_cons, List.map_cons, ih behind, here.name, first.name]

/-- Loading a document that declares no workflows as it should leaves everything as it is.  Any
other document is loaded by registering what it declares in the order of the declarations, each with
the hooks that are imported for it, up to the first of which a hook cannot be imported or whose
registration is refused.  This failure is the one that loading ends with, whatever is declared
behind.  The names that are new are added in the order in which they first come up, and under each
name is the last workflow that was registered with it. -/
theorem load_registers (host : Host) (state : State) (document : Value) (path : String) :
    (∀ problems, DeclaredWorkflow.ofDocument document = .error problems →
      load host document path state = .error (.invalid problems) state) ∧
    ∀ workflows, DeclaredWorkflow.ofDocument document = .ok workflows →
      ∃ earlier later registrations definitions, workflows = earlier ++ later ∧
        List.Forall₂ (DeclaredWorkflow.Asks host) earlier registrations ∧
        Accepted state registrations definitions ∧
        List.Forall₂ Definition.Answers definitions registrations ∧
        let reached := Trace.final register state registrations
        let loaded := Trace.outcomeOf (load host document path) state
        loaded.2.registry = reached.registry ∧
        reached.registry.names = state.registry.names ++
          ((earlier.map (·.name)).removeAll state.registry.names).eraseDups ∧
        (∀ name, Entries.lookup reached.registry name =
          (definitions.reverse.find? fun definition => definition.name == name).or
            (Entries.lookup state.registry name)) ∧
        (later = [] ∧ loaded = (.ok (), reached.reporting [.loaded workflows.length path]) ∨
          ∃ entry rest failure, later = entry :: rest ∧ loaded.1 = .error failure ∧
            entry.Fails host reached failure loaded.2 ∧
            ∀ other others, DeclaredWorkflow.ofDocument other = .ok (earlier ++ entry :: others) →
              Trace.outcomeOf (load host other path) state = loaded) := by
  refine ⟨fun problems invalid => load_of_invalid invalid path, ?_⟩
  intro workflows valid
  obtain ⟨earlier, later, registrations, definitions, rfl, asks, accepted, ending⟩ :=
    exists_accepted host state workflows
  have answers := answers_of_accepted accepted
  have lookups := lookup_of_accepted accepted
  have names := names_of_accepted accepted
  rw [names_of_answers asks answers] at names
  refine ⟨earlier, later, registrations, definitions, rfl, asks, accepted, answers, ?_⟩
  intro reached loaded
  rcases ending with rfl | ⟨entry, rest, failure, after, rfl, fails⟩
  · rw [List.append_nil] at valid ⊢
    have finished : loaded = (.ok (), reached.reporting [.loaded earlier.length path]) :=
      outcomeOf_load_of_accepted asks accepted valid path
    refine ⟨?_, names, lookups, .inl ⟨rfl, finished⟩⟩
    rw [finished]
    rfl
  · have stopped : loaded = (.error failure, after) :=
      outcomeOf_load_of_fails asks accepted fails valid path
    rw [stopped]
    refine ⟨registry_of_fails fails, names, lookups, .inr ?_⟩
    refine ⟨entry, rest, failure, rfl, rfl, fails, ?_⟩
    intro other others declares
    exact outcomeOf_load_of_fails asks accepted fails declares path

end Engine

namespace HookModule

variable {modules : List HookModule} {path name exported : String} {found : HookModule}
variable {hook : Hook}

/-- A hook of a module that is in no package is imported from that module. -/
theorem importHook_of_export (parted : splitPath? path = some (name, exported))
    (visible : name.toList.head? ≠ some '.') (alone : ancestry name = [name])
    (there : modules.find? (fun other => other.name == name) = some found)
    (exports : found.exports.lookup exported = some (.hook hook)) :
    importHook modules path = .ok hook := by
  have reached : findNested modules none [name] = .ok (some found) := by
    rw [findNested, findNested.visit, there]
    exact findNested.eq_1 modules (some found)
  simp only [importHook, parted, if_neg visible, alone, reached, export?, exports]

end HookModule

/-! ## A timetable

Two of five declarations have the same name, one name is registered before, and of the fourth
declaration not every stage has a validator. -/

namespace Timetable

def entry (name plan : String) (hooks : List (String × Value)) : Value :=
  Value.ofEntries ([("name", .text name), ("definition", .text plan)] ++ hooks)

def document : Value :=
  Value.ofEntries
    [("workflows", .list
      [entry "Trip" "Go;Return" [("validators", .list [.null, .text "travel:check_age"])],
        entry "Visit" "Look" [],
        entry "Trip" "Ride" [("acceptor", .text "travel.accept_done")],
        entry "Stay" "Rest;Eat" [("validators", .list [.text "travel:reject"])],
        entry "Leave" "Go" []])]

def stay : DeclaredWorkflow := ⟨"Stay", "Rest;Eat", none, none, [some "travel:reject"]⟩

def workflows : List DeclaredWorkflow :=
  [⟨"Trip", "Go;Return", none, none, [none, some "travel:check_age"]⟩,
    ⟨"Visit", "Look", none, none, []⟩,
    ⟨"Trip", "Ride", some "travel.accept_done", none, []⟩,
    stay, ⟨"Leave", "Go", none, none, []⟩]

def host : Host :=
  ({ modules := [HookModule.demonstration "travel"] } : Programs).host 0

/-- What the declarations before the fourth ask for. -/
def registrations : List Registration :=
  [{ name := "Trip", plan := "Go;Return", validators := [none, some (.ready .checkAge)] },
    { name := "Visit", plan := "Look" },
    { name := "Trip", plan := "Ride", acceptor := some (.ready .acceptDone) }]

def definitions : List Definition :=
  registrations.filterMap fun registration => (Registry.define registration).toOption

/-- The state in which there is nothing but another visit. -/
def start : State := Trace.final Engine.register {} [{ name := "Visit", plan := "Stop;Look" }]

theorem imports {path exported : String} {hook : Hook}
    (parted : HookModule.splitPath? path = some ("travel", exported))
    (exports : (HookModule.demonstration "travel").exports.lookup exported = some (.hook hook)) :
    HookModule.importHook host.modules path = .ok hook :=
  HookModule.importHook_of_export parted (by decide) rfl rfl exports

theorem asks : List.Forall₂ (DeclaredWorkflow.Asks host) (workflows.take 3) registrations := by
  have checked : HookModule.importHook host.modules "travel:check_age" = .ok (.ready .checkAge) :=
    imports rfl rfl
  have done : HookModule.importHook host.modules "travel.accept_done" = .ok (.ready .acceptDone) :=
    imports rfl rfl
  refine .cons ⟨rfl, rfl, ?_⟩ (.cons ⟨rfl, rfl, ?_⟩ (.cons ⟨rfl, rfl, ?_⟩ .nil))
  · exact .cons rfl (.cons rfl (.cons rfl (.cons (congrArg (Except.map some) checked) .nil)))
  · exact .cons rfl (.cons rfl .nil)
  · exact .cons (congrArg (Except.map some) done) (.cons rfl .nil)

theorem accepted : Engine.Accepted start registrations definitions := by rfl

/-- The two stages of the fourth declaration would have one validator. -/
theorem fails : stay.Fails host (Trace.final Engine.register start registrations)
    (.configuration (.validatorCount "Stay" 2 1))
    ((Trace.final Engine.register start registrations).reporting
      [.planParsed "Rest;Eat" ["Rest", "Eat"]]) := by
  have refuses : HookModule.importHook host.modules "travel:reject" = .ok (.ready .reject) :=
    imports rfl rfl
  have asks : stay.Asks host ⟨"Stay", "Rest;Eat", none, none, [some (.ready .reject)]⟩ := by
    refine ⟨rfl, rfl, .cons rfl (.cons rfl (.cons ?_ .nil))⟩
    exact congrArg (Except.map some) refuses
  exact .refused asks rfl

end Timetable

theorem Engine.load_registers_timetable :
    DeclaredWorkflow.ofDocument Timetable.document = .ok Timetable.workflows ∧
      ∃ earlier later registrations definitions, Timetable.workflows = earlier ++ later ∧
        List.Forall₂ (DeclaredWorkflow.Asks Timetable.host) earlier registrations ∧
        Accepted Timetable.start registrations definitions ∧
        let loaded := Trace.outcomeOf
          (load Timetable.host Timetable.document "timetable.yaml") Timetable.start
        loaded.2.registry = (Trace.final register Timetable.start registrations).registry ∧
        loaded.2.registry.map (fun entry => (entry.1, entry.2.stageNames)) =
          [("Visit", ["Look"]), ("Trip", ["Ride"])] ∧
        loaded.1 = .error (.configuration (.validatorCount "Stay" 2 1)) := by
  have valid : DeclaredWorkflow.ofDocument Timetable.document = .ok Timetable.workflows := by rfl
  obtain ⟨-, loads⟩ :=
    load_registers Timetable.host Timetable.start Timetable.document "timetable.yaml"
  obtain ⟨earlier, later, registrations, definitions, parted, asks, accepted, -, registry, -⟩ :=
    loads Timetable.workflows valid
  refine ⟨valid, earlier, later, registrations, definitions, parted, asks, accepted, registry, ?_⟩
  rw [outcomeOf_load_of_fails Timetable.asks Timetable.accepted Timetable.fails valid]
  exact ⟨by rfl, rfl⟩

end Workflow
