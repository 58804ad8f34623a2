import Workflow.Proofs.Placing
import Workflow.Proofs.Registering

/-!
# Admission to a registry

A registration is refused exactly if it is at fault: it has no name, no stages, or hooks that do not
match its stages.  A refused one changes nothing; the definition of any other has a name, tokens and
a validator for each of its stages, and gets the one place of its name.  A registry that was filled
like this is a catalogue of the registrations that were made.
-/

namespace Workflow

namespace Registration

/-- How many parts of the definition text are not blank. -/
def stagesGiven (registration : Registration) : Nat :=
  (Text.splitAt ';' registration.plan.toList).countP fun part => !Text.isBlankText part

/-- What a registration is refused for. -/
inductive AtFault (registration : Registration) : Prop where
  | unnamed (unnamed : registration.name = "")
  | unstaged (blank : ∀ part ∈ Text.splitAt ';' registration.plan.toList,
      Text.isBlankText part = true)
  /-- A validator is given for some stages, but not one for each. -/
  | unmatched (given : registration.validators ≠ [])
      (uneven : registration.validators.length ≠ registration.stagesGiven)

theorem length_parse_plan (registration : Registration) :
    (Plan.parse registration.plan).length = registration.stagesGiven := by
  rw [Plan.length_parse, Plan.chunks, stagesGiven, List.countP_eq_length_filter]

theorem isEmpty_plan_iff {registration : Registration} :
    (Plan.parse registration.plan).isEmpty = true ↔ registration.stagesGiven = 0 := by
  rw [List.isEmpty_iff, ← List.length_eq_zero_iff, registration.length_parse_plan]

theorem stagesGiven_eq_zero_iff {registration : Registration} :
    registration.stagesGiven = 0 ↔
      ∀ part ∈ Text.splitAt ';' registration.plan.toList, Text.isBlankText part = true := by
  simp [stagesGiven, List.countP_eq_zero]

theorem atFault_iff {registration : Registration} :
    registration.AtFault ↔ registration.name = "" ∨ registration.stagesGiven = 0 ∨
      registration.validators ≠ [] ∧
        registration.validators.length ≠ registration.stagesGiven := by
  constructor
  · intro atFault
    cases atFault with
    | unnamed unnamed => exact .inl unnamed
    | unstaged blank => exact .inr (.inl (stagesGiven_eq_zero_iff.mpr blank))
    | unmatched given uneven => exact .inr (.inr ⟨given, uneven⟩)
  · rintro (unnamed | unstaged | unmatched)
    · exact .unnamed unnamed
    · exact .unstaged (stagesGiven_eq_zero_iff.mp unstaged)
    · exact .unmatched unmatched.1 unmatched.2

instance (registration : Registration) : Decidable registration.AtFault :=
  decidable_of_iff' _ atFault_iff

end Registration

/-- What the definition text says of a stage. -/
def Stage.planned (stage : Stage) : StagePlan :=
  ⟨stage.name, stage.tokens⟩

/-- A workflow that was made of a registration, with nothing of it left out: every stage that was
given is there with its name and its tokens, and has a validator. -/
structure Definition.Answers (definition : Definition) (registration : Registration) : Prop where
  name : definition.name = registration.name
  stageCount : definition.stageCount = registration.stagesGiven
  planned : definition.stages.map Stage.planned = Plan.parse registration.plan
  unvalidated : registration.validators = [] →
    definition.stages.map (·.validator) = List.replicate registration.stagesGiven .alwaysValid
  validated : registration.validators ≠ [] →
    definition.stages.map (·.validator) =
      registration.validators.map fun validator => validator.getD .alwaysValid
  acceptor : definition.acceptor = registration.acceptor.getD .identityAcceptor
  redirector : definition.redirector = registration.redirector

namespace Registry

variable {registration : Registration}

theorem validatorsFor_nil (plan : Plan) :
    validatorsFor plan [] = List.replicate plan.length .alwaysValid := by
  simp only [validatorsFor, List.isEmpty_nil, if_true, List.map_map]
  exact List.map_const'

theorem validatorsFor_of_ne_nil (plan : Plan) {validators : List (Option Hook)}
    (given : validators ≠ []) :
    validatorsFor plan validators =
      validators.map fun validator => validator.getD .alwaysValid := by
  simp [validatorsFor, given]

/-- Only a validator list that is given can fail to match the stages. -/
theorem length_validatorsFor_ne_iff :
    (validatorsFor (Plan.parse registration.plan) registration.validators).length ≠
        (Plan.parse registration.plan).length ↔
      registration.validators ≠ [] ∧
        registration.validators.length ≠ registration.stagesGiven := by
  by_cases given : registration.validators = []
  · simp [given, validatorsFor_nil]
  · rw [validatorsFor_of_ne_nil _ given, List.length_map, registration.length_parse_plan]
    simp [given]

theorem define_of_atFault (atFault : registration.AtFault) :
    ∃ fault, define registration = .error fault := by
  unfold define
  split
  · exact ⟨_, rfl⟩
  · next named =>
    dsimp only
    split
    · exact ⟨_, rfl⟩
    · next staged =>
      split
      · exact ⟨_, rfl⟩
      · next matching =>
        exfalso
        cases atFault with
        | unnamed unnamed => exact named unnamed
        | unstaged blank =>
            apply staged
            apply Registration.isEmpty_plan_iff.mpr
            exact Registration.stagesGiven_eq_zero_iff.mpr blank
        | unmatched given uneven =>
            exact matching (length_validatorsFor_ne_iff.mpr ⟨given, uneven⟩)

/-- Stages made of a plan and as many validators show both again. -/
theorem map_stages {plan : Plan} {validators : List Hook}
    (matching : validators.length = plan.length) {stages : List Stage}
    (made : stages = plan.zipWith (fun stage validator => ⟨stage.name, stage.tokens, validator⟩)
      validators) :
    stages.map Stage.planned = plan ∧ stages.map (·.validator) = validators := by
  rw [made, List.map_zipWith, List.map_zipWith, ← List.map_uncurry_zip_eq_zipWith,
    ← List.map_uncurry_zip_eq_zipWith]
  exact ⟨List.map_fst_zip (Nat.le_of_eq matching.symm),
    List.map_snd_zip (Nat.le_of_eq matching)⟩

theorem define_of_not_atFault (faultless : ¬registration.AtFault) :
    ∃ definition, define registration = .ok definition ∧ definition.Answers registration := by
  have named : registration.name ≠ "" := fun unnamed => faultless (.unnamed unnamed)
  have staged : ¬(Plan.parse registration.plan).isEmpty = true := by
    intro empty
    have unstaged := Registration.isEmpty_plan_iff.mp empty
    exact faultless (.unstaged (Registration.stagesGiven_eq_zero_iff.mp unstaged))
  have matching : (validatorsFor (Plan.parse registration.plan) registration.validators).length =
      (Plan.parse registration.plan).length := by
    apply Decidable.byContradiction
    intro uneven
    have unmatched := length_validatorsFor_ne_iff.mp uneven
    exact faultless (.unmatched unmatched.1 unmatched.2)
  have shown := map_stages matching rfl
  unfold define
  rw [if_neg named]
  dsimp only
  rw [if_neg staged, if_neg (not_not_intro matching)]
  refine ⟨_, rfl, ?_⟩
  exact {
    name := rfl
    stageCount := by
      rw [Definition.stageCount, List.length_zipWith, matching, Nat.min_self,
        registration.length_parse_plan]
    planned := shown.1
    unvalidated := by
      intro default
      rw [shown.2, default, validatorsFor_nil, registration.length_parse_plan]
    validated := by
      intro given
      rw [shown.2, validatorsFor_of_ne_nil _ given]
    acceptor := rfl
    redirector := rfl }

theorem answers_of_define {definition : Definition}
    (defined : define registration = .ok definition) : definition.Answers registration := by
  have faultless : ¬registration.AtFault := by
    intro atFault
    obtain ⟨fault, undefined⟩ := define_of_atFault atFault
    rw [undefined] at defined
    cases defined
  obtain ⟨made, same, answers⟩ := define_of_not_atFault faultless
  rw [defined, Except.ok.injEq] at same
  rw [same]
  exact answers

/-- A registry of workflows that registrations of a list asked for, each under its own name. -/
structure CatalogueOf (registrations : List Registration) (registry : Registry) : Prop where
  distinct : (Entries.keys registry).Nodup
  stored : ∀ name definition, (name, definition) ∈ registry →
    definition.name = name ∧ 0 < definition.stageCount ∧
      ∃ registration ∈ registrations, definition.Answers registration

variable {registrations : List Registration} {registry altered : Registry}

theorem catalogueOf_nil : CatalogueOf [] [] := by
  constructor
  · exact List.nodup_nil
  · intro name definition member
    cases member

theorem CatalogueOf.refused (catalogue : CatalogueOf registrations registry)
    (registration : Registration) : CatalogueOf (registrations ++ [registration]) registry := by
  refine ⟨catalogue.distinct, fun name definition member => ?_⟩
  obtain ⟨named, staged, other, made, answers⟩ := catalogue.stored name definition member
  exact ⟨named, staged, other, List.mem_append_left _ made, answers⟩

theorem CatalogueOf.placed (catalogue : CatalogueOf registrations registry)
    (faultless : ¬registration.AtFault) {definition : Definition}
    (answers : definition.Answers registration)
    (placed : Entries.Placed registry registration.name definition altered) :
    CatalogueOf (registrations ++ [registration]) altered := by
  constructor
  · rw [Entries.placed_iff.mp placed]
    have distinct := (Entries.wf_iff_nodup_keys registry).mpr catalogue.distinct
    exact (Entries.wf_iff_nodup_keys _).mp (distinct.put registration.name definition)
  · intro name other member
    rcases placed.mem member with before | new
    · exact (catalogue.refused registration).stored name other before
    · cases new
      have staged : 0 < definition.stageCount := by
        rw [answers.stageCount, Nat.pos_iff_ne_zero]
        exact fun none => faultless (.unstaged (Registration.stagesGiven_eq_zero_iff.mp none))
      exact ⟨answers.name, staged, registration, by simp, answers⟩

end Registry

/-- What becomes of a registration.  It is refused exactly if it is at fault; a failure leaves the
registry as it was, and otherwise the definition that answers it gets the place of its name. -/
structure Taken.Admits (taken : Taken Registration Failure State Definition) : Prop where
  refused_iff : (∃ fault, taken.outcome = .error (.configuration fault)) ↔ taken.command.AtFault
  untouched : ∀ failure, taken.outcome = .error failure →
    taken.after.registry = taken.before.registry
  placed : ¬taken.command.AtFault →
    ∃ definition, taken.outcome = .ok definition ∧ definition.Answers taken.command ∧
      Entries.Placed taken.before.registry taken.command.name definition taken.after.registry

namespace Engine

variable {state : State} {registration : Registration}

theorem register_of_error (state : State) {fault : ConfigurationFault}
    (undefined : Registry.define registration = .error fault) :
    ∃ reached, register registration state = .error (.configuration fault) reached := by
  by_cases named : registration.name = "" <;>
    simp [register, bind_apply, named, register_map, undefined, Except.map]

theorem register_of_ok (state : State) {definition : Definition}
    (defined : Registry.define registration = .ok definition) :
    ∃ reached, register registration state = .ok definition reached := by
  by_cases named : registration.name = ""
  · simp [Registry.define, named] at defined
  · by_cases replacing : Entries.has state.registry definition.name = true <;>
      simp [register, bind_apply, map_apply, named, register_map, defined, Except.map, replacing]

theorem take_register {definition : Definition} {reached : State}
    (registered : register registration state = .ok definition reached) :
    Trace.take register state registration = ⟨registration, state, .ok definition, reached⟩ := by
  rw [Trace.take, Trace.outcomeOf, registered]

theorem admits_take (state : State) (registration : Registration) :
    (Trace.take register state registration).Admits := by
  by_cases atFault : registration.AtFault
  · obtain ⟨fault, undefined⟩ := Registry.define_of_atFault atFault
    obtain ⟨reached, refused⟩ := register_of_error state undefined
    have taken : Trace.take register state registration =
        ⟨registration, state, .error (.configuration fault), reached⟩ := by
      rw [Trace.take, Trace.outcomeOf, refused]
    rw [taken]
    constructor
    · exact ⟨fun _ => atFault, fun _ => ⟨fault, rfl⟩⟩
    · exact fun _ _ => (register_error refused).2
    · exact fun faultless => absurd atFault faultless
  · obtain ⟨definition, defined, answers⟩ := Registry.define_of_not_atFault atFault
    obtain ⟨reached, accepted⟩ := register_of_ok state defined
    have put := (register_ok accepted).2.2
    rw [name_define defined] at put
    rw [take_register accepted]
    constructor
    · constructor
      · rintro ⟨fault, refused⟩
        cases refused
      · exact fun refused => absurd refused atFault
    · intro failure refused
      cases refused
    · exact fun _ => ⟨definition, rfl, answers, Entries.placed_iff.mpr put⟩

theorem admits_of_mem_run {registrations : List Registration}
    {taken : Taken Registration Failure State Definition}
    (made : taken ∈ Trace.run register state registrations) : taken.Admits := by
  induction registrations generalizing state with
  | nil => cases made
  | cons registration rest ih =>
      rcases List.mem_cons.mp made with rfl | later
      · exact admits_take state registration
      · exact ih later

theorem catalogueOf_take {earlier : List Registration}
    (catalogue : Registry.CatalogueOf earlier state.registry) (registration : Registration) :
    Registry.CatalogueOf (earlier ++ [registration])
      (Trace.take register state registration).after.registry := by
  have admits := admits_take state registration
  by_cases atFault : registration.AtFault
  · obtain ⟨fault, refused⟩ := admits.refused_iff.mpr atFault
    rw [admits.untouched _ refused]
    exact catalogue.refused registration
  · obtain ⟨definition, -, answers, placed⟩ := admits.placed atFault
    exact catalogue.placed atFault answers placed

theorem catalogueOf_final {earlier : List Registration}
    (catalogue : Registry.CatalogueOf earlier state.registry) (registrations : List Registration) :
    Registry.CatalogueOf (earlier ++ registrations)
      (Trace.final register state registrations).registry := by
  induction registrations generalizing state earlier with
  | nil =>
      rw [List.append_nil]
      exact catalogue
  | cons registration rest ih =>
      have stored := ih (catalogueOf_take catalogue registration)
      rw [List.append_assoc, List.singleton_append] at stored
      exact stored

/-- A registry that starts empty and is only registered with, whatever becomes of each registration,
refuses exactly the registrations that are at fault and gives every other definition the place of
its name.  It ends as a catalogue of workflows that were asked for, with stages that have all that
was given for them. -/
theorem registry_admits (unfilled : state.registry = [])
    (registrations : List Registration) :
    (∀ taken ∈ Trace.run register state registrations, taken.Admits) ∧
      Registry.CatalogueOf registrations (Trace.final register state registrations).registry := by
  constructor
  · intro taken made
    exact admits_of_mem_run made
  · have catalogue : Registry.CatalogueOf [] state.registry := by
      rw [unfilled]
      exact Registry.catalogueOf_nil
    exact catalogueOf_final catalogue registrations

/-- Trips and visits are registered, some of them badly, and the trip once more. -/
def travels : List Registration :=
  [{ name := "", plan := "Go" },
    { name := "Trip", plan := "Go(there); Return",
      validators := [none, some (.custom 0 .validator "strict" 1)] },
    { name := "Visit", plan := "Look" },
    { name := "Trip", plan := " ; " },
    { name := "Trip", plan := "Go; Return; Rest", validators := [none, none] },
    { name := "Trip", plan := "; Ride(); ; Stay(a, ) ; Rest;" }]

theorem registry_admits_travels :
    ({} : State).registry = [] ∧
      (∀ taken ∈ Trace.run register {} travels, taken.Admits) ∧
      Registry.CatalogueOf travels (Trace.final register {} travels).registry ∧
      travels.map (fun registration => decide registration.AtFault) =
        [true, false, false, true, true, false] ∧
      (Trace.final register {} travels).registry.map (fun entry => (entry.1, entry.2.stageCount)) =
        [("Trip", 3), ("Visit", 1)] := by
  have admitted := @registry_admits {} rfl travels
  exact ⟨rfl, admitted.1, admitted.2, by decide +kernel, by decide +kernel⟩

end Engine

end Workflow
